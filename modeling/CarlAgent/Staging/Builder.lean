import CarlAgent.Foundation.Sort
import CarlAgent.Staging.Types

/-!
# Preparing a stage

The builder walks the source tree and copies every regular text file that no
rule excludes.  The source does not change during the walk, so metadata that
the code reads again to notice a change is read once here.  A walk carries the
number of levels it may still descend.
-/

namespace CarlAgent.Staging

open Foundation Security CarlAgent.Task

structure FileSystem where
  euid : Nat
  identity : String → EntryIdentity

def FileSystem.createPrivateDirectory (system : FileSystem) (path : String) : FileMetadata :=
  { owner := system.euid, mode := 0o700, links := 2, device := (system.identity path).device,
    inode := (system.identity path).inode }

def FileSystem.createPrivateFile (system : FileSystem) (path : String) : FileMetadata :=
  { owner := system.euid, mode := 0o600, links := 1, device := (system.identity path).device,
    inode := (system.identity path).inode }

structure BuildState where
  artifacts : ArtifactStore
  entryCount : Nat
  pathBytes : Nat
  totalBytes : Nat
  entries : List StageManifestEntry
  baselineEntries : List SealedBaselineEntry
  directories : List String
  exclusions : List StageExclusion

def BuildState.new (artifacts : ArtifactStore) : BuildState :=
  { artifacts, entryCount := 0, pathBytes := 0, totalBytes := 0, entries := [],
    baselineEntries := [], directories := [], exclusions := [] }

def BuildState.exclude (state : BuildState) (path : String)
    (reason : StageExclusionReason) : BuildState :=
  { state with exclusions := state.exclusions ++ [{ path, reason }] }

def decimalText (n : Nat) : String :=
  String.ofList (Text.decimal n)

def sourceIdentity (metadata : FileMetadata) : SourceIdentity :=
  { platform := .unix, identityA := decimalText metadata.device,
    identityB := decimalText metadata.inode, ownerId := decimalText metadata.owner,
    ownerMode := some (metadata.mode &&& 0o7777) }

def isUtf8 (content : List UInt8) : Bool :=
  (String.fromUTF8? ⟨content.toArray⟩).isSome

def isSafeName (name : String) : Bool :=
  name != "." && name != ".." && !name.toList.any fun c => c == '/' || c == '\\'

section Walk

variable (sha256 : Sha256) (system : FileSystem) (limits : StageLimits)

/-- The copy of one file and the state after it; no copy when the file is
excluded. -/
def copyRegularFile (metadata : FileMetadata) (contents : List UInt8) (relative : String)
    (state : BuildState) : Except StageError (Option StageNode × BuildState) := do
  if metadata.links ≠ 1 then
    .ok (none, state.exclude relative .hardLink)
  else do
    rejectIf (contents.length > limits.maxFileBytes) (.at .limitExceeded relative)
    rejectIf (state.entries.length ≥ limits.maxFiles) (.at .limitExceeded relative)
    let prospectiveTotal := state.totalBytes + contents.length
    rejectIf (prospectiveTotal > limits.maxTotalBytes) (.at .limitExceeded relative)
    if !isUtf8 contents then
      .ok (none, state.exclude relative .nonUtf8)
    else
      match inspectBytes contents with
      | .error .nonUtf8 => .ok (none, state.exclude relative .nonUtf8)
      | .error (.rule rule) => .error (.secret relative rule)
      | .ok () => do
        let (artifact, artifacts) ←
          (state.artifacts.put sha256 contents).mapError fun _ =>
            .at .artifact relative
        let contentDigest := sha256 contents
        rejectIf (artifact.id ≠ contentDigest) (.at .artifact relative)
        .ok (some (.file (system.createPrivateFile relative) contents),
          { state with
            artifacts
            totalBytes := prospectiveTotal
            entries := state.entries ++
              [{ path := relative, bytes := contents.length, contentDigest }]
            baselineEntries := state.baselineEntries ++
              [{ path := relative, bytes := contents.length, contentDigest,
                 contentArtifactId := artifact.id, sourceIdentity := sourceIdentity metadata }] })

/-- One entry of the source; `walkChild` descends into a directory. -/
def walkEntry (walkChild : String → List StageEntry → BuildState →
      Except StageError (List StageEntry × BuildState))
    (parent : String) (acc : List StageEntry × BuildState) (entry : StageEntry) :
    Except StageError (List StageEntry × BuildState) := do
  let name ← requireSome entry.1.toStr (.at .invalidEntry parent)
  rejectIf (isSafeName name = false) (.at .invalidEntry parent)
  let relative := RelativePath.join parent name
  rejectIf (relative.utf8ByteSize > maxRelativePathBytes) (.at .limitExceeded relative)
  let pathBytes ← (accountPathBytes acc.2.pathBytes relative).mapError
    fun _ => .at .limitExceeded relative
  let state := { acc.2 with pathBytes }
  match entry.2 with
  | .symlink => .ok (acc.1, state.exclude relative .symlink)
  | .directory _ children =>
    if protectedDirectory name then
      .ok (acc.1, state.exclude relative .protectedPath)
    else do
      let (copied, state) ← walkChild relative children
        { state with directories := state.directories ++ [relative] }
      .ok (acc.1 ++ [(entry.1, .directory (system.createPrivateDirectory relative) copied)], state)
  | .special =>
    if protectedDirectory name then
      .ok (acc.1, state.exclude relative .protectedPath)
    else .ok (acc.1, state.exclude relative .specialFile)
  | .file metadata contents =>
    if protectedDirectory name then
      .ok (acc.1, state.exclude relative .protectedPath)
    else
      match excludedFile relative name with
      | some reason => .ok (acc.1, state.exclude relative reason)
      | none => do
        let (copied, state) ← copyRegularFile sha256 system limits metadata contents relative state
        .ok (acc.1 ++ (copied.map fun node => (entry.1, node)).toList, state)

def walkDirectory : Nat → String → List StageEntry → BuildState →
    Except StageError (List StageEntry × BuildState)
  | 0, parent, _, _ => .error (.at .limitExceeded parent)
  | levels + 1, parent, entries, state => do
    let remainingEntries := limits.maxFiles - state.entryCount
    rejectIf (entries.length > remainingEntries) (.at .limitExceeded parent)
    (sortByKey (fun entry => entry.1.order) entries).foldlM
      (walkEntry sha256 system limits (walkDirectory levels) parent)
      ([], { state with entryCount := state.entryCount + entries.length })

end Walk

/-! ## The copy is well formed -/

section WellFormed

variable {sha256 : Sha256} {system : FileSystem}
  {limits : StageLimits}
  {walkChild : String → List StageEntry → BuildState →
    Except StageError (List StageEntry × BuildState)}
  {parent : String} {entry : StageEntry} {state state' : BuildState}
  {destination destination' : List StageEntry}

theorem walkEntry_adds (h : walkEntry sha256 system limits walkChild parent (destination, state)
      entry = .ok (destination', state')) : destination' = destination ∨
      ∃ node, destination' = destination ++ [(entry.1, node)] ∧
        ∀ metadata inner, node = .directory metadata inner →
          ∃ metadata' children middle after, entry.2 = .directory metadata' children ∧
            walkChild middle children after = .ok (inner, state') := by
  simp only [walkEntry, ok_iff] at h
  obtain ⟨name, -, -, -, pathBytes, -, h⟩ := h
  cases hnode : entry.2 with
  | symlink =>
    simp only [hnode, Except.ok.injEq, Prod.mk.injEq] at h
    exact .inl h.1.symm
  | special =>
    simp only [hnode] at h
    split at h
    all_goals
      simp only [Except.ok.injEq, Prod.mk.injEq] at h
      exact .inl h.1.symm
  | directory metadata children =>
    simp only [hnode] at h
    split at h
    · simp only [Except.ok.injEq, Prod.mk.injEq] at h
      exact .inl h.1.symm
    · simp only [ok_iff, Prod.mk.injEq] at h
      obtain ⟨⟨copied, after⟩, hchild, rfl, rfl⟩ := h
      refine .inr ⟨_, rfl, ?_⟩
      rintro metadata' inner ⟨⟩
      exact ⟨metadata, children, _, _, rfl, hchild⟩
  | file metadata contents =>
    simp only [hnode] at h
    split at h
    · simp only [Except.ok.injEq, Prod.mk.injEq] at h
      exact .inl h.1.symm
    · split at h
      · simp only [Except.ok.injEq, Prod.mk.injEq] at h
        exact .inl h.1.symm
      · simp only [ok_iff, Prod.mk.injEq] at h
        obtain ⟨⟨copied, after⟩, hcopy, rfl, rfl⟩ := h
        cases copied with
        | none => exact .inl (by simp)
        | some node =>
          refine .inr ⟨node, rfl, ?_⟩
          rintro metadata' inner rfl
          exfalso
          revert hcopy
          simp only [copyRegularFile]
          split
          · simp
          · simp only [ok_iff]
            rintro ⟨-, -, -, hcopy⟩
            revert hcopy
            split
            · simp
            · split
              · simp
              · simp
              · simp [bind_eq_ok]

theorem walkEntries_wellFormed {entries : List StageEntry}
    (hchildren : ∀ name metadata children, (name, Node.directory metadata
      children) ∈ entries → WellFormed children)
    (hwalk : ∀ parent children state copied state', WellFormed children →
      walkChild parent children state = .ok (copied, state') →
      WellFormed copied) (hvalid : ∀ entry ∈ entries, entry.1.Valid)
    (hdistinct : (destination.map Prod.fst ++ entries.map Prod.fst).Nodup)
    (hdestination : WellFormed destination)
    (h : entries.foldlM (walkEntry sha256 system limits walkChild parent)
      (destination, state) = .ok (destination', state')) : WellFormed destination' := by
  induction entries generalizing destination state with
  | nil =>
    simp only [List.foldlM_nil, pure, Except.pure, Except.ok.injEq, Prod.mk.injEq] at h
    rw [← h.1]
    exact hdestination
  | cons entry rest ih =>
    rw [foldlM_cons_eq_ok] at h
    obtain ⟨⟨middle, after⟩, hentry, hrest⟩ := h
    have hvalidRest : ∀ other ∈ rest, other.1.Valid :=
      fun other hmem => hvalid other (List.mem_cons_of_mem _ hmem)
    have hchildrenRest : ∀ name metadata children, (name, Node.directory metadata children) ∈ rest →
        WellFormed children :=
      fun name metadata children hmem =>
        hchildren name metadata children (List.mem_cons_of_mem _ hmem)
    rcases walkEntry_adds hentry with rfl | ⟨node, rfl, hnode⟩
    · refine ih hchildrenRest hvalidRest ?_ hdestination hrest
      refine hdistinct.sublist ?_
      exact List.Sublist.append_left (by simp) _
    · refine ih hchildrenRest hvalidRest ?_ ?_ hrest
      · simpa using hdistinct
      · refine hdestination.concat (hvalid entry (by simp)) ?_ ?_
        · intro hmem
          have hdisjoint := List.disjoint_of_nodup_append hdistinct
          exact hdisjoint hmem (by simp)
        · intro metadata inner hdirectory
          obtain ⟨metadata', children, inside, before, hsource, hchild⟩ :=
            hnode metadata inner hdirectory
          refine hwalk _ _ _ _ _ (hchildren entry.1 metadata' children ?_) hchild
          rw [← hsource]
          exact List.mem_cons_self

theorem walkDirectory_wellFormed {levels : Nat} {entries : List StageEntry}
    (hentries : WellFormed entries)
    (h : walkDirectory sha256 system limits levels parent entries state =
      .ok (destination', state')) : WellFormed destination' := by
  induction levels generalizing parent entries state destination' state' with
  | zero => simp [walkDirectory] at h
  | succ levels ih =>
    simp only [walkDirectory, ok_iff] at h
    obtain ⟨-, h⟩ := h
    have hperm : (sortByKey (fun entry : StageEntry => entry.1.order)
        entries).Perm entries := List.perm_insertionSort _ entries
    refine walkEntries_wellFormed ?_ ?_ ?_ ?_ WellFormed.nil h
    · intro name metadata children hmem
      exact hentries.child (hperm.mem_iff.mp hmem)
    · intro parent children state copied state' hchildren hchild
      exact ih hchildren hchild
    · intro entry hmem
      exact hentries.names entry (hperm.mem_iff.mp hmem)
    · simpa using (hperm.map Prod.fst).nodup_iff.mpr hentries.distinct

end WellFormed

section Prepare

variable (sha256 : Sha256) (system : FileSystem) (limits : StageLimits)

structure PreparedStage where
  stage : SanitizedStage
  tree : StageTree
  artifacts : ArtifactStore

abbrev PreparedStage.baseline (prepared : PreparedStage) : SealedBaseline :=
  prepared.stage.baseline

def sealBaseline (state : BuildState) : Except StageError (SanitizedStage × ArtifactStore) := do
  let entries := sortByKey StageManifestEntry.path state.entries
  let baselineEntries := sortByKey SealedBaselineEntry.path state.baselineEntries
  let directories := sortByKey id state.directories
  let exclusions := sortByKey StageExclusion.path state.exclusions
  let manifest ← buildManifest sha256 state.totalBytes entries
  let manifestBytes ← manifest.canonicalBytes
  let (manifestArtifact, artifacts) ←
    (state.artifacts.put sha256 manifestBytes).mapError fun _ =>
      .new .artifact
  rejectIf (manifestArtifact.id ≠ manifest.digest) (.new .artifact)
  let sourcePreconditions ← (canonicalSourcePreconditions manifest.digest
      (baselineEntries.map SealedBaselineEntry.precondition)).mapError fun _ => .new .artifact
  let (preconditionsArtifact, artifacts) ←
    (artifacts.put sha256 sourcePreconditions).mapError fun _ =>
      .new .artifact
  .ok ({ manifest
         baseline :=
          { manifest, manifestArtifactId := manifestArtifact.id,
            sourcePreconditionsArtifactId := preconditionsArtifact.id,
            sourcePreconditionsDigest := preconditionsArtifact.id, entries := baselineEntries,
            directories }
         exclusions }, artifacts)

def prepare (source : StageTree) (artifacts : ArtifactStore) : Except StageError PreparedStage :=
  match h : walkDirectory sha256 system limits (maxDepth + 1) ""
      source.entries (BuildState.new artifacts) with
  | .error error => .error error
  | .ok (destination, state) => do
    let (stage, artifacts) ← sealBaseline sha256 state
    .ok { stage
          tree :=
            { metadata := system.createPrivateDirectory "", entries := destination,
              wellFormed := walkDirectory_wellFormed source.wellFormed h }
          artifacts }

end Prepare

end CarlAgent.Staging
