import CarlAgent.Staging.Scan

/-!
# What a walk leaves behind

The items of the copy are exactly the files and directories that the walk
records, each one is admitted by a scan, and the counters of the walk bound
the sums over them.
-/

namespace CarlAgent.Staging

open List Foundation Security CarlAgent.Task RelativePath BuildState SealedBaselineEntry

def manifestEntryOf (sha256 : Sha256) :
    String × StageItem → Option StageManifestEntry
  | (path, .file _ content) =>
    some { path, bytes := content.length, contentDigest := sha256 content }
  | _ => none

def directoryPathOf : String × StageItem → Option String
  | (path, .directory _) => some path
  | _ => none

/-- An item of the copy, with its content among the artifacts. -/
def Staged (sha256 : Sha256) (system : FileSystem) (limits : StageLimits)
    (artifacts : ArtifactStore) : String × StageItem → Prop
  | (path, .file metadata content) =>
    Admits limits.maxFileBytes (path, .file metadata content) ∧
      metadata = system.createPrivateFile path ∧
      artifacts.readVerified sha256 (sha256 content) =
        .ok { id := sha256 content, bytes := content }
  | (path, .directory metadata) =>
    Admits limits.maxFileBytes (path, .directory metadata) ∧
      metadata = system.createPrivateDirectory path
  | _ => False

def SealedBaselineEntry.manifestEntry (entry : SealedBaselineEntry) : StageManifestEntry :=
  { path := entry.path, bytes := entry.bytes, contentDigest := entry.contentDigest }

structure SealedBaselineEntry.Sound (entry : SealedBaselineEntry) : Prop where
  artifact : entry.contentArtifactId = entry.contentDigest
  platform : entry.sourceIdentity.platform = .unix
  mode : ∃ mode, entry.sourceIdentity.ownerMode = some mode ∧ mode ≤ 0o7777
  identityA : entry.sourceIdentity.identityA ≠ ""
  identityB : entry.sourceIdentity.identityB ≠ ""
  ownerId : entry.sourceIdentity.ownerId ≠ ""

structure BuildState.Sound (limits : StageLimits) (state : BuildState) : Prop where
  entryCount : state.entryCount ≤ limits.maxFiles
  pathBytes : state.pathBytes ≤ maxAggregatePathBytes
  totalBytes : state.totalBytes ≤ limits.maxTotalBytes
  manifest : state.baselineEntries.map manifestEntry = state.entries
  identities : ∀ entry ∈ state.baselineEntries, entry.Sound

theorem decimalText_ne_empty (n : Nat) : decimalText n ≠ "" := by
  intro h
  have hlist : Text.decimal n = [] := by
    have := congrArg String.toList h
    simpa [decimalText] using this
  exact Nat.toDigits_ne_nil hlist

theorem sourceIdentity_mode_le (metadata : FileMetadata) : metadata.mode &&& 0o7777 ≤ 0o7777 :=
  Nat.and_le_right

/-- The walk from one state to the next made these copies in the directory,
for entries of which `counted` were counted before. -/
structure Walked (sha256 : Sha256) (system : FileSystem)
    (limits : StageLimits) (parent : String) (before after : BuildState)
    (counted : Nat) (copied : List StageEntry) : Prop where
  entries : after.entries = before.entries ++
    (itemsBelow parent copied).filterMap (manifestEntryOf sha256)
  directories : after.directories = before.directories ++
    (itemsBelow parent copied).filterMap directoryPathOf
  count : before.entryCount + (itemsBelow parent copied).length ≤ after.entryCount + counted
  pathBytes : before.pathBytes + itemPathBytes (itemsBelow parent copied) ≤ after.pathBytes
  totalBytes : after.totalBytes = before.totalBytes + itemContentBytes (itemsBelow parent copied)
  staged : ∀ item ∈ itemsBelow parent copied, Staged sha256 system limits after.artifacts item
  keeps : ArtifactStore.Keeps sha256 before.artifacts after.artifacts
  sound : before.Sound limits → after.Sound limits

section Walk

variable {sha256 : Sha256} {system : FileSystem}
  {limits : StageLimits} {parent : String}
  {before middle after : BuildState} {counted counted' : Nat}
  {copied copied' : List StageEntry}

variable {item : String × StageItem} {pathBytes : Nat}

theorem Staged.mono {first second : ArtifactStore}
    (hkeeps : ArtifactStore.Keeps sha256 first second)
    (h : Staged sha256 system limits first item) : Staged sha256 system limits second item := by
  obtain ⟨path, node⟩ := item
  cases node with
  | file metadata content =>
    obtain ⟨hadmits, hmetadata, hread⟩ := h
    exact ⟨hadmits, hmetadata, hkeeps _ _ hread⟩
  | directory metadata | symlink | special | unnamed => exact h

theorem Staged.admits {artifacts : ArtifactStore}
    (h : Staged sha256 system limits artifacts item) : Admits limits.maxFileBytes item := by
  obtain ⟨path, node⟩ := item
  cases node with
  | file metadata content => exact h.1
  | directory metadata => exact h.1
  | symlink | special | unnamed => exact h.elim

theorem Walked.refl (state : BuildState) : Walked sha256 system limits parent state state 0 [] where
  entries := by simp
  directories := by simp
  count := by simp
  pathBytes := by simp
  totalBytes := by simp
  staged := by simp
  keeps := ArtifactStore.Keeps.refl _
  sound := id

theorem Walked.trans (h₁ : Walked sha256 system limits parent before middle counted copied)
    (h₂ : Walked sha256 system limits parent middle after counted' copied') :
    Walked sha256 system limits parent before after (counted + counted') (copied ++ copied') where
  entries := by
    rw [h₂.entries, h₁.entries, itemsBelow_append, filterMap_append, append_assoc]
  directories := by
    rw [h₂.directories, h₁.directories, itemsBelow_append, filterMap_append, append_assoc]
  count := by
    have hfirst := h₁.count
    have hsecond := h₂.count
    rw [itemsBelow_append, length_append]
    omega
  pathBytes := by
    have hfirst := h₁.pathBytes
    have hsecond := h₂.pathBytes
    rw [itemsBelow_append, itemPathBytes_append]
    omega
  totalBytes := by
    rw [h₂.totalBytes, h₁.totalBytes, itemsBelow_append, itemContentBytes_append, Nat.add_assoc]
  staged := by
    intro item hitem
    rw [itemsBelow_append, mem_append] at hitem
    rcases hitem with hmem | hmem
    · exact (h₁.staged item hmem).mono h₂.keeps
    · exact h₂.staged item hmem
  keeps := h₁.keeps.trans h₂.keeps
  sound := fun h => h₂.sound (h₁.sound h)

theorem Walked.excluded {state : BuildState} (hle : state.pathBytes ≤ pathBytes)
    (hmax : pathBytes ≤ maxAggregatePathBytes) (relative : String) (reason : StageExclusionReason) :
    Walked sha256 system limits parent state
      ({ state with pathBytes }.exclude relative reason) 1 [] where
  entries := by simp [exclude]
  directories := by simp [exclude]
  count := by simp [exclude]
  pathBytes := by simpa [exclude] using hle
  totalBytes := by simp [exclude]
  staged := by simp
  keeps := ArtifactStore.Keeps.refl _
  sound := fun h =>
    ⟨h.entryCount, hmax, h.totalBytes, h.manifest, h.identities⟩

theorem copyRegularFile_walked {metadata : FileMetadata} {contents : List UInt8} {text : String}
    {state state' : BuildState} {node : Option StageNode} (hpath : AdmitsPath (join parent text))
    (hplain : excludedFile (join parent text) (name (join parent text)) = none)
    (hsum : pathBytes = state.pathBytes + (join parent text).utf8ByteSize)
    (hmax : pathBytes ≤ maxAggregatePathBytes)
    (h : copyRegularFile sha256 system limits metadata contents
      (join parent text) { state with pathBytes } = .ok (node, state')) :
    Walked sha256 system limits parent state state' 1
      (node.map fun node => (FileName.utf8 text, node)).toList := by
  have hskip : ∀ {reason}, (.ok (none, { state with pathBytes }.exclude (join parent text) reason) :
        Except StageError _) = .ok (node, state') → Walked sha256 system limits parent state state' 1
      (node.map fun node => (FileName.utf8 text, node)).toList := by
    rintro reason ⟨⟩
    exact Walked.excluded (by omega) hmax _ _
  simp only [copyRegularFile] at h
  split at h
  · exact hskip h
  · simp only [ok_iff, not_lt] at h
    obtain ⟨hlength, -, htotal, h⟩ := h
    split at h
    · exact hskip h
    · rename_i hutf8
      simp only [Bool.not_eq_true', Bool.not_eq_false] at hutf8
      split at h
      · exact hskip h
      · simp at h
      · rename_i hclean
        simp only [ok_iff, ne_eq, not_not, Prod.mk.injEq] at h
        obtain ⟨⟨artifact, artifacts⟩, hput, hid, rfl, rfl⟩ := h
        obtain ⟨hartifact, hread, hkeeps⟩ := ArtifactStore.put_eq_ok hput
        have hitems : itemsBelow parent [(FileName.utf8 text, Node.file
            (system.createPrivateFile (join parent text)) contents)] =
            [(join parent text, .file (system.createPrivateFile (join parent text)) contents)] := by
          simp [itemsBelow, Node.items]
        simp only [Option.map_some, Option.toList_some]
        refine ⟨?_, ?_, ?_, ?_, ?_, ?_, hkeeps, ?_⟩
        · rw [hitems]
          rfl
        · rw [hitems]
          simp [directoryPathOf]
        · rw [hitems]
          simp
        · rw [hitems]
          simp [hsum]
        · rw [hitems]
          simp [Item.contentBytes]
        · rw [hitems]
          intro item hitem
          rw [mem_singleton] at hitem
          subst hitem
          refine ⟨⟨hpath, hplain, rfl, hlength, hutf8, hclean⟩, rfl, ?_⟩
          rw [hread, hartifact]
        · intro hsound
          refine ⟨hsound.entryCount, hmax, htotal, ?_, ?_⟩
          · simp [hsound.manifest, manifestEntry]
          · intro entry hentry
            rw [mem_append, mem_singleton] at hentry
            rcases hentry with hold | rfl
            · exact hsound.identities entry hold
            · exact
                { artifact := hid, platform := rfl,
                  mode := ⟨_, rfl, sourceIdentity_mode_le metadata⟩,
                  identityA := decimalText_ne_empty _, identityB := decimalText_ne_empty _,
                  ownerId := decimalText_ne_empty _ }

variable {walkChild : String → List StageEntry → BuildState →
    Except StageError (List StageEntry × BuildState)}
  {entry : StageEntry} {entries : List StageEntry}
  {state state' : BuildState} {destination destination' : List StageEntry}
  {levels : Nat}

theorem walkEntry_walked (hvalid : entry.1.Valid) (hchild : ∀ text metadata children middle copied,
      entry = (.utf8 text, .directory metadata children) →
      walkChild (join parent text) children middle = .ok (copied, state') →
      depth (join parent text) ≤ maxDepth ∧
        Walked sha256 system limits (join parent text) middle state' 0 copied)
    (h : walkEntry sha256 system limits walkChild parent (destination, state)
      entry = .ok (destination', state')) : ∃ new, destination' = destination ++ new ∧
      Walked sha256 system limits parent state state' 1 new := by
  obtain ⟨name, node⟩ := entry
  cases name with
  | other bytes => simp [walkEntry, FileName.toStr, bind_eq_ok] at h
  | utf8 text =>
    simp only [walkEntry, FileName.toStr, requireSome, ok_iff, Bool.not_eq_false, not_lt,
      accountPathBytes_eq_ok, exists_eq_left'] at h
    obtain ⟨hsafe, hlength, pathBytes, ⟨hsum, hmax⟩, h⟩ := h
    have hlast : name (join parent text) = text := name_join parent hvalid.2.1
    have hskip : ∀ {reason}, (.ok (destination, { state with pathBytes }.exclude (join parent text)
        reason) : Except StageError _) = .ok (destination', state') → ∃ new, destination' =
          destination ++ new ∧ Walked sha256 system limits parent state state' 1 new := by
      -- an excluded entry is counted but not copied
      rintro reason ⟨⟩
      exact ⟨[], by simp, Walked.excluded (by omega) hmax _ _⟩
    cases node with
    | symlink => exact hskip h
    | special =>
      simp only at h
      split at h
      all_goals exact hskip h
    | directory metadata children =>
      simp only at h
      split at h
      · exact hskip h
      · rename_i hprotected
        simp only [Bool.not_eq_true] at hprotected
        simp only [ok_iff, Prod.mk.injEq] at h
        obtain ⟨⟨copied, after⟩, hscan, hdestination, hafter⟩ := h
        simp only at hdestination hafter
        subst hdestination hafter
        obtain ⟨hdepth, hwalked⟩ := hchild text metadata children _ copied rfl hscan
        have hitems : itemsBelow parent [(FileName.utf8 text,
            Node.directory (system.createPrivateDirectory (join parent text)) copied)] =
            (join parent text, .directory (system.createPrivateDirectory (join parent text))) ::
              itemsBelow (join parent text) copied := by
          simp [itemsBelow, Node.items]
        have hpath : AdmitsPath (join parent text) := by
          rw [AdmitsPath, hlast]
          exact ⟨hsafe, hlength, hprotected⟩
        refine ⟨_, rfl, ?_, ?_, ?_, ?_, ?_, ?_, hwalked.keeps, ?_⟩
        · rw [hitems, hwalked.entries, filterMap_cons_none rfl]
        · rw [hitems, hwalked.directories]
          simp [directoryPathOf]
        · rw [hitems, length_cons]
          have hcount := hwalked.count
          simp only at hcount
          omega
        · rw [hitems, itemPathBytes_cons]
          have hbytes := hwalked.pathBytes
          simp only at hbytes ⊢
          omega
        · rw [hitems, hwalked.totalBytes]
          simp [Item.contentBytes]
        · rw [hitems]
          intro item hitem
          rcases mem_cons.mp hitem with rfl | hmem
          · exact ⟨⟨hpath, hdepth⟩, rfl⟩
          · exact hwalked.staged item hmem
        · intro hsound
          exact hwalked.sound ⟨hsound.entryCount, hmax, hsound.totalBytes,
            hsound.manifest, hsound.identities⟩
    | file metadata contents =>
      simp only at h
      split at h
      · exact hskip h
      · rename_i hprotected
        simp only [Bool.not_eq_true] at hprotected
        split at h
        · exact hskip h
        · rename_i hplain
          simp only [ok_iff, Prod.mk.injEq] at h
          obtain ⟨⟨copied, after⟩, hcopy, rfl, rfl⟩ := h
          refine ⟨_, rfl, copyRegularFile_walked ?_ ?_ hsum hmax hcopy⟩
          · rw [AdmitsPath, hlast]
            exact ⟨hsafe, hlength, hprotected⟩
          · rw [hlast]
            exact hplain

theorem walkEntries_walked (hvalid : ∀ entry ∈ entries, entry.1.Valid)
    (hchild : ∀ text metadata children middle copied after,
      (FileName.utf8 text, Node.directory metadata children) ∈ entries →
      walkChild (join parent text) children middle = .ok (copied, after) →
      depth (join parent text) ≤ maxDepth ∧
        Walked sha256 system limits (join parent text) middle after 0 copied)
    (h : entries.foldlM (walkEntry sha256 system limits walkChild parent)
      (destination, state) = .ok (destination', state')) :
    ∃ new, destination' = destination ++ new ∧
      Walked sha256 system limits parent state state' entries.length new := by
  induction entries generalizing destination state with
  | nil =>
    simp only [foldlM_nil, pure, Except.pure, Except.ok.injEq, Prod.mk.injEq] at h
    obtain ⟨rfl, rfl⟩ := h
    exact ⟨[], by simp, Walked.refl state⟩
  | cons entry rest ih =>
    rw [foldlM_cons_eq_ok] at h
    obtain ⟨⟨middle, between⟩, hentry, hrest⟩ := h
    obtain ⟨first, rfl, hfirst⟩ := walkEntry_walked
      (hvalid entry (by simp))
      (fun text metadata children middle copied heq hscan =>
        hchild text metadata children middle copied _ (by simp [← heq]) hscan) hentry
    obtain ⟨others, rfl, hothers⟩ := ih (fun other hmem => hvalid other (mem_cons_of_mem _ hmem))
      (fun text metadata children middle copied after hmem hscan =>
        hchild text metadata children middle copied after (mem_cons_of_mem _ hmem) hscan) hrest
    refine ⟨first ++ others, by rw [append_assoc], ?_⟩
    rw [length_cons, Nat.add_comm]
    exact hfirst.trans hothers

theorem walkDirectory_walked (hwf : WellFormed entries)
    (hlevels : levels + depth parent = maxDepth + 1)
    (h : walkDirectory sha256 system limits levels parent entries state = .ok (copied, state')) :
    depth parent ≤ maxDepth ∧ Walked sha256 system limits parent state state' 0 copied := by
  induction levels generalizing parent entries state copied state' with
  | zero => simp [walkDirectory] at h
  | succ levels ih =>
    simp only [walkDirectory, ok_iff, not_lt] at h
    obtain ⟨hroom, h⟩ := h
    refine ⟨by omega, ?_⟩
    have hperm : (sortByKey (fun entry : StageEntry => entry.1.order)
        entries).Perm entries := perm_insertionSort _ entries
    obtain ⟨new, rfl, hwalked⟩ := walkEntries_walked
      (fun entry hmem => hwf.names entry (hperm.mem_iff.mp hmem))
      (fun text metadata children middle copied after hmem hscan => by
        have hmem := hperm.mem_iff.mp hmem
        have hname := hwf.names _ hmem
        refine ih (hwf.child hmem) ?_ hscan
        rw [depth_join parent hname.1 hname.2.1]
        omega) h
    refine ⟨hwalked.entries, hwalked.directories, ?_, hwalked.pathBytes,
      hwalked.totalBytes, hwalked.staged, hwalked.keeps, ?_⟩
    · have hcount := hwalked.count
      have hlength := hperm.length_eq
      simp only at hcount
      omega
    · intro hsound
      refine hwalked.sound ⟨?_, hsound.pathBytes, hsound.totalBytes,
        hsound.manifest, hsound.identities⟩
      have hmax := hsound.entryCount
      simp only
      omega

end Walk

/-! ## The baseline of a prepared stage -/

theorem manifestEntryOf_eq_some {sha256 : Sha256} {item : String × StageItem}
    {entry : StageManifestEntry} : manifestEntryOf sha256 item = some entry ↔ ∃ metadata content,
      item = (entry.path, .file metadata content) ∧ entry.bytes = content.length ∧
        entry.contentDigest = sha256 content := by
  obtain ⟨path, node⟩ := item
  cases entry
  cases node <;> simp [manifestEntryOf, eq_comm, and_assoc]

theorem directoryPathOf_eq_some {item : String × StageItem} {path : String} :
    directoryPathOf item = some path ↔ ∃ metadata, item = (path, .directory metadata) := by
  obtain ⟨path', node⟩ := item
  cases node <;> simp [directoryPathOf]

abbrev SealedBaseline.preconditions (baseline : SealedBaseline) :
    Except StageError (List UInt8) :=
  canonicalSourcePreconditions baseline.manifest.digest
    (baseline.entries.map precondition)

structure Prepared (sha256 : Sha256) (system : FileSystem)
    (limits : StageLimits) (prepared : PreparedStage) : Prop where
  root : prepared.tree.metadata = system.createPrivateDirectory ""
  staged : ∀ item ∈ prepared.tree.items, Staged sha256 system limits prepared.artifacts item
  entryCount : prepared.tree.items.length ≤ limits.maxFiles
  pathBytes : itemPathBytes prepared.tree.items ≤ maxAggregatePathBytes
  totalBytes : itemContentBytes prepared.tree.items ≤ limits.maxTotalBytes
  manifestEntries : prepared.baseline.manifest.entries = sortByKey StageManifestEntry.path
      (prepared.tree.items.filterMap (manifestEntryOf sha256))
  manifestTotal : prepared.baseline.manifest.totalBytes = itemContentBytes prepared.tree.items
  directories : prepared.baseline.directories =
    sortByKey id (prepared.tree.items.filterMap directoryPathOf)
  entries : prepared.baseline.entries.map manifestEntry =
      prepared.baseline.manifest.entries
  identities : ∀ entry ∈ prepared.baseline.entries, entry.Sound
  manifest : ∃ bytes, canonicalManifestBytes prepared.baseline.manifest.entries = .ok bytes ∧
    prepared.baseline.manifest.digest = sha256 bytes ∧
    prepared.baseline.manifestArtifactId = sha256 bytes ∧
    prepared.artifacts.readVerified sha256 (sha256 bytes) = .ok { id := sha256 bytes, bytes }
  preconditions : ∃ bytes, prepared.baseline.preconditions = .ok bytes ∧
    prepared.baseline.sourcePreconditionsArtifactId = sha256 bytes ∧
    prepared.baseline.sourcePreconditionsDigest = sha256 bytes ∧
    prepared.artifacts.readVerified sha256 (sha256 bytes) = .ok { id := sha256 bytes, bytes }

section Prepare

variable {sha256 : Sha256} {system : FileSystem}
  {limits : StageLimits} {source : StageTree} {artifacts : ArtifactStore}
  {prepared : PreparedStage}

theorem prepared_of_prepare (h : prepare sha256 system limits source artifacts = .ok prepared) :
    Prepared sha256 system limits prepared := by
  unfold prepare at h
  split at h
  · simp at h
  · rename_i destination state hwalk
    simp only [ok_iff] at h
    obtain ⟨⟨stage, after⟩, hseal, rfl⟩ := h
    obtain ⟨-, hwalked⟩ := walkDirectory_walked source.wellFormed (by rfl) hwalk
    have hsound : state.Sound limits := by
      refine hwalked.sound ⟨Nat.zero_le _, Nat.zero_le _, Nat.zero_le _, rfl, ?_⟩
      simp [new]
    simp only [sealBaseline, buildManifest, ok_iff, ne_eq, not_not, Prod.mk.injEq] at hseal
    obtain ⟨manifest, ⟨bytes, hbytes, rfl⟩, manifestBytes, hcanonical,
      ⟨manifestArtifact, between⟩, hput, hid, preconditions, hpreconditions,
      ⟨preconditionsArtifact, final⟩, hput', rfl, rfl⟩ := hseal
    obtain ⟨hmanifest, hread, hkeeps⟩ := ArtifactStore.put_eq_ok hput
    obtain ⟨hartifact, hread', hkeeps'⟩ := ArtifactStore.put_eq_ok hput'
    have hsame : manifestBytes = bytes := by
      have heq : (.ok manifestBytes : Except StageError (List UInt8)) =
          .ok bytes := hcanonical.symm.trans hbytes
      simpa using heq
    subst hsame
    refine
      { root := rfl, staged := ?_, entryCount := ?_, pathBytes := ?_, totalBytes := ?_,
        manifestEntries := ?_, manifestTotal := ?_, directories := ?_, entries := ?_,
        identities := ?_, manifest := ?_, preconditions := ?_ }
    · intro item hitem
      exact (hwalked.staged item hitem).mono (hkeeps.trans hkeeps')
    · have hcount := hwalked.count
      have hmax := hsound.entryCount
      simp only [new] at hcount
      simp only [FileTree.items]
      omega
    · have hbound := hwalked.pathBytes
      have hmax := hsound.pathBytes
      simp only [new] at hbound
      simp only [FileTree.items]
      omega
    · have htotal := hwalked.totalBytes
      have hmax := hsound.totalBytes
      simp only [new] at htotal
      simp only [FileTree.items]
      omega
    · simp only [hwalked.entries, new, nil_append]
      rfl
    · simp only [hwalked.totalBytes, new, Nat.zero_add]
      rfl
    · simp only [hwalked.directories, new, nil_append]
      rfl
    · have hmap : (sortByKey path
          state.baselineEntries).map manifestEntry =
          sortByKey StageManifestEntry.path
            (state.baselineEntries.map manifestEntry) := by
        apply map_sortByKey
        intro entry
        rfl
      simp only [hmap, hsound.manifest]
    · intro entry hentry
      exact hsound.identities entry (mem_sortByKey.mp hentry)
    · refine ⟨manifestBytes, hbytes, rfl, ?_, ?_⟩
      · simp only [hmanifest]
      · rw [← hmanifest]
        exact hkeeps' _ _ hread
    · refine ⟨preconditions, hpreconditions, ?_, ?_, ?_⟩
      · simp only [hartifact]
      · simp only [hartifact]
      · rw [← hartifact]
        exact hread'

end Prepare

namespace Prepared

variable {sha256 : Sha256} {system : FileSystem}
  {limits : StageLimits} {prepared : PreparedStage}

section

variable (h : Prepared sha256 system limits prepared)
include h

theorem allNamed : AllNamed prepared.tree.items :=
  allNamed_of_admits fun item hitem => (h.staged item hitem).admits

theorem paths_nodup : (prepared.tree.items.map Prod.fst).Nodup :=
  stageTree_paths_nodup h.allNamed

theorem scanFits {maxFileBytes : Nat} (hle : limits.maxFileBytes ≤ maxFileBytes) :
    ScanFits maxFileBytes prepared.tree.items where
  admits := fun item hitem => (h.staged item hitem).admits.mono hle
  entryCount := h.entryCount.trans limits.valid.2.2.2.1
  pathBytes := h.pathBytes
  totalBytes := h.totalBytes.trans limits.valid.2.2.2.2.2.1

theorem mem_directories {path : String} : path ∈ prepared.baseline.directories ↔
      (path, .directory (system.createPrivateDirectory path)) ∈ prepared.tree.items := by
  rw [h.directories, mem_sortByKey, List.mem_filterMap]
  constructor
  · rintro ⟨_, hmem, hpath⟩
    obtain ⟨metadata, rfl⟩ := directoryPathOf_eq_some.mp hpath
    rw [← (h.staged _ hmem).2]
    exact hmem
  · intro hmem
    exact ⟨_, hmem, rfl⟩

theorem mem_manifestEntries {entry : StageManifestEntry} :
    entry ∈ prepared.baseline.manifest.entries ↔
      ∃ content, (entry.path, .file (system.createPrivateFile entry.path)
          content) ∈ prepared.tree.items ∧
        entry.bytes = content.length ∧
        entry.contentDigest = sha256 content := by
  rw [h.manifestEntries, mem_sortByKey, List.mem_filterMap]
  constructor
  · rintro ⟨_, hmem, hentry⟩
    obtain ⟨metadata, content, rfl, hbytes⟩ := manifestEntryOf_eq_some.mp hentry
    refine ⟨content, ?_, hbytes⟩
    rw [← (h.staged _ hmem).2.1]
    exact hmem
  · rintro ⟨content, hmem, hbytes⟩
    exact ⟨_, hmem, manifestEntryOf_eq_some.mpr ⟨_, content, rfl, hbytes⟩⟩

theorem manifest_paths_strict :
    (prepared.baseline.manifest.entries.map StageManifestEntry.path).Pairwise (· < ·) := by
  rw [h.manifestEntries]
  apply sortByKey_strict
  refine h.paths_nodup.sublist (map_filterMap_sublist (fun item entry hentry => ?_) _)
  obtain ⟨_, _, rfl, -⟩ := manifestEntryOf_eq_some.mp hentry
  rfl

theorem directories_strict : prepared.baseline.directories.Pairwise (· < ·) := by
  have hsublist : ((prepared.tree.items.filterMap directoryPathOf).map
      id).Sublist (prepared.tree.items.map Prod.fst) := by
    refine map_filterMap_sublist (fun item path hpath => ?_) _
    obtain ⟨_, rfl⟩ := directoryPathOf_eq_some.mp hpath
    rfl
  have hstrict := sortByKey_strict (h.paths_nodup.sublist hsublist)
  rw [List.map_id] at hstrict
  rw [h.directories]
  exact hstrict

theorem entries_paths : prepared.baseline.entries.map path =
      prepared.baseline.manifest.entries.map StageManifestEntry.path := by
  rw [← h.entries, List.map_map]
  rfl

end

end Prepared

end CarlAgent.Staging
