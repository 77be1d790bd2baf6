import CarlAgent.Staging.Replacement
import CarlAgent.Subscription.Records

/-!
# Recorded baselines

The store spells the manifests of a prepared baseline with the bytes that the
stage used, so it records the baseline and loads it again.  The digest it
computes for a candidate is that of the files with the proposed one replaced.
-/

namespace CarlAgent.Subscription

open List Foundation CarlAgent.Task Storage SubscriptionRunBaselineEntryRecord
open Staging hiding canonicalManifestBytes candidateManifestDigest
  canonicalProposalEnvelope
open Access (Timestamp TimestampText)

def SubscriptionRunBaselineEntryRecord.manifestEntry
    (entry : SubscriptionRunBaselineEntryRecord) : StageManifestEntry :=
  { path := entry.path, bytes := entry.byteLength, contentDigest := entry.contentDigest }

structure SubscriptionRunBaselineEntryRecord.Sound
    (entry : SubscriptionRunBaselineEntryRecord) : Prop where
  path : SoundPath entry.path
  artifact : entry.contentArtifactId = entry.contentDigest
  mode : identityModeValid entry.identityPlatform entry.ownerMode = true
  identityA : entry.identityA ≠ ""
  identityB : entry.identityB ≠ ""
  ownerId : entry.ownerId ≠ ""

def CountsFrom (start : Nat) (rows : List SubscriptionRunBaselineEntryRecord) : Prop :=
  ∀ i row, rows[i]? = some row → row.ordinal = start + i

def baselineRows (entries : List SealedBaselineEntry) : List SubscriptionRunBaselineEntryRecord :=
  entries.mapIdx fun ordinal entry => baselineEntryRow entry ordinal

section Rows

variable {entries : List SealedBaselineEntry}

theorem baselineRows_countsFrom : CountsFrom 0 (baselineRows entries) := by
  intro i row hrow
  rw [baselineRows, getElem?_mapIdx, Option.map_eq_some_iff] at hrow
  obtain ⟨entry, -, rfl⟩ := hrow
  simp [baselineEntryRow]

theorem mem_baselineRows {row : SubscriptionRunBaselineEntryRecord}
    (h : row ∈ baselineRows entries) :
    ∃ entry ∈ entries, ∃ ordinal, row = baselineEntryRow entry ordinal := by
  obtain ⟨i, hi, rfl⟩ := mem_iff_getElem.mp h
  rw [baselineRows, length_mapIdx] at hi
  refine ⟨entries[i], getElem_mem hi, i, ?_⟩
  simp [baselineRows]

theorem map_baselineRows {β : Type} {f : SubscriptionRunBaselineEntryRecord → β}
    {g : SealedBaselineEntry → β}
    (h : ∀ entry ordinal, f (baselineEntryRow entry ordinal) = g entry) :
    (baselineRows entries).map f = entries.map g := by
  apply ext_getElem
  · simp [baselineRows]
  · intro i hi hi'
    simp [baselineRows, h]

theorem baselineRows_manifestEntry :
    (baselineRows entries).map manifestEntry = entries.map SealedBaselineEntry.manifestEntry :=
  map_baselineRows fun _ _ => rfl

theorem baselineRows_precondition :
    (baselineRows entries).map (·.precondition) = entries.map SealedBaselineEntry.precondition :=
  map_baselineRows fun _ _ => rfl

end Rows

theorem usizeToU64_of_lt {value : Nat} (kind : String)
    (h : value < 2 ^ 64) : usizeToU64 value kind = .ok value := by
  rw [usizeToU64, if_pos h]

section Encodings

variable {rows : List SubscriptionRunBaselineEntryRecord}

theorem manifestStep_of_sound {row : SubscriptionRunBaselineEntryRecord} (h : SoundPath row.path)
    (bytes : List UInt8) :
    manifestStep bytes row = .ok (bytes ++ manifestBytes [row.manifestEntry]) := by
  simp only [manifestStep, lengthBytes_of_lt _ (length_lt h), bind_eq_ok]
  refine ⟨_, rfl, ?_⟩
  simp [manifestBytes, manifestRecord, fileRecord, manifestEntry]

theorem canonicalManifestBytes_of_sound (h : ∀ row ∈ rows, SoundPath row.path) :
    canonicalManifestBytes rows = .ok (manifestBytes (rows.map manifestEntry)) := by
  refine @foldlM_of_states _ _ _ manifestStep (fun before => manifestBytes
      (before.map manifestEntry)) rows ?_
  intro before row after hsplit
  rw [manifestStep_of_sound (h row (by simp [hsplit]))]
  simp [manifestBytes]

theorem candidateStep_foldlM {changedPath : String} {payload : List UInt8}
    {payloadDigest : Sha256Digest} (hpayload : payload.length < 2 ^ 64)
    (h : ∀ row ∈ rows, SoundPath row.path) :
    rows.foldlM (candidateStep changedPath payload payloadDigest) (false, []) =
      .ok ((rows.map (·.path)).contains changedPath,
        manifestBytes (replaceKey StageManifestEntry.path changedPath
          { path := changedPath, bytes := payload.length, contentDigest := payloadDigest }
          (rows.map manifestEntry))) := by
  refine @foldlM_of_states _ _ _ (candidateStep changedPath payload payloadDigest)
    (fun before => ((before.map (·.path)).contains changedPath,
      manifestBytes (replaceKey StageManifestEntry.path changedPath
        { path := changedPath, bytes := payload.length, contentDigest := payloadDigest }
        (before.map manifestEntry))))
    rows ?_
  intro before row after hsplit
  have hlength := length_lt (h row (by simp [hsplit]))
  by_cases hpath : row.path = changedPath
  · rw [hpath] at hlength
    simp only [candidateStep, hpath, lengthBytes_of_lt _ hlength,
      usizeToU64_of_lt _ hpayload, if_true, bind_eq_ok]
    refine ⟨_, rfl, _, rfl, ?_⟩
    simp [manifestBytes, manifestRecord, fileRecord, replaceKey, hpath, manifestEntry]
  · simp only [candidateStep, lengthBytes_of_lt _ hlength, hpath, if_false, bind_eq_ok]
    refine ⟨_, rfl, ?_⟩
    simp [manifestBytes, manifestRecord, fileRecord, replaceKey, hpath,
      Ne.symm hpath, manifestEntry]

end Encodings

/-! ## Registered lengths -/

namespace ArtifactLengths

/-- Every registered object is in the store and has its length. -/
def Stored (sha256 : Sha256) (artifacts : ArtifactStore) (lengths : ArtifactLengths) : Prop :=
  ∀ id, ∀ length ∈ lengths id, ∃ bytes,
    artifacts.readVerified sha256 id = .ok ⟨id, bytes⟩ ∧ bytes.length = length

def Retained (lengths kept : ArtifactLengths) : Prop :=
  ∀ id, ∀ length ∈ lengths id, length ∈ kept id

def Registers (lengths : ArtifactLengths) (objects : List (ArtifactId × Nat)) : Prop :=
  ∀ object ∈ objects, object.2 ∈ lengths object.1

theorem Registers.mono {lengths kept : ArtifactLengths} {objects : List (ArtifactId × Nat)}
    (h : lengths.Registers objects) (hkept : lengths.Retained kept) : kept.Registers objects :=
  fun object hobject => hkept _ _ (h object hobject)

variable {sha256 : Sha256} {artifacts : ArtifactStore} {lengths : ArtifactLengths}

theorem Stored.register (h : lengths.Stored sha256 artifacts) {id : ArtifactId}
    {bytes : List UInt8} (hread : artifacts.readVerified sha256 id = .ok ⟨id, bytes⟩) :
    ∃ next, registerArtifactObject lengths id bytes.length = .ok next ∧
      next.Stored sha256 artifacts ∧ lengths.Retained next ∧ next id = some bytes.length := by
  have hlength := (ArtifactStore.readVerified_eq_ok.mp hread).2.1
  have hsame : (lengths id).getD bytes.length = bytes.length := by
    cases hold : lengths id with
    | none => rfl
    | some length =>
      obtain ⟨found, hfound, rfl⟩ := h _ _ hold
      cases hread.symm.trans hfound
      rfl
  refine ⟨Function.update lengths id (some bytes.length), ?_, ?_, ?_, Function.update_self ..⟩
  · simp only [registerArtifactObject, ok_iff, revisionToSql, hsame]
    exact ⟨not_lt.mpr (hlength.trans (by decide)), not_not.mpr rfl, trivial⟩
  · intro other length hmem
    by_cases hid : other = id
    · subst hid
      rw [Function.update_self] at hmem
      exact ⟨bytes, hread, Option.some.inj hmem⟩
    · rw [Function.update_of_ne hid] at hmem
      exact h _ _ hmem
  · intro other length hmem
    by_cases hid : other = id
    · subst hid
      rw [Option.mem_def.mp hmem] at hsame
      rw [Function.update_self, ← hsame]
      rfl
    · rwa [Function.update_of_ne hid]

theorem Stored.registerAll (h : lengths.Stored sha256 artifacts) (objects : List (ArtifactId × Nat))
    (hread : ∀ object ∈ objects, ∃ bytes,
      artifacts.readVerified sha256 object.1 = .ok ⟨object.1, bytes⟩ ∧ bytes.length = object.2) :
    ∃ next, objects.foldlM (fun lengths object =>
        registerArtifactObject lengths object.1 object.2) lengths = .ok next ∧
      next.Stored sha256 artifacts ∧ lengths.Retained next ∧ next.Registers objects := by
  induction objects generalizing lengths with
  | nil => exact ⟨lengths, rfl, h, fun _ _ hmem => hmem, by simp [Registers]⟩
  | cons object objects ih =>
    obtain ⟨⟨bytes, hobject, hbytes⟩, hrest⟩ := forall_mem_cons.mp hread
    obtain ⟨mid, hmid, hstored, hretained, hfirst⟩ := h.register hobject
    rw [hbytes] at hmid hfirst
    obtain ⟨next, hnext, hlater, hkept, hall⟩ := ih hstored hrest
    exact ⟨next, foldlM_cons_eq_ok.mpr ⟨mid, hmid, hnext⟩, hlater,
      fun id length hmem => hkept id length (hretained id length hmem),
      forall_mem_cons.mpr ⟨hkept _ _ hfirst, hall⟩⟩

end ArtifactLengths

/-! ## A prepared baseline in the store -/

section Prepared

variable {sha256 : Sha256} {system : FileSystem}
  {limits : StageLimits} {prepared : PreparedStage}
  {artifacts : ArtifactStore}

def preparedRecord (sha256 : Sha256) (prepared : PreparedStage) (runId : RunId)
    (createdAt : Timestamp) : SubscriptionRunBaselineRecord :=
  { runId
    manifestArtifactId := prepared.baseline.manifestArtifactId
    manifestDigest := prepared.baseline.manifest.digest
    sourcePreconditionsArtifactId := prepared.baseline.sourcePreconditionsArtifactId
    sourcePreconditionsDigest := prepared.baseline.sourcePreconditionsDigest
    entryCount := prepared.baseline.entries.length
    totalBytes := prepared.baseline.manifest.totalBytes
    directoryCount := prepared.baseline.directories.length
    directoryManifestDigest := sha256 (directoryManifestBytes
      baselineDirectoriesDomain prepared.baseline.directories)
    entries := baselineRows prepared.baseline.entries
    directories := prepared.baseline.directories
    createdAt }

/-- The objects that recording a baseline registers, with their lengths. -/
def baselineObjects (baseline : SealedBaseline) (preconditions : List UInt8) :
    List (ArtifactId × Nat) :=
  (baseline.manifestArtifactId, (manifestBytes baseline.manifest.entries).length) ::
    (baseline.sourcePreconditionsArtifactId, preconditions.length) ::
    baseline.entries.map fun entry => (entry.contentArtifactId, entry.bytes)

theorem identityModeValid_of_sound {entry : SealedBaselineEntry} (h : entry.Sound) :
    identityModeValid entry.sourceIdentity.platform entry.sourceIdentity.ownerMode = true := by
  obtain ⟨mode, hmode, hle⟩ := h.mode
  rw [h.platform, hmode]
  simpa [identityModeValid] using hle

theorem length_lt_of_read {id : ArtifactId} {bytes : List UInt8}
    (h : artifacts.readVerified sha256 id = .ok ⟨id, bytes⟩) : bytes.length < 2 ^ 64 :=
  (ArtifactStore.readVerified_eq_ok.mp h).2.1.trans_lt (by decide)

section

variable (h : Prepared sha256 system limits prepared)
include h

theorem entry_soundPath {entry : SealedBaselineEntry}
    (hmem : entry ∈ prepared.baseline.entries) : SoundPath entry.path := by
  have hmanifest : entry.manifestEntry ∈ prepared.baseline.manifest.entries := by
    rw [← h.entries]
    exact mem_map_of_mem hmem
  obtain ⟨content, hitem, -, -⟩ := h.mem_manifestEntries.mp hmanifest
  have hsound := (soundPath_of_mem h.admits _ hitem).1
  exact hsound

theorem row_sound {row : SubscriptionRunBaselineEntryRecord}
    (hmem : row ∈ baselineRows prepared.baseline.entries) : row.Sound := by
  obtain ⟨entry, hentry, ordinal, rfl⟩ := mem_baselineRows hmem
  have hsound := h.identities entry hentry
  exact
    { path := entry_soundPath h hentry, artifact := hsound.artifact,
      mode := identityModeValid_of_sound hsound, identityA := hsound.identityA,
      identityB := hsound.identityB, ownerId := hsound.ownerId }

theorem rows_manifestEntry : (baselineRows prepared.baseline.entries).map manifestEntry =
      prepared.baseline.manifest.entries := by
  rw [baselineRows_manifestEntry, h.entries]

theorem sum_entries : (prepared.baseline.entries.map SealedBaselineEntry.bytes).sum =
      prepared.baseline.manifest.totalBytes := by
  have hentries : prepared.baseline.entries.map SealedBaselineEntry.bytes =
      (candidateFilesOf prepared.tree.items).map fun file =>
        file.bytes.length := by
    have hmap := congrArg (map StageManifestEntry.bytes) (h.entries.trans h.manifest_eq)
    rw [map_map, map_map] at hmap
    exact hmap
  have hperm : (candidateFilesOf prepared.tree.items).Perm
      (prepared.tree.items.filterMap candidateFileOf) := sortByKey_perm _ _
  rw [hentries, (hperm.map fun file => file.bytes.length).sum_eq,
    sum_candidateFiles, h.manifestTotal]

theorem sum_rows : ((baselineRows prepared.baseline.entries).map
      (·.byteLength)).sum = prepared.baseline.manifest.totalBytes := by
  rw [← sum_entries h]
  congr 1
  exact map_baselineRows fun _ _ => rfl

theorem totalBytes_lt : prepared.baseline.manifest.totalBytes < 2 ^ 64 := by
  have htotal := h.totalBytes
  have hmax := limits.valid.2.2.2.2.2.1
  rw [h.manifestTotal]
  omega

theorem manifest_bytes : Staging.canonicalManifestBytes prepared.baseline.manifest.entries =
        .ok (manifestBytes prepared.baseline.manifest.entries) ∧
      prepared.baseline.manifest.digest = sha256
        (manifestBytes prepared.baseline.manifest.entries) ∧
      prepared.baseline.manifestArtifactId = sha256
        (manifestBytes prepared.baseline.manifest.entries) ∧
      prepared.artifacts.readVerified sha256 (sha256
          (manifestBytes prepared.baseline.manifest.entries)) =
        .ok { id := sha256
                (manifestBytes prepared.baseline.manifest.entries)
              bytes := manifestBytes prepared.baseline.manifest.entries } := by
  obtain ⟨bytes, hok, hdigest, hid, hread⟩ := h.manifest
  obtain rfl := eq_manifestBytes hok
  exact ⟨hok, hdigest, hid, hread⟩

end

theorem entry_read (h : Prepared sha256 system limits prepared)
    (hkeeps : ArtifactStore.Keeps sha256 prepared.artifacts artifacts) {entry : SealedBaselineEntry}
    (hmem : entry ∈ prepared.baseline.entries) :
    ∃ content, artifacts.readVerified sha256 entry.contentArtifactId =
        .ok { id := entry.contentArtifactId, bytes := content } ∧
      content.length < 2 ^ 64 ∧ content.length = entry.bytes ∧
      sha256 content = entry.contentDigest := by
  have hmanifest : entry.manifestEntry ∈ prepared.baseline.manifest.entries := by
    rw [← h.entries]
    exact mem_map_of_mem hmem
  obtain ⟨content, hitem, hbytes, hdigest⟩ := h.mem_manifestEntries.mp hmanifest
  obtain ⟨-, -, hread⟩ := h.staged _ hitem
  have hid : entry.contentArtifactId = sha256 content := by
    rw [(h.identities entry hmem).artifact]
    exact hdigest
  have hlength := (ArtifactStore.readVerified_eq_ok.mp hread).2.1
  simp only [maxArtifactBytes] at hlength
  rw [hid]
  exact ⟨content, hkeeps _ _ hread, by omega, hbytes.symm, hdigest.symm⟩

section Directories

variable {files : List CandidateFile}
  (hfiles : SoundCandidate prepared.baseline.directories files)
include hfiles

theorem canonicalBaselineDirectories_of_sound :
    canonicalBaselineDirectories prepared.baseline.directories =
      .ok (directoryManifestBytes baselineDirectoriesDomain
        prepared.baseline.directories) := by
  apply hfiles.directoryManifest
  · intro path hpath
    simp [hpath.notRejected, hpath.startsPlain, hpath.endsPlain, hpath.nul]
  · exact le_rfl

section

variable (h : Prepared sha256 system limits prepared)
include h

theorem validateSealedBaseline_of_prepared :
    ∃ preconditions, validateSealedBaseline sha256 prepared.baseline =
      .ok (manifestBytes prepared.baseline.manifest.entries, preconditions) ∧
      prepared.baseline.preconditions = .ok preconditions := by
  obtain ⟨hcanonical, hdigest, hid, -⟩ := manifest_bytes h
  obtain ⟨preconditions, hpreconditions, hartifact, hpreconditionsDigest, -⟩ := h.preconditions
  have hzip : prepared.baseline.manifest.entries.zip prepared.baseline.entries =
      prepared.baseline.entries.map fun entry =>
        (entry.manifestEntry, entry) := by
    have hmap : (prepared.baseline.entries.map SealedBaselineEntry.manifestEntry).zip
          (prepared.baseline.entries.map id) =
        prepared.baseline.entries.map fun entry =>
          (entry.manifestEntry, entry) := zip_map'
    rwa [map_id, h.entries] at hmap
  have hsorted : (prepared.baseline.entries.map
      SealedBaselineEntry.path).Pairwise (· < ·) := by
    have hpaths := h.manifest_paths_strict
    rw [← h.entries, map_map] at hpaths
    exact hpaths
  have hfold := @foldlM_of_states _ _ _
    (fun acc (entry : SealedBaselineEntry) =>
      sealedEntryStep acc (entry.manifestEntry, entry))
    (fun before => (before.getLast?.map SealedBaselineEntry.path,
      (before.map SealedBaselineEntry.bytes).sum))
    prepared.baseline.entries (by
      intro before entry after hsplit
      have hentry := h.identities entry (by simp [hsplit])
      have htotal := totalBytes_lt h
      rw [← sum_entries h, hsplit, map_append, map_cons, sum_append, sum_cons] at htotal
      rw [hsplit] at hsorted
      have horder := last_not_le hsorted
        fun k (h : decide (entry.path ≤ k) = true) => of_decide_eq_true h
      simp only [sealedEntryStep, ok_iff, SealedBaselineEntry.manifestEntry, hentry.artifact,
        horder, hentry.identityA, hentry.identityB, hentry.ownerId,
        identityModeValid_of_sound hentry]
      exact ⟨by simp, by simp, by omega, by simp⟩)
  rw [← foldlM_map, sum_entries h] at hfold
  have hlength : prepared.baseline.manifest.entries.length =
      prepared.baseline.entries.length := by
    rw [← h.entries, length_map]
  refine ⟨preconditions, ?_, hpreconditions⟩
  simp only [validateSealedBaseline, StageManifest.canonicalBytes, hcanonical, hzip,
    canonicalBaselineDirectories_of_sound hfiles, hpreconditions, ok_iff]
  refine ⟨_, rfl, ?_, _, hfold, by simp, _, rfl, _, rfl, ?_, rfl⟩
  · simp [hid, hdigest, hlength]
  · simp [hartifact, hpreconditionsDigest]

theorem recordSubscriptionRunBaseline_of_prepared
    (hkeeps : ArtifactStore.Keeps sha256 prepared.artifacts artifacts) {lengths : ArtifactLengths}
    (hstored : lengths.Stored sha256 artifacts) (runId : RunId) (createdAt : Timestamp) :
    ∃ registered preconditions, recordSubscriptionRunBaseline sha256 artifacts lengths runId
        prepared.baseline createdAt =
      .ok (preparedRecord sha256 prepared runId createdAt, registered) ∧
      registered.Stored sha256 artifacts ∧ prepared.baseline.preconditions = .ok preconditions ∧
      registered.Registers (baselineObjects prepared.baseline preconditions) := by
  obtain ⟨preconditions, hvalid, hpreconditions⟩ := validateSealedBaseline_of_prepared hfiles h
  obtain ⟨-, hdigest, hid, hread⟩ := manifest_bytes h
  obtain ⟨bytes, hbytes, hartifact, -, hreadPreconditions⟩ := h.preconditions
  obtain rfl : bytes = preconditions := by
    rw [hpreconditions, Except.ok.injEq] at hbytes
    exact hbytes.symm
  have hartifacts : verifySealedBaselineArtifacts sha256 artifacts
      prepared.baseline = .ok () := by
    simp only [verifySealedBaselineArtifacts, hvalid, hid, hartifact, hkeeps _ _ hread,
      hkeeps _ _ hreadPreconditions, ok_iff]
    refine ⟨_, rfl, _, rfl, by simp, _, rfl, by simp, ?_⟩
    rw [forM_eq_ok]
    intro entry hentry
    obtain ⟨content, hcontent, hlt, hlength, hsha⟩ := entry_read h hkeeps hentry
    simp only [hcontent, ok_iff]
    refine ⟨_, rfl, _, usizeToU64_of_lt _ hlt, ?_⟩
    simp [hlength, hsha]
  obtain ⟨registered, hregistered, hlater, -, hregisters⟩ := hstored.registerAll
    (baselineObjects prepared.baseline bytes) (by
      rw [baselineObjects, forall_mem_cons, forall_mem_cons, forall_mem_map, hid, hartifact]
      refine ⟨⟨_, hkeeps _ _ hread, rfl⟩, ⟨_, hkeeps _ _ hreadPreconditions, rfl⟩, ?_⟩
      intro entry hentry
      obtain ⟨content, hcontent, -, hlength, -⟩ := entry_read h hkeeps hentry
      exact ⟨content, hcontent, hlength⟩)
  refine ⟨registered, bytes, ?_, hlater, hpreconditions, hregisters⟩
  obtain ⟨first, hfirst, hrest⟩ := foldlM_cons_eq_ok.mp hregistered
  obtain ⟨second, hsecond, hentries⟩ := foldlM_cons_eq_ok.mp hrest
  rw [foldlM_map] at hentries
  simp only [recordSubscriptionRunBaseline, hvalid, hartifacts,
    canonicalBaselineDirectories_of_sound hfiles, bind_eq_ok, exists_const]
  exact ⟨_, rfl, _, rfl, _, usizeToU64_of_lt _ (length_lt_of_read hread), _, hfirst, _,
    usizeToU64_of_lt _ (length_lt_of_read hreadPreconditions), _, hsecond, _, hentries, trivial,
    rfl⟩

theorem loadSubscriptionRunBaseline_preparedRecord {texts : TimestampText} {createdAt : Timestamp}
    {lengths : ArtifactLengths} {preconditions : List UInt8}
    (hpreconditions : prepared.baseline.preconditions = .ok preconditions)
    (hregisters : lengths.Registers (baselineObjects prepared.baseline preconditions))
    (htime : texts.readable createdAt = true) (runId : RunId) :
    loadSubscriptionRunBaseline sha256 texts lengths
        (preparedRecord sha256 prepared runId createdAt) =
      .ok (preparedRecord sha256 prepared runId createdAt) := by
  obtain ⟨-, hdigest, hid, -⟩ := manifest_bytes h
  obtain ⟨_, hsame, hartifact, hpreconditionsDigest, -⟩ := h.preconditions
  cases hsame.symm.trans hpreconditions
  have hsum := sum_rows h
  rw [baselineObjects, ArtifactLengths.Registers, forall_mem_cons, forall_mem_cons,
    forall_mem_map] at hregisters
  obtain ⟨hmanifest, hlength, hentries⟩ := hregisters
  have hfold := @foldlM_of_states _ _ _ (loadedEntryStep lengths)
    (fun before => (before.length, (before.map (·.byteLength)).sum,
      manifestBytes (before.map manifestEntry)))
    (baselineRows prepared.baseline.entries) (by
      intro before row after hsplit
      have hmem : row ∈ baselineRows prepared.baseline.entries := by simp [hsplit]
      have hrow := row_sound h hmem
      have hknown : lengths row.contentArtifactId = some row.byteLength := by
        obtain ⟨entry, hentry, ordinal, rfl⟩ := mem_baselineRows hmem
        exact hentries entry hentry
      rw [hrow.artifact] at hknown
      have hordinal := @baselineRows_countsFrom prepared.baseline.entries
        before.length row (by simp [hsplit])
      have htotal := totalBytes_lt h
      rw [← hsum, hsplit, map_append, map_cons, sum_append, sum_cons] at htotal
      simp only [loadedEntryStep, requireRegisteredArtifactObject, hknown, ok_iff, ne_eq, not_not,
        hrow.artifact, hrow.mode, Bool.true_eq_false, not_false_eq_true, true_and, manifestStep_of_sound hrow.path]
      exact ⟨by omega, _, rfl, by omega, by simp [manifestBytes]⟩)
  rw [hsum, rows_manifestEntry h] at hfold
  rw [SealedBaseline.preconditions, ← baselineRows_precondition] at hpreconditions
  simp only [loadSubscriptionRunBaseline, ok_iff]
  refine ⟨_, hmanifest, _, hlength, ?_, ?_, _, hfold, ?_, _,
    canonicalBaselineDirectories_of_sound hfiles, ?_, _, hpreconditions, ?_, createdAt, TimestampText.parseTimestamp_eq_ok.mpr ⟨htime, rfl⟩, rfl⟩
  · simp [preparedRecord, hid, hdigest]
  · simp [preparedRecord, hartifact, hpreconditionsDigest]
  · simp [preparedRecord, hdigest, baselineRows]
  · simp [preparedRecord]
  · simp [preparedRecord, hpreconditionsDigest]

theorem verifyLoadedBaselineArtifacts_preparedRecord
    (hkeeps : ArtifactStore.Keeps sha256 prepared.artifacts artifacts) (runId : RunId)
    (createdAt : Timestamp) : verifyLoadedBaselineArtifacts sha256 artifacts
      (preparedRecord sha256 prepared runId createdAt) = .ok () := by
  obtain ⟨-, hdigest, hid, hread⟩ := manifest_bytes h
  obtain ⟨preconditions, hpreconditions, hartifact, hpreconditionsDigest,
    hreadPreconditions⟩ := h.preconditions
  have hmanifest := canonicalManifestBytes_of_sound fun row hmem =>
    (@row_sound sha256 system limits prepared h row hmem).path
  rw [rows_manifestEntry h] at hmanifest
  rw [SealedBaseline.preconditions, ← baselineRows_precondition] at hpreconditions
  rw [← hid] at hread
  rw [← hartifact] at hreadPreconditions
  simp only [verifyLoadedBaselineArtifacts, ok_iff]
  refine ⟨_, canonicalBaselineDirectories_of_sound hfiles, ?_, _, hmanifest, ?_, _, hkeeps _ _
    hread, ?_, _, hpreconditions, ?_, _, hkeeps _ _ hreadPreconditions, ?_, ?_⟩
  · simp [preparedRecord]
  · simp [preparedRecord, hid, hdigest]
  · simp
  · simp [preparedRecord, hartifact, hpreconditionsDigest]
  · simp
  rw [forM_eq_ok]
  intro row hrow
  obtain ⟨entry, hentry, ordinal, rfl⟩ := mem_baselineRows hrow
  obtain ⟨content, hcontent, hlt, hlength, hsha⟩ := entry_read h hkeeps hentry
  simp only [ok_iff]
  refine ⟨_, hcontent, _, usizeToU64_of_lt _ hlt, ?_⟩
  simp [baselineEntryRow, hlength, hsha]

end

end Directories

end Prepared

end CarlAgent.Subscription
