import CarlAgent.Staging.Walk

/-!
# What an inspection reports

An inspection of an untouched stage reports no change.  An inspection that
reports anything has found the directories and the files of the baseline, with
their permissions, and at most one other content.
-/

namespace CarlAgent.Staging

open List Foundation Security CarlAgent.Task OrderedMap ArtifactStore

variable {metadata : FileMetadata} {path : String}

/-- The snapshot has the directories and the files of the baseline. -/
structure Comparable (baseline : SealedBaseline) (snapshot : StageSnapshot) : Prop where
  directories : ∀ path, path ∈ snapshot.directories.keys ↔ path ∈ baseline.directories
  directoryMetadata : ∀ entry ∈ snapshot.directories.entries, entry.2.metadataValid = true
  files : ∀ path, path ∈ snapshot.files.keys ↔ path ∈ (sealedEntries baseline).keys
  fileMetadata : ∀ entry ∈ snapshot.files.entries, entry.2.metadataValid = true

section Compare

variable {sha256 : Sha256} {artifacts after : ArtifactStore}
  {baseline : SealedBaseline} {snapshot : StageSnapshot}
  {outcome : ProposalOutcome}

private theorem find?_missing {first second : List String} :
    first.find? (fun path => !second.contains path) = none ↔ ∀ path ∈ first, path ∈ second := by
  simp [find?_eq_none]

private theorem filter_missing {first second : List String} :
    first.filter (fun path => !second.contains path) = [] ↔ ∀ path ∈ first, path ∈ second := by
  simp [filter_eq_nil_iff]

/-- An inspection gets past its comparisons exactly on a comparable snapshot,
and what it reports then depends on the changed files. -/
theorem inspectSnapshot_eq_ok :
    inspectSnapshot sha256 artifacts baseline snapshot = .ok (outcome, after) ↔
      Comparable baseline snapshot ∧
        ((changedFiles (sealedEntries baseline) snapshot = [] ∧
            outcome = .noChanges ∧ after = artifacts) ∨ ∃ before file,
            changedFiles (sealedEntries baseline) snapshot = [(before, file)] ∧
            proposeReplacement sha256 artifacts baseline before before.path
              file = .ok (outcome, after)) := by
  constructor
  · intro h
    simp only [inspectSnapshot] at h
    split at h
    · simp at h
    rename_i hcreated
    split at h
    · simp at h
    rename_i hdeleted
    split at h
    · simp at h
    rename_i hmetadata
    split at h
    · split at h <;> simp at h
    · simp at h
    · simp at h
    rename_i hcreatedFiles hdeletedFiles
    split at h
    · simp at h
    rename_i hfileMetadata
    have hcurrent := find?_missing.mp hcreated
    have hsealed := find?_missing.mp hdeleted
    have hnew := filter_missing.mp hcreatedFiles
    have hold := filter_missing.mp hdeletedFiles
    refine ⟨⟨?_, ?_, ?_, ?_⟩, ?_⟩
    · intro path
      exact ⟨fun hmem => mem_sortDedup.mp (hcurrent path hmem),
        fun hmem => hsealed path (mem_sortDedup.mpr hmem)⟩
    · intro entry hentry
      have hnone := find?_eq_none.mp hmetadata entry hentry
      have hkey := hcurrent entry.1 (mem_map_of_mem hentry)
      simpa [hkey] using hnone
    · intro path
      exact ⟨hnew path, hold path⟩
    · intro entry hentry
      have hnone := find?_eq_none.mp hfileMetadata entry hentry
      have hkey := hnew entry.1 (mem_map_of_mem hentry)
      simpa [hkey] using hnone
    · split at h
      · rename_i hchanged
        simp only [Except.ok.injEq, Prod.mk.injEq] at h
        exact .inl ⟨hchanged, h.1.symm, h.2.symm⟩
      · rename_i before file hchanged
        exact .inr ⟨before, file, hchanged, h⟩
      · simp at h
  · rintro ⟨hcomparable, h⟩
    have hcreated : snapshot.directories.keys.find? (fun path =>
        !(sortDedup id baseline.directories).contains path) = none :=
      find?_missing.mpr fun path hmem =>
        mem_sortDedup.mpr ((hcomparable.directories path).mp hmem)
    have hdeleted : (sortDedup id baseline.directories).find? (fun path =>
        !snapshot.directories.keys.contains path) = none :=
      find?_missing.mpr fun path hmem =>
        (hcomparable.directories path).mpr (mem_sortDedup.mp hmem)
    have hmetadata : snapshot.directories.entries.find? (fun entry =>
        (sortDedup id baseline.directories).contains entry.1 && !entry.2.metadataValid) = none := by
      rw [find?_eq_none]
      intro entry hentry
      simp [hcomparable.directoryMetadata entry hentry]
    have hnew : snapshot.files.keys.filter (fun path =>
        !(sealedEntries baseline).keys.contains path) = [] :=
      filter_missing.mpr fun path hmem => (hcomparable.files path).mp hmem
    have hold : (sealedEntries baseline).keys.filter (fun path =>
        !snapshot.files.keys.contains path) = [] :=
      filter_missing.mpr fun path hmem => (hcomparable.files path).mpr hmem
    have hfileMetadata : snapshot.files.entries.find? (fun entry =>
        (sealedEntries baseline).keys.contains entry.1 && !entry.2.metadataValid) = none := by
      rw [find?_eq_none]
      intro entry hentry
      simp [hcomparable.fileMetadata entry hentry]
    simp only [inspectSnapshot, hcreated, hdeleted, hmetadata, hnew, hold, hfileMetadata]
    rcases h with ⟨hchanged, rfl, rfl⟩ | ⟨before, file, hchanged, h⟩
    · simp only [hchanged]
    · simp only [hchanged, h]

theorem mem_changedFiles {entries : OrderedMap String SealedBaselineEntry}
    {change : SealedBaselineEntry × ScannedFile} :
    change ∈ changedFiles entries snapshot ↔ ∃ path, entries.find? path = some change.1 ∧
        snapshot.files.find? path = some change.2 ∧
        change.2.digest ≠ change.1.contentDigest := by
  simp only [changedFiles, mem_filterMap, Prod.exists]
  constructor
  · rintro ⟨path, entry, hmem, hchange⟩
    split at hchange
    · rename_i current hcurrent
      split at hchange
      · rename_i hne
        simp only [Option.some.injEq] at hchange
        subst hchange
        exact ⟨path, find?_eq_some_iff.mpr hmem, hcurrent, hne⟩
      · simp at hchange
    · simp at hchange
  · rintro ⟨path, hentry, hfile, hne⟩
    refine ⟨path, change.1, find?_eq_some_iff.mp hentry, ?_⟩
    simp [hfile, hne]

theorem proposeReplacement_eq_ok {before : SealedBaselineEntry} {file : ScannedFile}
    (h : proposeReplacement sha256 artifacts baseline before path file = .ok (outcome, after)) :
    ∃ proposal, outcome = .exactReplacement proposal ∧
      proposal.path = path ∧
      proposal.baselineManifestDigest = baseline.manifest.digest ∧
      proposal.expectedLiveHash = before.contentDigest ∧
      proposal.beforeHash = before.contentDigest ∧
      proposal.afterHash = file.digest ∧
      proposal.payloadHash = file.digest ∧
      proposal.payload = file.bytes ∧
      proposal.payloadArtifactId = file.digest ∧
      candidateManifestDigest sha256 baseline path file = .ok proposal.candidateManifestDigest ∧
      Keeps sha256 artifacts after ∧
      (∃ stored, artifacts.readVerified sha256 before.contentArtifactId = .ok stored) ∧
      after.readVerified sha256 (sha256 file.bytes) =
        .ok { id := sha256 file.bytes, bytes := file.bytes } ∧
      ∃ envelope, canonicalProposalEnvelope baseline.manifest.digest path
          before.contentDigest before.contentDigest file.digest file.digest
          file.bytes = .ok envelope ∧
        proposal.artifactId = sha256 envelope ∧
        after.readVerified sha256 (sha256 envelope) =
          .ok { id := sha256 envelope, bytes := envelope } := by
  simp only [proposeReplacement, ok_iff, ne_eq, not_not, not_or, Prod.mk.injEq] at h
  obtain ⟨stored, hstored, ⟨payload, middle⟩, hput, hid, candidate, hcandidate, envelope, henvelope,
    ⟨artifact, final⟩, hput', sealed, hsealed, ⟨hbefore, hafter, -⟩, rfl, rfl⟩ := h
  obtain ⟨rfl, hread, hkeeps⟩ := put_eq_ok hput
  obtain ⟨rfl, hread', hkeeps'⟩ := put_eq_ok hput'
  refine ⟨_, rfl, rfl, rfl, rfl, hbefore, rfl, hafter.symm, rfl, hid, hcandidate, hkeeps.trans
    hkeeps', ⟨stored, hstored⟩, hkeeps' _ _ hread, envelope, henvelope, rfl, hread'⟩

end Compare

/-! ## Trees that agree -/

def PermissionsAgree (first second : FileMetadata) : Prop :=
  first.owner = second.owner ∧ first.mode &&& 0o777 = second.mode &&& 0o777

def SameItem : StageItem → StageItem → Prop
  | .file first content, .file second content' =>
    PermissionsAgree first second ∧ first.links = second.links ∧ content = content'
  | .directory first, .directory second => PermissionsAgree first second
  | _, _ => False

/-- The two trees have the same items, apart from those at some paths. -/
structure SameExcept (apart : Set String) (first second : StageTree) : Prop where
  root : PermissionsAgree first.metadata second.metadata
  kept : ∀ path item, (path, item) ∈ first.items → path ∉ apart →
    ∃ item', (path, item') ∈ second.items ∧ SameItem item item'
  added : ∀ path item', (path, item') ∈ second.items → path ∉ apart →
    ∃ item, (path, item) ∈ first.items ∧ SameItem item item'

def SameTree (first second : StageTree) : Prop := SameExcept ∅ first second

/-- The second tree is the first with one other content, which the proposal
describes. -/
structure Replaces (sha256 : Sha256)
    (baseline : SealedBaseline) (first second : StageTree)
    (proposal : ExactReplacementProposal) : Prop where
  elsewhere : SameExcept {proposal.path} first second
  baselineManifestDigest : proposal.baselineManifestDigest = baseline.manifest.digest
  file : ∃ metadata metadata' before after, (proposal.path, .file metadata before) ∈ first.items ∧
    (proposal.path, .file metadata' after) ∈ second.items ∧
    PermissionsAgree metadata metadata' ∧ metadata.links = metadata'.links ∧
    before ≠ after ∧
    proposal.expectedLiveHash = sha256 before ∧
    proposal.beforeHash = sha256 before ∧
    proposal.payload = after ∧ proposal.payloadHash = sha256 after ∧
    proposal.afterHash = sha256 after

/-- The digest tells the contents of the first tree from those of the
second. -/
def NoCollision (sha256 : Sha256) (first second : StageTree) : Prop :=
  ∀ path metadata content path' metadata' content', (path, .file metadata content) ∈ first.items →
    (path', .file metadata' content') ∈ second.items →
    sha256 content = sha256 content' → content = content'

namespace Prepared

section Compare

variable {sha256 : Sha256} {system : FileSystem}
  {limits : StageLimits} {prepared : PreparedStage} {tree : StageTree}

theorem sealedEntries_nodup (h : Prepared sha256 system limits prepared) :
    ((prepared.baseline.entries.map fun entry =>
      (entry.path, entry)).map Prod.fst).Nodup := by
  rw [List.map_map]
  have hpaths := h.entries_paths
  have hstrict := h.manifest_paths_strict
  rw [← hpaths] at hstrict
  exact hstrict.imp ne_of_lt

theorem sealedEntry_find? (h : Prepared sha256 system limits prepared) {entry : SealedBaselineEntry}
    (hfind : (sealedEntries prepared.baseline).find? path = some entry) :
    entry.path = path ∧ entry ∈ prepared.baseline.entries ∧
      ∃ content, (path, .file (system.createPrivateFile path) content) ∈ prepared.tree.items ∧
        entry.contentDigest = sha256 content := by
  have hmem := (find?_ofList_of_nodup h.sealedEntries_nodup).mp hfind
  obtain ⟨entry', hentry, heq⟩ := List.mem_map.mp hmem
  simp only [Prod.mk.injEq] at heq
  obtain ⟨rfl, rfl⟩ := heq
  have hmanifest : entry'.manifestEntry ∈ prepared.baseline.manifest.entries := by
    rw [← h.entries]
    exact List.mem_map_of_mem hentry
  obtain ⟨content, hitem, -, hdigest⟩ := h.mem_manifestEntries.mp hmanifest
  exact ⟨rfl, hentry, content, hitem, hdigest⟩

theorem mem_sealedEntries (h : Prepared sha256 system limits prepared) :
    path ∈ (sealedEntries prepared.baseline).keys ↔
      ∃ content, (path, .file (system.createPrivateFile path) content) ∈ prepared.tree.items := by
  rw [sealedEntries, mem_keys_ofList h.sealedEntries_nodup, List.map_map]
  change path ∈ prepared.baseline.entries.map SealedBaselineEntry.path ↔ _
  rw [h.entries_paths, List.mem_map]
  constructor
  · rintro ⟨entry, hentry, rfl⟩
    obtain ⟨content, hitem, -, -⟩ := h.mem_manifestEntries.mp hentry
    exact ⟨content, hitem⟩
  · rintro ⟨content, hitem⟩
    exact ⟨{ path, bytes := content.length, contentDigest := sha256 content },
      h.mem_manifestEntries.mpr ⟨content, hitem, rfl, rfl⟩, rfl⟩

/-- The snapshot of a tree compares with the baseline exactly when the tree
has the same directories and files with the permissions of a stage. -/
theorem comparable_iff (h : Prepared sha256 system limits prepared)
    (hnodup : (tree.items.map Prod.fst).Nodup) :
    Comparable prepared.baseline (snapshotOf sha256 system.euid tree.items) ↔
      (∀ path, (∃ metadata, (path, .directory metadata) ∈ tree.items) ↔
        (path, .directory (system.createPrivateDirectory path)) ∈ prepared.tree.items) ∧
      (∀ path metadata, (path, .directory metadata) ∈ tree.items →
        workDirectoryMetadataValid system.euid metadata = true) ∧
      (∀ path, (∃ metadata content, (path, .file metadata content) ∈ tree.items) ↔
        ∃ content, (path, .file (system.createPrivateFile path) content) ∈ prepared.tree.items) ∧
      (∀ path metadata content, (path, .file metadata content) ∈ tree.items →
        workFileMetadataValid system.euid metadata = true) := by
  have hdirectoryKeys : ∀ path, path ∈ (snapshotOf sha256 system.euid tree.items).directories.keys ↔
        ∃ metadata, (path, .directory metadata) ∈ tree.items := by
    intro path
    rw [OrderedMap.mem_keys]
    simp only [directories_find?_eq_some hnodup]
    constructor
    · rintro ⟨directory, metadata, hmem, -⟩
      exact ⟨metadata, hmem⟩
    · rintro ⟨metadata, hmem⟩
      exact ⟨_, metadata, hmem, rfl⟩
  have hfileKeys : ∀ path, path ∈ (snapshotOf sha256 system.euid tree.items).files.keys ↔
        ∃ metadata content, (path, .file metadata content) ∈ tree.items := by
    intro path
    rw [OrderedMap.mem_keys]
    simp only [files_find?_eq_some hnodup]
    constructor
    · rintro ⟨file, metadata, content, hmem, -⟩
      exact ⟨metadata, content, hmem⟩
    · rintro ⟨metadata, content, hmem⟩
      exact ⟨_, metadata, content, hmem, rfl⟩
  constructor
  · intro hcomparable
    refine ⟨?_, ?_, ?_, ?_⟩
    · intro path
      rw [← hdirectoryKeys, hcomparable.directories, h.mem_directories]
    · intro path metadata hmem
      have hfind : (snapshotOf sha256 system.euid tree.items).directories.find?
          path = some (scannedDirectory system.euid metadata) :=
        (directories_find?_eq_some hnodup).mpr ⟨metadata, hmem, rfl⟩
      exact hcomparable.directoryMetadata _ (find?_eq_some_iff.mp hfind)
    · intro path
      rw [← hfileKeys, hcomparable.files, h.mem_sealedEntries]
    · intro path metadata content hmem
      have hfind : (snapshotOf sha256 system.euid tree.items).files.find?
          path = some (scannedFile sha256 system.euid metadata content) :=
        (files_find?_eq_some hnodup).mpr ⟨metadata, content, hmem, rfl⟩
      exact hcomparable.fileMetadata _ (find?_eq_some_iff.mp hfind)
  · rintro ⟨hdirectories, hdirectoryValid, hfiles, hfileValid⟩
    refine ⟨?_, ?_, ?_, ?_⟩
    · intro path
      rw [hdirectoryKeys, hdirectories, h.mem_directories]
    · rintro ⟨path, directory⟩ hentry
      obtain ⟨metadata, hmem, rfl⟩ := (directories_find?_eq_some hnodup).mp
        (find?_eq_some_iff.mpr hentry)
      exact hdirectoryValid path metadata hmem
    · intro path
      rw [hfileKeys, hfiles, h.mem_sealedEntries]
    · rintro ⟨path, file⟩ hentry
      obtain ⟨metadata, content, hmem, rfl⟩ := (files_find?_eq_some hnodup).mp
        (find?_eq_some_iff.mpr hentry)
      exact hfileValid path metadata content hmem

end Compare

section Inspect

variable {sha256 : Sha256} {system : FileSystem}
  {limits : StageLimits} {prepared : PreparedStage} {tree : StageTree}
  {proposalLimits : ProposalLimits} {later after : ArtifactStore}
  {outcome : ProposalOutcome}

private theorem item_unique {items : List (String × StageItem)}
    (hnodup : (items.map Prod.fst).Nodup) {first second : StageItem}
    (hfirst : (path, first) ∈ items) (hsecond : (path, second) ∈ items) : first = second := by
  have heq := List.inj_on_of_nodup_map hnodup hfirst hsecond rfl
  simpa using heq

theorem verifyBaseline_eq_ok (h : Prepared sha256 system limits prepared)
    (hkeeps : Keeps sha256 prepared.artifacts later) :
    verifyBaseline sha256 later prepared.baseline = .ok () := by
  obtain ⟨bytes, hbytes, -, hid, hread⟩ := h.manifest
  have hentries : prepared.baseline.entries.forM (fun entry => do
      let artifact ← (later.readVerified sha256
        entry.contentArtifactId).mapError fun _ =>
          ProposalError.at .artifactCorrupt entry.path
      rejectIf (artifact.bytes.length ≠ entry.bytes ∨ sha256 artifact.bytes ≠ entry.contentDigest)
        (.at .artifactCorrupt entry.path)) = .ok () := by
    rw [forM_eq_ok]
    intro entry hentry
    have hmanifest : entry.manifestEntry ∈ prepared.baseline.manifest.entries := by
      rw [← h.entries]
      exact List.mem_map_of_mem hentry
    obtain ⟨content, hitem, hlength, hdigest⟩ := h.mem_manifestEntries.mp hmanifest
    have hsound := h.identities entry hentry
    have hstaged := h.staged _ hitem
    simp only [SealedBaselineEntry.manifestEntry] at hlength hdigest
    simp only [ok_iff, ne_eq, not_or, not_not]
    refine ⟨{ id := sha256 content, bytes := content }, ?_, hlength.symm, hdigest.symm⟩
    rw [hsound.artifact, hdigest]
    exact hkeeps _ _ hstaged.2.2
  simp only [verifyBaseline, StageManifest.canonicalBytes, ok_iff, ne_eq, not_not]
  refine ⟨{ id := sha256 bytes, bytes }, ?_, bytes, hbytes, rfl, hentries⟩
  rw [hid]
  exact hkeeps _ _ hread

theorem inspectProposal_eq_ok (h : Prepared sha256 system limits prepared)
    (hkeeps : Keeps sha256 prepared.artifacts later) :
    inspectProposal sha256 system.euid proposalLimits prepared.stage tree
        later = .ok (outcome, after) ↔
      workDirectoryMetadataValid system.euid tree.metadata = true ∧
        ScanFits proposalLimits.maxFileBytes tree.items ∧
        inspectSnapshot sha256 later prepared.baseline
          (snapshotOf sha256 system.euid tree.items) = .ok (outcome, after) := by
  simp only [inspectProposal, verifyWorkDirectory, h.verifyBaseline_eq_ok hkeeps, ok_iff,
    Bool.not_eq_false, scanStage_eq_ok, true_and]
  constructor
  · rintro ⟨hroot, first, ⟨hfits, rfl⟩, second, ⟨-, rfl⟩, -, -, h⟩
    exact ⟨hroot, hfits, h⟩
  · rintro ⟨hroot, hfits, h⟩
    refine ⟨hroot, _, ⟨hfits, rfl⟩, _, ⟨hfits, rfl⟩, (), ?_, h⟩
    simp [ensureStableScan]

theorem validDirectory (path : String) :
    workDirectoryMetadataValid system.euid (system.createPrivateDirectory path) = true := by
  simp [workDirectoryMetadataValid, FileSystem.createPrivateDirectory]

theorem validFile (path : String) :
    workFileMetadataValid system.euid (system.createPrivateFile path) = true := by
  simp [workFileMetadataValid, FileSystem.createPrivateFile]

theorem comparable_self (h : Prepared sha256 system limits prepared) :
    Comparable prepared.baseline (snapshotOf sha256 system.euid prepared.tree.items) := by
  rw [h.comparable_iff h.paths_nodup]
  refine ⟨?_, ?_, ?_, ?_⟩
  · intro path
    constructor
    · rintro ⟨metadata, hmem⟩
      rw [← (h.staged _ hmem).2]
      exact hmem
    · intro hmem
      exact ⟨_, hmem⟩
  · intro path metadata hmem
    rw [(h.staged _ hmem).2]
    exact validDirectory path
  · intro path
    constructor
    · rintro ⟨metadata, content, hmem⟩
      refine ⟨content, ?_⟩
      rw [← (h.staged _ hmem).2.1]
      exact hmem
    · rintro ⟨content, hmem⟩
      exact ⟨_, content, hmem⟩
  · intro path metadata content hmem
    rw [(h.staged _ hmem).2.1]
    exact validFile path

theorem changedFiles_self (h : Prepared sha256 system limits prepared) :
    changedFiles (sealedEntries prepared.baseline)
      (snapshotOf sha256 system.euid prepared.tree.items) = [] := by
  rw [List.eq_nil_iff_forall_not_mem]
  rintro ⟨entry, file⟩ hchange
  obtain ⟨path, hentry, hfile, hne⟩ := mem_changedFiles.mp hchange
  obtain ⟨-, -, content, hitem, hdigest⟩ := h.sealedEntry_find? hentry
  obtain ⟨metadata, content', hitem', rfl⟩ := (files_find?_eq_some h.paths_nodup).mp hfile
  have hsame := item_unique h.paths_nodup hitem hitem'
  simp only [Item.file.injEq] at hsame
  apply hne
  rw [hdigest, hsame.2]
  rfl

private theorem agrees_directory (h : workDirectoryMetadataValid system.euid metadata = true) :
    PermissionsAgree (system.createPrivateDirectory path) metadata := by
  simp only [workDirectoryMetadataValid, Bool.and_eq_true, beq_iff_eq] at h
  refine ⟨h.1.symm, ?_⟩
  simp [h.2, FileSystem.createPrivateDirectory]

private theorem agrees_file (h : workFileMetadataValid system.euid metadata = true) :
    PermissionsAgree (system.createPrivateFile path) metadata := by
  simp only [workFileMetadataValid, Bool.and_eq_true, beq_iff_eq] at h
  refine ⟨h.1.symm, ?_⟩
  simp [h.2, FileSystem.createPrivateFile]

section

variable (h : Prepared sha256 system limits prepared)
include h

theorem sameExcept (hroot : workDirectoryMetadataValid system.euid tree.metadata = true)
    (hfits : ScanFits proposalLimits.maxFileBytes tree.items)
    (hcomparable : Comparable prepared.baseline (snapshotOf sha256 system.euid tree.items))
    (hcollision : NoCollision sha256 prepared.tree tree) {apart : Set String}
    (hsame : ∀ path metadata content metadata' content', path ∉ apart →
      (path, .file metadata content) ∈ prepared.tree.items →
      (path, .file metadata' content') ∈ tree.items →
      sha256 content = sha256 content') : SameExcept apart prepared.tree tree := by
  have hnodup := stageTree_paths_nodup (allNamed_of_admits hfits.admits)
  obtain ⟨hdirectories, hdirectoryValid, hfiles, hfileValid⟩ :=
    (h.comparable_iff hnodup).mp hcomparable
  have hfile : ∀ path content metadata' content', path ∉ apart →
      (path, .file (system.createPrivateFile path) content) ∈ prepared.tree.items →
      (path, .file metadata' content') ∈ tree.items →
      SameItem (.file (system.createPrivateFile path) content) (.file metadata' content') := by
    intro path content metadata' content' hapart hmem hmem'
    refine ⟨agrees_file (hfileValid _ _ _ hmem'), ?_, ?_⟩
    · exact (hfits.admits _ hmem').2.2.1.symm
    · exact hcollision _ _ _ _ _ _ hmem hmem' (hsame _ _ _ _ _ hapart hmem hmem')
  refine ⟨?_, ?_, ?_⟩
  · rw [h.root]
    exact agrees_directory hroot
  · intro path item hmem hapart
    have hstaged := h.staged _ hmem
    cases item with
    | directory metadata =>
      obtain rfl := hstaged.2
      obtain ⟨metadata', hmem'⟩ := (hdirectories path).mpr hmem
      exact ⟨_, hmem', agrees_directory (hdirectoryValid _ _ hmem')⟩
    | file metadata content =>
      obtain rfl := hstaged.2.1
      obtain ⟨metadata', content', hmem'⟩ := (hfiles path).mpr ⟨content, hmem⟩
      exact ⟨_, hmem', hfile _ _ _ _ hapart hmem hmem'⟩
    | symlink | special | unnamed => exact hstaged.elim
  · intro path item' hmem' hapart
    have hadmits := hfits.admits _ hmem'
    cases item' with
    | directory metadata' =>
      have hmem := (hdirectories path).mp ⟨metadata', hmem'⟩
      exact ⟨_, hmem, agrees_directory (hdirectoryValid _ _ hmem')⟩
    | file metadata' content' =>
      obtain ⟨content, hmem⟩ := (hfiles path).mp ⟨metadata', content', hmem'⟩
      exact ⟨_, hmem, hfile _ _ _ _ hapart hmem hmem'⟩
    | symlink | special | unnamed => exact hadmits.elim

theorem digest_eq_of_unchanged (hnodup : (tree.items.map Prod.fst).Nodup) {metadata' : FileMetadata}
    {content content' : List UInt8} (hmem : (path, .file metadata content) ∈ prepared.tree.items)
    (hmem' : (path, .file metadata' content') ∈ tree.items)
    (hunchanged : ∀ change ∈ changedFiles (sealedEntries prepared.baseline) (snapshotOf sha256
        system.euid tree.items), change.1.path ≠ path) : sha256 content = sha256 content' := by
  by_contra hne
  obtain rfl := (h.staged _ hmem).2.1
  have hkey := h.mem_sealedEntries.mpr ⟨content, hmem⟩
  obtain ⟨entry, hentry⟩ := OrderedMap.mem_keys.mp hkey
  obtain ⟨hpath, -, sealed, hitem, hdigest⟩ := h.sealedEntry_find? hentry
  have hsame := item_unique h.paths_nodup hitem hmem
  simp only [Item.file.injEq, true_and] at hsame
  have hfile : (snapshotOf sha256 system.euid tree.items).files.find? path =
      some (scannedFile sha256 system.euid metadata' content') :=
    (files_find?_eq_some hnodup).mpr ⟨metadata', content', hmem', rfl⟩
  refine hunchanged (entry, scannedFile sha256 system.euid metadata' content')
    (mem_changedFiles.mpr ⟨path, hentry, hfile, ?_⟩) hpath
  rw [hdigest, hsame]
  exact fun heq => hne heq.symm

theorem sameTree_of_noChanges (hkeeps : Keeps sha256 prepared.artifacts later)
    (hcollision : NoCollision sha256 prepared.tree tree)
    (hinspect : inspectProposal sha256 system.euid proposalLimits
      prepared.stage tree later = .ok (.noChanges, after)) : SameTree prepared.tree tree := by
  obtain ⟨hroot, hfits, hsnapshot⟩ := (h.inspectProposal_eq_ok hkeeps).mp hinspect
  have hnodup := stageTree_paths_nodup (allNamed_of_admits hfits.admits)
  obtain ⟨hcomparable, hchanged | ⟨before, file, hchanged, hpropose⟩⟩ :=
    inspectSnapshot_eq_ok.mp hsnapshot
  · refine h.sameExcept hroot hfits hcomparable hcollision ?_
    intro path metadata content metadata' content' _ hmem hmem'
    refine h.digest_eq_of_unchanged hnodup hmem hmem' ?_
    simp [hchanged.1]
  · obtain ⟨proposal, hproposal, -⟩ := proposeReplacement_eq_ok hpropose
    simp at hproposal

theorem replaces_of_exactReplacement (hkeeps : Keeps sha256 prepared.artifacts later)
    (hcollision : NoCollision sha256 prepared.tree tree) {proposal : ExactReplacementProposal}
    (hinspect : inspectProposal sha256 system.euid proposalLimits
      prepared.stage tree later = .ok (.exactReplacement proposal, after)) :
    Replaces sha256 prepared.baseline prepared.tree tree proposal := by
  obtain ⟨hroot, hfits, hsnapshot⟩ := (h.inspectProposal_eq_ok hkeeps).mp hinspect
  have hnodup := stageTree_paths_nodup (allNamed_of_admits hfits.admits)
  obtain ⟨hcomparable, hchanged | ⟨before, file, hchanged, hpropose⟩⟩ :=
    inspectSnapshot_eq_ok.mp hsnapshot
  · simp at hchanged
  obtain ⟨proposal', hproposal, hpath, hmanifest, hlive, hbefore, hafter,
    hpayloadHash, hpayload, -⟩ := proposeReplacement_eq_ok hpropose
  simp only [ProposalOutcome.exactReplacement.injEq] at hproposal
  subst hproposal
  have hmem : (before, file) ∈ changedFiles (sealedEntries prepared.baseline)
      (snapshotOf sha256 system.euid tree.items) := by
    rw [hchanged]
    exact List.mem_singleton.mpr rfl
  obtain ⟨path, hentry, hfile, hne⟩ := mem_changedFiles.mp hmem
  obtain ⟨hsealedPath, -, content, hitem, hdigest⟩ := h.sealedEntry_find? hentry
  obtain ⟨metadata', content', hitem', rfl⟩ := (files_find?_eq_some hnodup).mp hfile
  rw [hsealedPath] at hpath
  subst hpath
  obtain ⟨-, -, -, hfileValid⟩ := (h.comparable_iff hnodup).mp hcomparable
  refine ⟨?_, hmanifest, _, metadata', content, content', hitem, hitem', agrees_file (hfileValid _ _
    _ hitem'), (hfits.admits _ hitem').2.2.1.symm, ?_, ?_, ?_, hpayload, hpayloadHash, hafter⟩
  · refine h.sameExcept hroot hfits hcomparable hcollision ?_
    intro path metadata content metadata' content' hapart hmem hmem'
    refine h.digest_eq_of_unchanged hnodup hmem hmem' ?_
    rintro change hchange heq
    rw [hchanged, List.mem_singleton] at hchange
    subst hchange
    rw [hsealedPath] at heq
    exact hapart heq.symm
  · rintro rfl
    exact hne (by rw [hdigest]; rfl)
  · rw [hlive, hdigest]
  · rw [hbefore, hdigest]

end

end Inspect

end Prepared

/-! ## Every state of a prepared stage -/

/-- An inspection of the untouched stage reports no change.  On any other
state of its directory it fails, or it reports no change and no path, content,
owner, permission or link count differs, or it proposes the one file whose
content differs. -/
theorem inspectProposal_reports (sha256 : Sha256) (system : FileSystem) (limits : StageLimits)
    (source : StageTree) (artifacts : ArtifactStore) (prepared : PreparedStage)
    (hprepare : prepare sha256 system limits source artifacts = .ok prepared)
    (proposalLimits : ProposalLimits) (hlimits : limits.maxFileBytes ≤ proposalLimits.maxFileBytes)
    (later : ArtifactStore) (hkeeps : Keeps sha256 prepared.artifacts later) :
    inspectProposal sha256 system.euid proposalLimits prepared.stage
        prepared.tree later = .ok (.noChanges, later) ∧
      ∀ tree, NoCollision sha256 prepared.tree tree →
        (∃ error, inspectProposal sha256 system.euid proposalLimits
          prepared.stage tree later = .error error) ∨
        (∃ after, inspectProposal sha256 system.euid proposalLimits
            prepared.stage tree later = .ok (.noChanges, after) ∧
          SameTree prepared.tree tree) ∨
        ∃ proposal after, inspectProposal sha256 system.euid proposalLimits
            prepared.stage tree later = .ok (.exactReplacement proposal, after) ∧
          Replaces sha256 prepared.stage.baseline prepared.tree tree proposal := by
  have h := prepared_of_prepare hprepare
  refine ⟨?_, ?_⟩
  · rw [h.inspectProposal_eq_ok hkeeps]
    refine ⟨?_, h.scanFits hlimits, inspectSnapshot_eq_ok.mpr
      ⟨h.comparable_self, .inl ⟨h.changedFiles_self, rfl, rfl⟩⟩⟩
    rw [h.root]
    exact Prepared.validDirectory ""
  intro tree hcollision
  cases hinspect : inspectProposal sha256 system.euid proposalLimits
      prepared.stage tree later with
  | error error => exact .inl ⟨error, rfl⟩
  | ok result =>
    obtain ⟨outcome, after⟩ := result
    cases outcome with
    | noChanges =>
      exact .inr (.inl ⟨after, rfl, h.sameTree_of_noChanges hkeeps hcollision hinspect⟩)
    | exactReplacement proposal =>
      exact .inr (.inr ⟨proposal, after, rfl,
        h.replaces_of_exactReplacement hkeeps hcollision hinspect⟩)

def sampleSha256 (bytes : List UInt8) : Sha256Digest :=
  ⟨BitVec.ofNat 256 (bytes.foldl (fun sum byte => sum * 257 + byte.toNat + 1) 0)⟩

def sampleSystem : FileSystem :=
  { euid := 1000, identity := fun _ => { device := 1, inode := 2 } }

def sampleLimits : StageLimits :=
  { maxFiles := 10, maxFileBytes := 1024, maxTotalBytes := 4096,
    valid := by decide }

def sampleProposalLimits : ProposalLimits :=
  { maxFileBytes := 1024, valid := by decide }

/-- A file, and a directory with another file. -/
def sampleTree (directory file : String → FileMetadata) (content : List UInt8) : StageTree where
  metadata := directory ""
  entries := [(.utf8 "a", .file (file "a") content),
    (.utf8 "d", .directory (directory "d") [(.utf8 "b", .file (file "d/b") [104, 105])])]
  wellFormed := by
    have hvalid : (FileName.utf8 "a").Valid ∧ (FileName.utf8 "d").Valid ∧
        (FileName.utf8 "b").Valid := by decide
    refine .intro (by simp [hvalid]) (by simp) ?_
    simp only [List.mem_cons, List.not_mem_nil, or_false, Prod.mk.injEq, Node.directory.injEq,
      reduceCtorEq, and_false, false_or]
    rintro _ _ _ ⟨rfl, rfl, rfl⟩
    exact .intro (by simp [hvalid]) (by simp) (by simp)

def sampleSource : StageTree :=
  sampleTree (fun _ => ⟨1000, 0o755, 2, 1, 3⟩) (fun _ => ⟨1000, 0o644, 1, 1, 4⟩) [104, 105]

def setuidTree : StageTree :=
  sampleTree sampleSystem.createPrivateDirectory
    (fun path => { sampleSystem.createPrivateFile path with mode := 0o4600 }) [104, 105]

def editedTree : StageTree :=
  sampleTree sampleSystem.createPrivateDirectory sampleSystem.createPrivateFile [104, 111]

def samplePrepared : Except StageError PreparedStage :=
  prepare sampleSha256 sampleSystem sampleLimits sampleSource ⟨[]⟩

def sampleInspect (prepared : PreparedStage) (tree : StageTree) :
    Except ProposalError (ProposalOutcome × ArtifactStore) :=
  inspectProposal sampleSha256 sampleSystem.euid sampleProposalLimits prepared.stage tree
    prepared.artifacts

def contentOf : StageItem → Option (List UInt8)
  | .file _ content => some content
  | _ => none

/-- What can be evaluated of `NoCollision`. -/
def distinguishes (first second : StageTree) : Bool :=
  decide (∀ x ∈ first.items, ∀ y ∈ second.items, ∀ c ∈ contentOf x.2, ∀ d ∈ contentOf y.2,
    sampleSha256 c = sampleSha256 d → c = d)

theorem noCollision_of_distinguishes {first second : StageTree}
    (h : distinguishes first second = true) : NoCollision sampleSha256 first second :=
  fun _ _ _ _ _ _ hx hy => of_decide_eq_true h _ hx _ hy _ rfl _ rfl

theorem exists_samplePrepared (p : PreparedStage → Bool)
    (h : samplePrepared.toOption.any p = true) :
    ∃ prepared, samplePrepared = .ok prepared ∧ p prepared = true := by
  cases hprepare : samplePrepared with
  | error error => simp [hprepare, Except.toOption] at h
  | ok prepared =>
    refine ⟨prepared, rfl, ?_⟩
    simpa [hprepare, Except.toOption] using h

/-- The untouched stage, and one whose file `a` was edited. -/
theorem inspectProposal_reports_sample :
    ∃ prepared proposal after, samplePrepared = .ok prepared ∧
      sampleInspect prepared prepared.tree = .ok (.noChanges, prepared.artifacts) ∧
      sampleInspect prepared editedTree = .ok (.exactReplacement proposal, after) ∧
      Replaces sampleSha256 prepared.stage.baseline prepared.tree editedTree proposal := by
  obtain ⟨prepared, hprepare, hrun⟩ := exists_samplePrepared
    (fun prepared => distinguishes prepared.tree editedTree &&
      (sampleInspect prepared editedTree).toOption.any (·.1 != .noChanges)) (by decide +kernel)
  simp only [Bool.and_eq_true] at hrun
  obtain ⟨hnone, hreports⟩ := inspectProposal_reports sampleSha256 sampleSystem sampleLimits
    sampleSource ⟨[]⟩ prepared hprepare sampleProposalLimits (by decide) prepared.artifacts
    (Keeps.refl _)
  obtain ⟨error, herror⟩ | ⟨after, hsame, -⟩ | ⟨proposal, after, hproposal, hreplaces⟩ :=
    hreports editedTree (noCollision_of_distinguishes hrun.1)
  · simp [sampleInspect, herror, Except.toOption] at hrun
  · simp [sampleInspect, hsame, Except.toOption] at hrun
  · exact ⟨prepared, proposal, after, hprepare, hnone, hproposal, hreplaces⟩

/-- A file of the stage can differ from the prepared one in its set-user-id
bit, and the inspection reports no change. -/
theorem setuid_bit_unnoticed :
    ∃ prepared, samplePrepared = .ok prepared ∧
      NoCollision sampleSha256 prepared.tree setuidTree ∧
      prepared.tree.items ≠ setuidTree.items ∧
      sampleInspect prepared setuidTree = .ok (.noChanges, prepared.artifacts) := by
  obtain ⟨prepared, hprepare, hrun⟩ := exists_samplePrepared
    (fun prepared => distinguishes prepared.tree setuidTree &&
      decide (prepared.tree.items ≠ setuidTree.items) &&
      decide (sampleInspect prepared setuidTree = .ok (.noChanges, prepared.artifacts)))
    (by decide +kernel)
  simp only [Bool.and_eq_true, decide_eq_true_eq] at hrun
  exact ⟨prepared, hprepare, noCollision_of_distinguishes hrun.1.1, hrun.1.2, hrun.2⟩

end CarlAgent.Staging
