import CarlAgent.Staging.Inspection
import CarlAgent.Staging.Sealing

/-!
# The candidate of an inspected proposal

The files of a prepared stage, with the one file replaced that a proposal
names, form a sound candidate.
-/

namespace CarlAgent.Staging

open List Foundation CarlAgent.Task RelativePath CandidateFile

theorem admitsPath_of_admits {maxFileBytes : Nat} {item : String × StageItem}
    (h : Admits maxFileBytes item) : AdmitsPath item.1 := by
  obtain ⟨path, node⟩ := item
  cases node with
  | file metadata content => exact h.1
  | directory metadata => exact h.1
  | symlink | special | unnamed => exact h.elim

theorem soundPath_of_mem {tree : StageTree} {maxFileBytes : Nat}
    (h : ∀ item ∈ tree.items, Admits maxFileBytes item) :
    ∀ item ∈ tree.items, SoundPath item.1 ∧ (parent item.1 = "" ∨ ∃ metadata,
        (parent item.1, .directory metadata) ∈ tree.items) := by
  have hnamed := allNamed_of_admits h
  have hall : ∀ length, ∀ item ∈ tree.items, item.1.toList.length = length →
      SoundPath item.1 ∧ (parent item.1 = "" ∨ ∃ metadata,
        (parent item.1, .directory metadata) ∈ tree.items) := by
    intro length
    induction length using Nat.strong_induction_on with
    | _ length ih =>
      intro item hitem hlength
      obtain ⟨directory, name, hpath, hvalid, hdirectory⟩ :=
        tree.wellFormed.parent_mem "" item hitem (hnamed item hitem)
      have hparent : parent item.1 = directory := by
        rw [hpath, parent_join directory hvalid.2.1]
      obtain ⟨hsafe, hbytes, -⟩ := admitsPath_of_admits (h item hitem)
      rw [hpath, name_join directory hvalid.2.1] at hsafe
      simp only [isSafeName, Bool.and_eq_true, bne_iff_ne, ne_eq, Bool.not_eq_true',
        any_eq_false, Bool.or_eq_true, beq_iff_eq, not_or] at hsafe
      obtain ⟨⟨hdot, hdots⟩, hplain⟩ := hsafe
      have hname : RelativePath.Proper name := .of_plain hvalid.2.1 hvalid.1 hdot hdots
      have hbackslash : '\\' ∉ name.toList := fun hmem => (hplain _ hmem).2 rfl
      by_cases htop : directory = ""
      · subst htop
        rw [join_empty] at hpath
        refine ⟨⟨?_, ?_, ?_, hbytes⟩, .inl hparent⟩
        · rw [hpath]
          exact hname
        · rw [hpath]
          exact hbackslash
        · rw [hpath]
          exact hvalid.2.2
      · obtain ⟨metadata, hmem⟩ := hdirectory.resolve_left htop
        have hlist := toList_join_of_ne htop name
        have hshorter : directory.toList.length < length := by
          rw [← hlength, hpath, hlist, length_append, length_cons]
          omega
        obtain ⟨hsound, -⟩ := ih _ hshorter _ hmem rfl
        refine ⟨⟨?_, ?_, ?_, hbytes⟩, .inr ⟨metadata, ?_⟩⟩
        · rw [hpath]
          exact .join (.inr hsound.proper) hvalid.2.1 hname
        · rw [hpath, hlist]
          simp [hsound.backslash, hbackslash]
        · rw [hpath, hlist]
          simp [hsound.nul, hvalid.2.2]
        · rw [hparent]
          exact hmem
  intro item hitem
  exact hall _ item hitem rfl

def candidateFileOf : String × StageItem → Option CandidateFile
  | (path, .file _ content) => some { path, bytes := content }
  | _ => none

def candidateFilesOf (items : List (String × StageItem)) : List CandidateFile :=
  sortByKey path (items.filterMap candidateFileOf)

section Files

variable {sha256 : Sha256}
  {items : List (String × StageItem)}

theorem candidateFileOf_eq_some {item : String × StageItem} {file : CandidateFile} :
    candidateFileOf item = some file ↔
      ∃ metadata, item = (file.path, .file metadata file.bytes) := by
  obtain ⟨path, node⟩ := item
  cases node with
  | file metadata content =>
    simp only [candidateFileOf, Option.some.injEq, Prod.mk.injEq, Item.file.injEq]
    constructor
    · rintro rfl
      exact ⟨metadata, rfl, rfl, rfl⟩
    · rintro ⟨_, rfl, rfl, rfl⟩
      rfl
  | directory metadata | symlink | special | unnamed => simp [candidateFileOf]

theorem mem_candidateFilesOf {file : CandidateFile} :
    file ∈ candidateFilesOf items ↔ ∃ metadata, (file.path, .file metadata file.bytes) ∈ items := by
  rw [candidateFilesOf, mem_sortByKey, mem_filterMap]
  constructor
  · rintro ⟨item, hmem, hfile⟩
    obtain ⟨metadata, rfl⟩ := candidateFileOf_eq_some.mp hfile
    exact ⟨metadata, hmem⟩
  · rintro ⟨metadata, hmem⟩
    exact ⟨_, hmem, candidateFileOf_eq_some.mpr ⟨metadata, rfl⟩⟩

theorem candidateFiles_nodup (h : (items.map Prod.fst).Nodup) :
    ((items.filterMap candidateFileOf).map path).Nodup := by
  refine h.sublist (map_filterMap_sublist ?_ items)
  intro item file hfile
  obtain ⟨metadata, rfl⟩ := candidateFileOf_eq_some.mp hfile
  rfl

theorem candidateFilesOf_strict (h : (items.map Prod.fst).Nodup) :
    ((candidateFilesOf items).map path).Pairwise (· < ·) :=
  sortByKey_strict (candidateFiles_nodup h)

theorem map_candidateFilesOf : (candidateFilesOf items).map (manifestEntry sha256) =
      sortByKey StageManifestEntry.path (items.filterMap (manifestEntryOf sha256)) := by
  have hentries : (items.filterMap candidateFileOf).map (manifestEntry sha256) =
      items.filterMap (manifestEntryOf sha256) := by
    rw [map_filterMap]
    congr 1
    funext item
    obtain ⟨path, node⟩ := item
    cases node <;> rfl
  have hmap : (candidateFilesOf items).map
      (manifestEntry sha256) = sortByKey StageManifestEntry.path
        ((items.filterMap candidateFileOf).map (manifestEntry sha256)) := by
    apply map_sortByKey
    intro file
    rfl
  rw [hmap, hentries]

theorem paths_perm {maxFileBytes : Nat} (h : ∀ item ∈ items, Admits maxFileBytes item) :
    (candidatePaths (items.filterMap directoryPathOf)
      (items.filterMap candidateFileOf)).Perm (items.map Prod.fst) := by
  induction items with
  | nil => exact .nil
  | cons item rest ih =>
    have hrest := ih fun other hmem => h other (mem_cons_of_mem _ hmem)
    have hitem := h item (by simp)
    obtain ⟨path, node⟩ := item
    cases node with
    | directory metadata => exact hrest.cons path
    | file metadata content =>
      exact perm_middle.trans (hrest.cons path)
    | symlink | special | unnamed => exact hitem.elim

theorem sum_candidateFiles :
    ((items.filterMap candidateFileOf).map fun file =>
      file.bytes.length).sum = itemContentBytes items := by
  induction items with
  | nil => rfl
  | cons item rest ih =>
    obtain ⟨path, node⟩ := item
    rw [itemContentBytes_cons]
    cases node with
    | file metadata content =>
      have hfile : candidateFileOf (path, .file metadata content) =
          some { path, bytes := content } := rfl
      rw [filterMap_cons_some hfile, map_cons, sum_cons, ih]
      rfl
    | directory metadata | symlink | special | unnamed =>
      rw [filterMap_cons_none rfl, ih]
      exact (Nat.zero_add _).symm

end Files

theorem replaceFirst_eq_some {path : String} {replacement : StageManifestEntry}
    {entries result : List StageManifestEntry}
    (hnodup : (entries.map StageManifestEntry.path).Nodup)
    (h : replaceFirst path replacement entries = some result) :
    result = replaceKey StageManifestEntry.path path replacement entries := by
  induction entries generalizing result with
  | nil => simp [replaceFirst] at h
  | cons entry rest ih =>
    rw [map_cons, nodup_cons] at hnodup
    simp only [replaceFirst] at h
    split at h
    · rename_i hpath
      obtain rfl := Option.some.inj h
      have hrest : replaceKey StageManifestEntry.path path replacement
          rest = rest := replaceKey_of_notMem (hpath ▸ hnodup.1)
      rw [replaceKey] at hrest
      rw [replaceKey, map_cons, if_pos hpath, hrest]
    · rename_i hpath
      obtain ⟨tail, htail, rfl⟩ := Option.map_eq_some_iff.mp h
      rw [ih hnodup.2 htail, replaceKey, replaceKey, map_cons, if_neg hpath]

/-! ## What an inspected proposal says -/

/-- A proposal of an inspection, with the entry of the baseline it replaces. -/
structure Inspected (sha256 : Sha256)
    (baseline : SealedBaseline) (proposal : ExactReplacementProposal)
    (before : SealedBaselineEntry) (artifacts : ArtifactStore) : Prop where
  entry : before ∈ baseline.entries
  path : before.path = proposal.path
  baselineDigest : proposal.baselineManifestDigest = baseline.manifest.digest
  live : proposal.expectedLiveHash = before.contentDigest
  beforeHash : proposal.beforeHash = before.contentDigest
  afterHash : proposal.afterHash = sha256 proposal.payload
  payloadHash : proposal.payloadHash = sha256 proposal.payload
  payloadArtifact : proposal.payloadArtifactId = sha256 proposal.payload
  candidate : ∃ file : ScannedFile, file.bytes = proposal.payload ∧
    file.digest = sha256 proposal.payload ∧
    candidateManifestDigest sha256 baseline proposal.path file =
      .ok proposal.candidateManifestDigest
  payload : artifacts.readVerified sha256 (sha256 proposal.payload) =
    .ok { id := sha256 proposal.payload, bytes := proposal.payload }
  envelope : ∃ envelope, canonicalProposalEnvelope baseline.manifest.digest proposal.path
      before.contentDigest before.contentDigest (sha256 proposal.payload)
      (sha256 proposal.payload) proposal.payload = .ok envelope ∧
    proposal.artifactId = sha256 envelope ∧
    artifacts.readVerified sha256 (sha256 envelope) =
      .ok { id := sha256 envelope, bytes := envelope }

namespace Prepared

variable {sha256 : Sha256} {system : FileSystem}
  {limits : StageLimits} {prepared : PreparedStage} {tree : StageTree}
  {proposalLimits : ProposalLimits} {later after : ArtifactStore}
  {proposal : ExactReplacementProposal}

theorem inspected (h : Prepared sha256 system limits prepared)
    (hkeeps : ArtifactStore.Keeps sha256 prepared.artifacts later)
    (hinspect : inspectProposal sha256 system.euid proposalLimits
      prepared.stage tree later = .ok (.exactReplacement proposal, after)) :
    ArtifactStore.Keeps sha256 later after ∧
      ∃ before, Inspected sha256 prepared.baseline proposal before after := by
  obtain ⟨-, hfits, hsnapshot⟩ := (h.inspectProposal_eq_ok hkeeps).mp hinspect
  have hnodup := stageTree_paths_nodup (allNamed_of_admits hfits.admits)
  obtain ⟨-, hchanged | ⟨before, file, hchanged, hpropose⟩⟩ := inspectSnapshot_eq_ok.mp hsnapshot
  · simp at hchanged
  have hmem : (before, file) ∈ changedFiles (sealedEntries prepared.baseline)
      (snapshotOf sha256 system.euid tree.items) := by
    rw [hchanged]
    exact List.mem_singleton.mpr rfl
  obtain ⟨path, hentry, hfile, -⟩ := mem_changedFiles.mp hmem
  obtain ⟨hpath, hsealed, -⟩ := h.sealedEntry_find? hentry
  obtain ⟨metadata, content, -, rfl⟩ := (files_find?_eq_some hnodup).mp hfile
  obtain ⟨proposal', hproposal, hpathOf, hmanifest, hlive, hbefore, hafter, hpayloadHash, hpayload,
    hpayloadId, hcandidate, hkept, -, hread, henvelope⟩ := proposeReplacement_eq_ok hpropose
  simp only [ProposalOutcome.exactReplacement.injEq] at hproposal
  subst hproposal
  simp only [scannedFile] at hafter hpayloadHash hpayload hpayloadId hread
  simp only [scannedFile] at henvelope
  rw [← hpayload] at hafter hpayloadHash hpayloadId hread henvelope
  rw [← hpathOf] at hcandidate henvelope
  refine ⟨hkept, before, ?_⟩
  exact
    { entry := hsealed
      path := hpathOf.symm
      baselineDigest := hmanifest
      live := hlive
      beforeHash := hbefore
      afterHash := hafter
      payloadHash := hpayloadHash
      payloadArtifact := hpayloadId
      candidate := ⟨_, hpayload.symm, by rw [hpayload]; rfl, hcandidate⟩
      payload := hread
      envelope := henvelope }

def candidateFiles (prepared : PreparedStage)
    (proposal : ExactReplacementProposal) : List CandidateFile :=
  replaceKey path proposal.path { path := proposal.path, bytes := proposal.payload }
    (candidateFilesOf prepared.tree.items)

theorem candidateFiles_paths : (candidateFiles prepared proposal).map path =
      (candidateFilesOf prepared.tree.items).map path := by
  rw [candidateFiles]
  apply map_key_replaceKey
  rfl

section

variable (h : Prepared sha256 system limits prepared)
include h

theorem candidateFiles_manifest : (candidateFiles prepared proposal).map
        (manifestEntry sha256) = replaceKey StageManifestEntry.path proposal.path
        { path := proposal.path, bytes := proposal.payload.length,
          contentDigest := sha256 proposal.payload }
        prepared.baseline.manifest.entries := by
  rw [candidateFiles, h.manifestEntries, ← map_candidateFilesOf]
  apply map_replaceKey
  intro file
  rfl

theorem admits : ∀ item ∈ prepared.tree.items, Admits limits.maxFileBytes item :=
  fun item hitem => (h.staged item hitem).admits

theorem manifest_eq : prepared.baseline.manifest.entries =
      (candidateFilesOf prepared.tree.items).map (manifestEntry sha256) := by
  rw [h.manifestEntries, map_candidateFilesOf]

theorem candidatePaths_perm :
    (candidatePaths prepared.baseline.directories (candidateFiles prepared proposal)).Perm
        (prepared.tree.items.map Prod.fst) := by
  rw [candidatePaths, candidateFiles_paths, h.directories]
  refine List.Perm.trans ?_ (paths_perm h.admits)
  refine List.Perm.append (sortByKey_perm _ _) ?_
  exact (sortByKey_perm _ _).map _

theorem candidateManifestDigest_eq {before : SealedBaselineEntry}
    (hinspected : Inspected sha256 prepared.baseline proposal before after) :
    proposal.candidateManifestDigest = sha256 (manifestBytes ((candidateFiles prepared proposal).map
        (manifestEntry sha256))) := by
  obtain ⟨file, hbytes, hdigest, hcandidate⟩ := hinspected.candidate
  simp only [candidateManifestDigest, buildManifest, ok_iff, hbytes, hdigest] at hcandidate
  obtain ⟨entries, hentries, _, _, _, _, manifest, ⟨bytes, hmanifest, rfl⟩, hresult⟩ := hcandidate
  have hnodup : (prepared.baseline.manifest.entries.map StageManifestEntry.path).Nodup :=
    h.manifest_paths_strict.imp ne_of_lt
  rw [← hresult, eq_manifestBytes hmanifest,
    replaceFirst_eq_some hnodup hentries, ← candidateFiles_manifest h]

theorem candidateFiles_perm (hnodup : (tree.items.map Prod.fst).Nodup)
    (hreplaces : Replaces sha256 prepared.baseline prepared.tree tree proposal) :
    (candidateFiles prepared proposal).Perm (tree.items.filterMap candidateFileOf) := by
  obtain ⟨metadata, metadata', before, content, hbefore, hafter, -, -, -, -,
    -, hpayload, -⟩ := hreplaces.file
  have hstrict : ((candidateFiles prepared proposal).map path).Nodup := by
    rw [candidateFiles_paths]
    exact (candidateFilesOf_strict h.paths_nodup).imp ne_of_lt
  rw [List.perm_ext_iff_of_nodup (.of_map _ hstrict) (.of_map _ (candidateFiles_nodup hnodup))]
  intro file
  have htree : file ∈ tree.items.filterMap candidateFileOf ↔
      ∃ metadata, (file.path, .file metadata file.bytes) ∈ tree.items := by
    have hsorted := @mem_candidateFilesOf tree.items file
    rwa [candidateFilesOf, mem_sortByKey] at hsorted
  rw [htree]
  constructor
  · intro hmem
    rcases mem_replaceKey hmem with rfl | ⟨hmem, hne⟩
    · refine ⟨metadata', ?_⟩
      rw [hpayload]
      exact hafter
    · obtain ⟨metadata, hitem⟩ := mem_candidateFilesOf.mp hmem
      obtain ⟨item', hitem', hsame⟩ := hreplaces.elsewhere.kept _ _ hitem (by simpa using hne)
      cases item' with
      | file other content' =>
        obtain ⟨-, -, rfl⟩ := hsame
        exact ⟨other, hitem'⟩
      | directory other | symlink | special | unnamed => exact hsame.elim
  · rintro ⟨other, hitem'⟩
    by_cases hpath : file.path = proposal.path
    · have hsame : other = metadata' ∧ file.bytes = content := by
        have heq := List.inj_on_of_nodup_map hnodup hitem' hafter hpath
        simp only [Prod.mk.injEq, Item.file.injEq] at heq
        exact heq.2
      have hknown : { path := proposal.path, bytes := before } ∈
          candidateFilesOf prepared.tree.items :=
        mem_candidateFilesOf.mpr ⟨metadata, hbefore⟩
      refine List.mem_map.mpr ⟨_, hknown, ?_⟩
      obtain ⟨path, bytes⟩ := file
      simp only at hpath hsame
      simp [hpath, hsame.2, hpayload]
    · obtain ⟨item, hitem, hsame⟩ := hreplaces.elsewhere.added _ _ hitem' (by simpa using hpath)
      cases item with
      | file metadata content' =>
        obtain ⟨-, -, rfl⟩ := hsame
        refine List.mem_map.mpr ⟨file, mem_candidateFilesOf.mpr ⟨metadata, hitem⟩, ?_⟩
        simp [hpath]
      | directory metadata | symlink | special | unnamed => exact hsame.elim

theorem soundCandidate (hkeeps : ArtifactStore.Keeps sha256 prepared.artifacts later)
    (hcollision : NoCollision sha256 prepared.tree tree)
    (hinspect : inspectProposal sha256 system.euid proposalLimits
      prepared.stage tree later = .ok (.exactReplacement proposal, after)) :
    SoundCandidate prepared.baseline.directories (candidateFiles prepared proposal) := by
  have hreplaces := h.replaces_of_exactReplacement hkeeps hcollision hinspect
  obtain ⟨-, hfits, -⟩ := (h.inspectProposal_eq_ok hkeeps).mp hinspect
  have hnodup := stageTree_paths_nodup (allNamed_of_admits hfits.admits)
  have hpaths : (candidatePaths prepared.baseline.directories
      (candidateFiles prepared proposal)).Perm
        (prepared.tree.items.map Prod.fst) := h.candidatePaths_perm
  have hfiles := h.candidateFiles_perm hnodup hreplaces
  have hsound := soundPath_of_mem h.admits
  have hitem : ∀ path ∈ candidatePaths prepared.baseline.directories
      (candidateFiles prepared proposal), ∃ item, (path, item) ∈ prepared.tree.items := by
    intro path hmem
    obtain ⟨⟨path', item⟩, hmem', rfl⟩ := List.mem_map.mp (hpaths.mem_iff.mp hmem)
    exact ⟨item, hmem'⟩
  refine
    { sound := ?_, admits := ?_, nodup := hpaths.nodup_iff.mpr h.paths_nodup, parents := ?_,
      directoriesSorted := h.directories_strict, filesSorted := ?_, depth := ?_, contents := ?_,
      count := ?_, pathBytes := ?_, totalBytes := ?_ }
  · intro path hmem
    obtain ⟨item, hmem'⟩ := hitem path hmem
    exact (hsound _ hmem').1
  · intro path hmem
    obtain ⟨item, hmem'⟩ := hitem path hmem
    have hadmits := admitsPath_of_admits (h.admits _ hmem')
    exact hadmits
  · intro path hmem
    obtain ⟨item, hmem'⟩ := hitem path hmem
    rcases (hsound _ hmem').2 with htop | ⟨metadata, hparent⟩
    · exact .inl htop
    · refine .inr (h.mem_directories.mpr ?_)
      rw [← (h.staged _ hparent).2]
      exact hparent
  · rw [candidateFiles_paths]
    exact candidateFilesOf_strict h.paths_nodup
  · intro path hmem
    exact (h.admits _ (h.mem_directories.mp hmem)).2
  · intro file hmem
    have htree : file ∈ tree.items.filterMap candidateFileOf := hfiles.mem_iff.mp hmem
    obtain ⟨item, hmem', hfile⟩ := List.mem_filterMap.mp htree
    obtain ⟨metadata, rfl⟩ := candidateFileOf_eq_some.mp hfile
    obtain ⟨-, hname, -, hlength, hutf8, hclean⟩ := hfits.admits _ hmem'
    exact ⟨hname, hlength.trans proposalLimits.valid.2, hutf8, hclean⟩
  · rw [hpaths.length_eq, List.length_map]
    exact h.entryCount.trans limits.valid.2.2.2.1
  · rw [(hpaths.map String.utf8ByteSize).sum_eq, List.map_map]
    exact h.pathBytes
  · rw [(hfiles.map fun file => file.bytes.length).sum_eq, sum_candidateFiles]
    exact hfits.totalBytes

end

end Prepared

end CarlAgent.Staging
