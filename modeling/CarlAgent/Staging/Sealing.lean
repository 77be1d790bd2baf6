import CarlAgent.Staging.Reconstruction

/-!
# Sealing a sound candidate

The manifests of a sound candidate have closed forms that do not depend on
which module spells them.  An inspection of the reconstructed candidate seals
it with their digests.
-/

namespace CarlAgent.Staging

open Foundation CarlAgent.Task List RelativePath

def directoryManifestBytes (domain : String) (directories : List String) : List UInt8 :=
  asBytes domain ++ bigEndian 4 directories.length ++
    directories.flatMap fun directory =>
      bigEndian 4 directory.utf8ByteSize ++ asBytes directory

variable {entries : List StageManifestEntry} {path : String}

theorem length_lt (h : SoundPath path) : path.utf8ByteSize < 2 ^ 32 := by
  have hmax := h.length
  simp only [maxRelativePathBytes] at hmax
  omega

namespace DirectoryRules

variable {ε : Type} {rules : DirectoryRules ε} {directories : List String}

theorem checkParent_of_sound (hsorted : directories.Pairwise (· < ·)) {path : String}
    (hsound : SoundPath path) (hparent : parent path = "" ∨ parent path ∈ directories) :
    rules.checkParent directories path = .ok () := by
  simp only [checkParent]
  cases hsplit : split? path with
  | none => rfl
  | some parts =>
    obtain ⟨first, last⟩ := parts
    have hfirst : parent path = first := by
      simp [parent, hsplit]
    have hne := (hsound.proper.of_split? hsplit).1.ne_empty
    have hknown : first ∈ directories.map id := by
      rw [map_id, ← hfirst]
      exact hparent.resolve_left (hfirst ▸ hne)
    have hfound := (isSome_binarySearch (by simpa using hsorted)).mpr hknown
    simp only [rejectIf_eq_ok]
    exact Option.isSome_iff_ne_none.mp hfound

theorem manifest_of_sound (hsorted : directories.Pairwise (· < ·))
    (hsound : ∀ path ∈ directories, SoundPath path)
    (haccepts : ∀ path ∈ directories, rules.rejects path = false)
    (hparents : ∀ path ∈ directories, parent path = "" ∨ parent path ∈ directories)
    (hcount : directories.length < 2 ^ 32)
    (hbytes : (directories.map String.utf8ByteSize).sum ≤ rules.maxPathBytes) :
    rules.manifest directories = .ok (directoryManifestBytes rules.domain directories) := by
  -- One directory after another adds its bytes.
  have hfold := @foldlM_of_states _ _ _ (rules.step directories)
    (fun before => (before.getLast?, (before.map String.utf8ByteSize).sum,
      asBytes rules.domain ++ bigEndian 4 directories.length ++ before.flatMap fun directory =>
          bigEndian 4 directory.utf8ByteSize ++ asBytes directory))
    directories (by
      intro before path after hsplit
      have hmem : path ∈ directories := by simp [hsplit]
      have hlength := length_lt (hsound path hmem)
      have hchecked := rules.checkParent_of_sound hsorted (hsound path hmem) (hparents path hmem)
      have horder := @last_not_le _ _ _ id before after path
        (by rw [← hsplit, map_id]; exact hsorted) (path ≤ ·) (by simp)
      rw [Option.map_id] at horder
      rw [hsplit, map_append, map_cons, sum_append, sum_cons] at hbytes
      simp only [step, haccepts path hmem, hchecked, lengthBytes_of_lt _ hlength, ok_iff, not_lt]
      refine ⟨by simpa using horder, trivial, by omega, _, rfl, ?_⟩
      simp)
  simp only [getLast?_nil, map_nil, sum_nil, flatMap_nil, append_nil] at hfold
  simp only [manifest, lengthBytes_of_lt _ hcount, ok_iff]
  exact ⟨_, rfl, _, hfold, rfl⟩

end DirectoryRules

def manifestBytes (entries : List StageManifestEntry) : List UInt8 :=
  entries.flatMap fun entry =>
    manifestRecord (bigEndian 4 entry.path.utf8ByteSize) entry

theorem eq_manifestBytes {bytes : List UInt8}
    (h : canonicalManifestBytes entries = .ok bytes) : bytes = manifestBytes entries := by
  have hfold : ∀ acc acc', entries.foldlM canonicalManifestStep acc =
      .ok acc' → acc'.2 = acc.2 ++ manifestBytes entries := by
    clear h
    induction entries with
    | nil =>
      intro acc acc' h
      obtain rfl := Except.ok.inj h
      simp [manifestBytes]
    | cons entry rest ih =>
      intro acc acc' h
      obtain ⟨next, hstep, hrest⟩ := foldlM_cons_eq_ok.mp h
      simp only [canonicalManifestStep, ok_iff] at hstep
      obtain ⟨total, -, pathLength, hlength, -, rfl⟩ := hstep
      rw [ih _ _ hrest, eq_bigEndian_of_lengthBytes hlength]
      simp [manifestBytes]
  simp only [canonicalManifestBytes, ok_iff] at h
  obtain ⟨acc, hacc, rfl⟩ := h
  simpa using hfold _ _ hacc

theorem SoundPath.normal (h : SoundPath path) : hasAbnormalComponent path = false := by
  have hhead := h.proper.head_ne
  have hparent : (components path).any (· == ['.', '.']) = false := by
    rw [any_eq_false]
    intro component hmem
    simpa using (h.proper component hmem).2.2
  have hself : (components path).head? ≠ some ['.'] := by
    intro hfirst
    exact (h.proper _ (mem_of_mem_head? hfirst)).2.1 rfl
  simp only [hasAbnormalComponent, Bool.or_eq_false_iff, hparent, beq_eq_false_iff_ne]
  exact ⟨⟨hhead, trivial⟩, hself⟩

theorem canonicalManifestBytes_of_sound (hsound : ∀ entry ∈ entries, SoundPath entry.path)
    (hbytes : (entries.map fun entry => entry.path.utf8ByteSize).sum ≤ maxAggregatePathBytes) :
    canonicalManifestBytes entries = .ok (manifestBytes entries) := by
  have hfold := @foldlM_of_states _ _ _ canonicalManifestStep
    (fun before => ((before.map fun entry => entry.path.utf8ByteSize).sum,
      manifestBytes before)) entries (by
      intro before entry after hsplit
      have hpath := hsound entry (by simp [hsplit])
      rw [hsplit, map_append, map_cons, sum_append, sum_cons] at hbytes
      simp only [canonicalManifestStep, ok_iff, accountPathBytes_eq_ok,
        lengthBytes_of_lt _ (length_lt hpath), hpath.normal, Bool.false_eq_true, not_false_eq_true,
        true_and]
      refine ⟨_, ⟨rfl, by omega⟩, _, rfl, ?_⟩
      simp [manifestBytes])
  simp only [canonicalManifestBytes, ok_iff]
  exact ⟨_, hfold, rfl⟩

/-! ## The seal -/

namespace SoundCandidate

variable {sha256 : Sha256} {system : FileSystem}
  {directories : List String} {files : List CandidateFile}

section

variable (h : SoundCandidate directories files)
include h

theorem directoryPathBytes : (directories.map String.utf8ByteSize).sum ≤ maxAggregatePathBytes := by
  have hbytes := h.pathBytes
  simp only [candidatePaths, map_append, sum_append] at hbytes
  omega

theorem directoryCount : directories.length ≤ maxCleanupEntries := by
  have hcount := h.count
  simp only [candidatePaths, length_append] at hcount
  omega

theorem directoryManifest {ε : Type} {rules : DirectoryRules ε}
    (haccepts : ∀ path, SoundPath path → rules.rejects path = false)
    (hmax : maxAggregatePathBytes ≤ rules.maxPathBytes) :
    rules.manifest directories = .ok (directoryManifestBytes rules.domain directories) := by
  have hsound : ∀ path ∈ directories, SoundPath path :=
    fun path hmem => h.sound path (mem_append_left _ hmem)
  have hcount := h.directoryCount
  simp only [maxCleanupEntries] at hcount
  apply DirectoryRules.manifest_of_sound h.directoriesSorted hsound
  · exact fun path hmem => haccepts path (hsound path hmem)
  · exact fun path hmem => h.parents path (mem_append_left _ hmem)
  · omega
  · exact h.directoryPathBytes.trans hmax

theorem canonicalDirectoryManifest : canonicalDirectoryManifest directories =
      .ok (directoryManifestBytes directoryManifestDomain directories) := by
  apply h.directoryManifest
  · intro path hpath
    simp [hpath.notRejected, hpath.startsPlain, hpath.endsPlain]
  · exact le_rfl

theorem canonicalManifestBytes :
    canonicalManifestBytes (files.map (CandidateFile.manifestEntry sha256)) =
      .ok (manifestBytes (files.map (CandidateFile.manifestEntry sha256))) := by
  apply canonicalManifestBytes_of_sound
  · intro entry hmem
    obtain ⟨file, hfile, rfl⟩ := mem_map.mp hmem
    exact h.sound _ (mem_append_right _ (mem_map_of_mem hfile))
  · have hbytes := h.pathBytes
    simp only [candidatePaths, map_append, sum_append, map_map] at hbytes
    rw [map_map]
    exact le_trans (Nat.le_add_left _ _) hbytes

theorem itemPathBytes :
    itemPathBytes (candidateItems system directories files) ≤ maxAggregatePathBytes := by
  have hpaths : Staging.itemPathBytes (candidateItems system directories files) =
      ((candidateItems system directories files).map Prod.fst |>.map String.utf8ByteSize).sum := by
    rw [map_map]
    rfl
  rw [hpaths, candidateItems_paths]
  exact h.pathBytes

end

theorem itemContentBytes_eq : itemContentBytes (candidateItems system directories files) =
      (files.map fun file => file.bytes.length).sum := by
  have hdirectories : itemContentBytes (directories.map fun path =>
      (path, (newDirectory system path).item)) = 0 := by
    induction directories with
    | nil => rfl
    | cons path rest ih =>
      rw [map_cons, itemContentBytes_cons, ih]
      rfl
  have hfiles : itemContentBytes (files.map fun file =>
      (file.path, (newFile system file).item)) =
      (files.map fun file => file.bytes.length).sum := by
    simp only [itemContentBytes, map_map]
    rfl
  rw [candidateItems, itemContentBytes_append, hdirectories, hfiles, Nat.zero_add]

theorem file_mem_candidateItems {metadata : FileMetadata} {content : List UInt8} :
    (path, .file metadata content) ∈ candidateItems system directories files ↔ ∃ file ∈ files,
      file.path = path ∧ system.createPrivateFile path = metadata ∧ file.bytes = content := by
  simp only [candidateItems, newDirectory, newFile, NewEntry.item, mem_append, mem_map]
  grind

theorem directory_mem_candidateItems {metadata : FileMetadata} :
    (path, .directory metadata) ∈ candidateItems system directories files ↔
      path ∈ directories ∧ metadata = system.createPrivateDirectory path := by
  simp only [candidateItems, newDirectory, newFile, NewEntry.item, mem_append, mem_map]
  grind

section

variable (h : SoundCandidate directories files)
include h

theorem scanFits : ScanFits (1024 * 1024) (candidateItems system directories files) where
  admits := by
    intro item hitem
    rw [candidateItems, mem_append] at hitem
    rcases hitem with hitem | hitem
    · obtain ⟨path, hmem, rfl⟩ := mem_map.mp hitem
      exact ⟨h.admits path (mem_append_left _ hmem), h.depth path hmem⟩
    · obtain ⟨file, hmem, rfl⟩ := mem_map.mp hitem
      obtain ⟨hname, hcontent⟩ := h.contents file hmem
      exact ⟨h.admits _ (mem_append_right _ (mem_map_of_mem hmem)), hname, rfl, hcontent⟩
  entryCount := by
    have hcount := h.count
    rw [← @candidateItems_paths system, length_map] at hcount
    exact hcount
  pathBytes := h.itemPathBytes
  totalBytes := by
    rw [itemContentBytes_eq]
    exact h.totalBytes

theorem items_nodup : ((candidateItems system directories files).map Prod.fst).Nodup := by
  rw [candidateItems_paths]
  exact h.nodup

theorem files_keys :
    (snapshotOf sha256 system.euid (candidateItems system directories files)).files.keys.Perm
        (files.map CandidateFile.path) := by
  refine (perm_ext_iff_of_nodup (OrderedMap.keys_nodup _) h.nodup.of_append_right).mpr ?_
  intro path
  simp only [OrderedMap.mem_keys, files_find?_eq_some h.items_nodup, file_mem_candidateItems,
    mem_map]
  grind

theorem directories_keys :
    (snapshotOf sha256 system.euid (candidateItems system directories files)).directories.keys.Perm
        directories := by
  refine (perm_ext_iff_of_nodup (OrderedMap.keys_nodup _) h.nodup.of_append_left).mpr ?_
  intro path
  simp only [OrderedMap.mem_keys, directories_find?_eq_some h.items_nodup,
    directory_mem_candidateItems]
  grind

theorem sealExpectedSnapshot : sealExpectedSnapshot sha256
        (snapshotOf sha256 system.euid (candidateItems system directories files))
        (files.map (CandidateFile.manifestEntry sha256)) directories =
      .ok { snapshot := snapshotOf sha256 system.euid
              (candidateItems system directories files)
            manifestDigest := sha256 (manifestBytes
              (files.map (CandidateFile.manifestEntry sha256)))
            directoryManifestDigest := sha256 (directoryManifestBytes
              directoryManifestDomain directories) } := by
  have hfold := @foldlM_of_states _ _ _ (fun acc file => sealEntry (snapshotOf sha256 system.euid
      (candidateItems system directories files)) acc (CandidateFile.manifestEntry sha256 file))
    (fun before => (before.getLast?.map CandidateFile.path,
      (before.map fun file => file.bytes.length).sum)) files (by
      intro before file after hsplit
      have hmem : file ∈ files := by simp [hsplit]
      have hsorted := h.filesSorted
      rw [hsplit] at hsorted
      have hmax := h.totalBytes
      simp only [maxTotalBytes, hsplit, map_append, map_cons, sum_append, sum_cons] at hmax
      simp only [sealEntry, ok_iff, not_or, ne_eq, not_not]
      refine ⟨last_not_le hsorted fun _ => of_decide_eq_true, _,
        (files_find?_eq_some h.items_nodup).mpr ⟨_, _,
          mem_append_right _ (mem_map.mpr ⟨file, hmem, rfl⟩), rfl⟩,
        ⟨?_, rfl, rfl⟩, ?_, ?_⟩
      · simp [scannedFile, workFileMetadataValid, FileSystem.createPrivateFile]
      · simp only [CandidateFile.manifestEntry]
        omega
      · simp [CandidateFile.manifestEntry])
  rw [← foldlM_map] at hfold
  have hfileCount : (snapshotOf sha256 system.euid
      (candidateItems system directories files)).files.keys.length = files.length := by
    rw [h.files_keys.length_eq, length_map]
  have htotal : (snapshotOf sha256 system.euid
      (candidateItems system directories files)).totalBytes =
      (files.map fun file => file.bytes.length).sum := by
    rw [← @itemContentBytes_eq system directories files]
    exact Nat.zero_add _
  have hdirectories : ((snapshotOf sha256 system.euid
      (candidateItems system directories files)).directories.entries.any
        fun entry => !entry.2.metadataValid ||
          !(sortDedup id directories).contains entry.1) = false := by
    rw [any_eq_false]
    rintro ⟨path, directory⟩ hentry
    have hfind := OrderedMap.find?_eq_some_iff.mpr hentry
    obtain ⟨metadata, hmem, rfl⟩ := (directories_find?_eq_some h.items_nodup).mp hfind
    obtain ⟨hkey, hvalid⟩ := directory_mem_candidateItems.mp hmem
    simp [hvalid, mem_sortDedup.mpr hkey, scannedDirectory,
      workDirectoryMetadataValid, FileSystem.createPrivateDirectory]
  have hset : (sortDedup id directories).length = directories.length := by
    rw [sortDedup_id_of_strict h.directoriesSorted]
  have hmanifest : buildManifest sha256 (files.map fun file => file.bytes.length).sum
      (files.map (CandidateFile.manifestEntry sha256)) =
      .ok { digest := sha256 (manifestBytes (files.map (CandidateFile.manifestEntry sha256)))
            totalBytes := (files.map fun file => file.bytes.length).sum
            entries := files.map (CandidateFile.manifestEntry sha256) } := by
    simp only [buildManifest, bind_eq_ok]
    exact ⟨_, h.canonicalManifestBytes, rfl⟩
  simp only [Staging.sealExpectedSnapshot, ok_iff, not_or, ne_eq, not_not, hdirectories, hset,
    Bool.false_eq_true, not_false_eq_true, and_true, true_and]
  refine ⟨_, hfold, ⟨?_, htotal⟩, h.directories_keys.length_eq, _,
    h.canonicalDirectoryManifest, _, hmanifest, rfl⟩
  rw [hfileCount, length_map]

theorem inspectVerificationCandidate {limits : ProposalLimits}
    (hlimits : limits.maxFileBytes = 1024 * 1024) {tree : StageTree}
    (hroot : tree.metadata = system.createPrivateDirectory "")
    (hitems : tree.items.Perm (candidateItems system directories files)) :
    inspectVerificationCandidate sha256 system.euid limits tree
        (files.map (CandidateFile.manifestEntry sha256)) directories =
      .ok { snapshot := snapshotOf sha256 system.euid
              (candidateItems system directories files)
            manifestDigest := sha256 (manifestBytes
              (files.map (CandidateFile.manifestEntry sha256)))
            directoryManifestDigest := sha256 (directoryManifestBytes
              directoryManifestDomain directories) } := by
  have hfits := @h.scanFits system
  have hsnapshot : snapshotOf sha256 system.euid tree.items = snapshotOf sha256 system.euid
        (candidateItems system directories files) :=
    (snapshotOf_perm hitems.symm h.items_nodup).symm
  have hscan : scanStage sha256 system.euid limits tree =
      .ok (snapshotOf sha256 system.euid (candidateItems system directories files)) := by
    rw [scanStage_eq_ok, hlimits]
    refine ⟨⟨?_, ?_, ?_, ?_⟩, hsnapshot.symm⟩
    · exact fun item hmem => hfits.admits item (hitems.mem_iff.mp hmem)
    · rw [hitems.length_eq]
      exact hfits.entryCount
    · rw [itemPathBytes_perm hitems]
      exact hfits.pathBytes
    · rw [itemContentBytes_perm hitems]
      exact hfits.totalBytes
  have hvalid : workDirectoryMetadataValid system.euid tree.metadata = true := by
    simp [hroot, workDirectoryMetadataValid, FileSystem.createPrivateDirectory]
  simp only [Staging.inspectVerificationCandidate, verifyWorkDirectory, hvalid, hscan, ok_iff,
    Bool.true_eq_false, not_false_eq_true, true_and]
  refine ⟨_, rfl, _, rfl, (), ?_, h.sealExpectedSnapshot⟩
  simp [ensureStableScan]

end

end SoundCandidate

end CarlAgent.Staging
