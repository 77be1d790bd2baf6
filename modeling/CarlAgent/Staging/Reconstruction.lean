import CarlAgent.Staging.Scan

/-!
# Reconstructing a sound candidate

A candidate with sorted directories and files, each one below a directory of
the candidate and within the limits, passes the check of its topology.  It can
then be created, and an inspection of what was created seals it.
-/

namespace CarlAgent.Staging

open Foundation CarlAgent.Task RelativePath List

structure SoundPath (path : String) : Prop where
  proper : RelativePath.Proper path
  backslash : '\\' ∉ path.toList
  nul : '\x00' ∉ path.toList
  length : path.utf8ByteSize ≤ maxRelativePathBytes

namespace SoundPath

variable {path : String}

section

variable (h : SoundPath path)
include h

theorem notRejected : relativePathRejected path = false := by
  have hcomponents : (components path).any improperComponent = false := by
    rw [any_eq_false]
    intro component hmem
    obtain ⟨hempty, hdot, hdots⟩ := h.proper component hmem
    simp [improperComponent, hempty, hdot, hdots]
  have hlength : ¬ path.utf8ByteSize > maxRelativePathBytes := not_lt.mpr h.length
  simp [relativePathRejected, h.proper.ne_empty, hlength, h.backslash, hcomponents]

theorem startsPlain : startsWithSeparator path = false := by
  simpa [startsWithSeparator] using h.proper.head_ne

theorem endsPlain : endsWithSeparator path = false := by
  simpa [endsWithSeparator] using h.proper.getLast_ne

theorem validate : validateRelativePath path = .ok () := by
  simp [validateRelativePath, h.notRejected, h.startsPlain]

theorem splits : splitRelativePath path = .ok (parent path, name path) := by
  simp only [splitRelativePath, ok_iff]
  refine ⟨(), h.validate, ?_⟩
  cases hsplit : split? path with
  | none => simp [parent, name, hsplit]
  | some parts => simp [parent, name, hsplit]

theorem creatable : FileTree.Creatable path := by
  cases hsplit : split? path with
  | none =>
    refine ⟨"", path, by simp, .inl rfl, h.proper.ne_empty, split?_eq_none.mp hsplit, h.nul⟩
  | some parts =>
    obtain ⟨first, last⟩ := parts
    obtain ⟨hpath, hplain⟩ := split?_eq_some.mp hsplit
    obtain ⟨hfirst, hlast⟩ := h.proper.of_split? hsplit
    refine ⟨first, last, ?_, .inr hfirst, hlast.ne_empty, hplain, ?_⟩
    · rw [hpath, join_of_ne hfirst.ne_empty]
    · intro hnul
      apply h.nul
      rw [hpath, String.toList_append]
      exact mem_append_right _ hnul

end

end SoundPath

def CandidateFile.manifestEntry (sha256 : Sha256) (file : CandidateFile) : StageManifestEntry :=
  { path := file.path, bytes := file.bytes.length, contentDigest := sha256 file.bytes }

def candidatePaths (directories : List String) (files : List CandidateFile) : List String :=
  directories ++ files.map CandidateFile.path

structure SoundCandidate (directories : List String) (files : List CandidateFile) : Prop where
  sound : ∀ path ∈ candidatePaths directories files, SoundPath path
  admits : ∀ path ∈ candidatePaths directories files, AdmitsPath path
  nodup : (candidatePaths directories files).Nodup
  parents : ∀ path ∈ candidatePaths directories files,
    RelativePath.parent path = "" ∨ RelativePath.parent path ∈ directories
  directoriesSorted : directories.Pairwise (· < ·)
  filesSorted : (files.map CandidateFile.path).Pairwise (· < ·)
  depth : ∀ path ∈ directories, RelativePath.depth path ≤ maxDepth
  contents : ∀ file ∈ files, excludedFile file.path (RelativePath.name file.path) = none ∧
      AdmitsContent (1024 * 1024) file.bytes
  count : (candidatePaths directories files).length ≤ maxCleanupEntries
  pathBytes : ((candidatePaths directories files).map
    String.utf8ByteSize).sum ≤ maxAggregatePathBytes
  totalBytes : (files.map fun file => file.bytes.length).sum ≤ maxTotalBytes

section Topology

variable {directories : List String} {files : List CandidateFile}

theorem separators_parent_lt {path : String} (h : SoundPath path) (hparent : parent path ≠ "") :
    separators (parent path) < separators path := by
  obtain ⟨parent, name, rfl, -, hvalid⟩ := h.creatable
  rw [parent_join parent hvalid.2.1] at hparent ⊢
  rw [separators_join hparent hvalid.2.1]
  omega

theorem parent_lt {path : String} (h : SoundPath path) (hparent : parent path ≠ "") :
    parent path < path := by
  obtain ⟨parent, name, rfl, -, hvalid⟩ := h.creatable
  rw [parent_join parent hvalid.2.1] at hparent ⊢
  exact parent_lt_join hparent name

theorem SoundCandidate.validateCandidateTopology (h : SoundCandidate directories files) :
    validateCandidateTopology directories files = .ok () := by
  have hbytes := h.pathBytes
  simp only [candidatePaths, map_append, sum_append] at hbytes
  have hcount := h.count
  simp only [candidatePaths, length_append, length_map] at hcount
  have hnodup := h.nodup
  rw [candidatePaths, nodup_append] at hnodup
  have hdirectories := @foldlM_of_states _ _ _ topologyDirectory
    (fun before => ((before.map String.utf8ByteSize).sum, before.reverse))
    directories (by
      intro before path after hsplit
      have hmem : path ∈ directories := by simp [hsplit]
      have hpath := mem_append_left (files.map CandidateFile.path) hmem
      have hsound := h.sound path hpath
      have hstrict := h.directoriesSorted
      have hfresh := hnodup.1
      rw [hsplit, map_append, map_cons, sum_append, sum_cons] at hbytes
      rw [hsplit] at hstrict hfresh
      have hnew : path ∉ before := fun hbefore =>
        (nodup_append.mp hfresh).2.2 path hbefore path (by simp) rfl
      simp only [topologyDirectory, ok_iff, accountPathBytes_eq_ok, Prod.mk.injEq]
      refine ⟨(), hsound.validate, _, ⟨rfl, by omega⟩, by simpa using hnew, _,
        hsound.splits, ?_, by simp, by simp⟩
      -- The parent of a directory is listed before it.
      rintro ⟨hne, hmissing⟩
      have hparent := (h.parents path hpath).resolve_left hne
      have hlt := parent_lt hsound hne
      rw [hsplit] at hparent
      refine hmissing (mem_cons_of_mem _ (mem_reverse.mpr ?_))
      exact mem_before_of_pairwise hstrict hparent hlt.ne (not_lt_of_gt hlt))
  have hfiles := @foldlM_of_states _ _ _ (topologyFile directories.reverse)
    (fun before =>
      { pathBytes := (directories.map String.utf8ByteSize).sum +
          ((before.map CandidateFile.path).map String.utf8ByteSize).sum
        fileSet := (before.map CandidateFile.path).reverse
        totalBytes := (before.map fun file => file.bytes.length).sum })
    files (by
      intro before file after hsplit
      have hmem : file ∈ files := by simp [hsplit]
      have hpath := mem_append_right directories (mem_map_of_mem (f := CandidateFile.path) hmem)
      have hsound := h.sound _ hpath
      have hfresh := hnodup.2.1
      have htotal := h.totalBytes
      simp only [maxTotalBytes] at htotal
      simp only [hsplit, map_append, map_cons, sum_append, sum_cons] at hbytes htotal hfresh
      have hnew : file.path ∉ before.map CandidateFile.path := fun hbefore =>
        (nodup_append.mp hfresh).2.2 _ hbefore _ (by simp) rfl
      simp only [topologyFile, ok_iff, accountPathBytes_eq_ok, not_or, not_lt]
      refine ⟨(), hsound.validate, _, ⟨rfl, by omega⟩,
        ⟨by simpa using hnew, ?_⟩, _, hsound.splits, ?_,
        (h.contents file hmem).2.1, by omega, by simp [Nat.add_assoc]⟩
      · intro hdirectory
        rw [mem_reverse] at hdirectory
        exact hnodup.2.2 _ hdirectory _ (mem_map_of_mem hmem) rfl
      · rintro ⟨hne, hmissing⟩
        exact hmissing (mem_reverse.mpr ((h.parents _ hpath).resolve_left hne)))
  simp only [Staging.validateCandidateTopology, ok_iff, not_lt]
  exact ⟨hcount, _, hdirectories, _, hfiles, trivial⟩

end Topology

section Reconstruct

variable {system : FileSystem} {directories : List String}
  {files : List CandidateFile}

def candidateItems (system : FileSystem) (directories : List String)
    (files : List CandidateFile) : List (String × StageItem) :=
  directories.map (fun path => (path, (newDirectory system path).item)) ++
    files.map fun file => (file.path, (newFile system file).item)

theorem candidateItems_paths :
    (candidateItems system directories files).map Prod.fst = candidatePaths directories files := by
  simp only [candidateItems, candidatePaths, map_append, map_map]
  congr 1
  exact map_id directories

theorem createAt_eq_ok {path : String} {entry : NewEntry FileMetadata}
    {tree tree' : StageTree} (h : SoundPath path)
    (hcreate : tree.create (names (parent path)) (name path) entry = .ok tree') :
    createAt tree path entry = .ok tree' := by
  simp only [createAt, ok_iff]
  exact ⟨_, h.splits, hcreate⟩

theorem orderedDirectories_perm : (orderedDirectories directories).Perm directories :=
  sortByKey_perm _ directories

theorem SoundCandidate.parent_before (h : SoundCandidate directories files)
    {before after : List String} {path : String}
    (hsplit : orderedDirectories directories = before ++ path :: after) :
    parent path = "" ∨ parent path ∈ before := by
  have hmem : path ∈ directories := by
    rw [← orderedDirectories_perm.mem_iff, hsplit]
    simp
  have hpath := mem_append_left (files.map CandidateFile.path) hmem
  rcases h.parents path hpath with hempty | hparent
  · exact .inl hempty
  by_cases hempty : parent path = ""
  · exact .inl hempty
  have hlt := separators_parent_lt (h.sound path hpath) hempty
  have hsorted : (orderedDirectories directories).Pairwise fun a b =>
      toLex (pathDepth a, a) ≤ toLex (pathDepth b, b) :=
    sortByKey_pairwise _ directories
  rw [hsplit] at hsorted
  refine .inr (mem_before_of_pairwise hsorted ?_ ?_ ?_)
  · rw [← hsplit, orderedDirectories_perm.mem_iff]
    exact hparent
  · intro heq
    rw [heq] at hlt
    exact lt_irrefl _ hlt
  · rw [not_le, Prod.Lex.toLex_lt_toLex]
    exact .inl hlt

theorem SoundCandidate.reconstruct (h : SoundCandidate directories files) :
    ∃ tree, reconstruct system directories files = .ok tree ∧
      tree.metadata = system.createPrivateDirectory "" ∧
      tree.items.Perm (candidateItems system directories files) := by
  have hnodup := h.nodup
  rw [candidatePaths, nodup_append] at hnodup
  have hempty : (emptyWorkRoot system).items = [] := by
    simp [emptyWorkRoot, FileTree.items]
  obtain ⟨middle, hdirectories, hroot, hitems, -, hopen⟩ :=
    @FileTree.foldlM_create FileMetadata (emptyWorkRoot system) String
      StageError id (newDirectory system)
      (fun tree relative =>
        createAt tree relative (newDirectory system relative))
      (orderedDirectories directories)
      (fun path hmem tree tree' hcreate => createAt_eq_ok
        (h.sound path (mem_append_left _ (orderedDirectories_perm.mem_iff.mp hmem))) hcreate)
      (fun path hmem => (h.sound path (mem_append_left _
        (orderedDirectories_perm.mem_iff.mp hmem))).creatable)
      (by
        intro before path after hsplit
        rcases h.parent_before hsplit with htop | hbefore
        · refine .inl ?_
          simp only [id_eq, htop]
          trivial
        · exact .inr ⟨_, hbefore, rfl, _, rfl⟩)
      (by
        rw [hempty, map_id, map_nil, append_nil, orderedDirectories_perm.nodup_iff]
        exact hnodup.1)
  rw [hempty, append_nil] at hitems
  have hdirectoryItems : middle.items.Perm (directories.map fun path =>
      (path, (newDirectory system path).item)) :=
    hitems.trans (orderedDirectories_perm.map _)
  have hmiddlePaths : (middle.items.map Prod.fst).Perm directories := by
    have hpaths := hdirectoryItems.map Prod.fst
    rw [map_map] at hpaths
    exact hpaths.trans (.of_eq (map_id directories))
  obtain ⟨tree, hfiles, hroot', hitems', -, -⟩ :=
    @FileTree.foldlM_create FileMetadata middle CandidateFile StageError
      CandidateFile.path (newFile system)
      (fun tree file => createAt tree file.path (newFile system file)) files
      (fun file hmem tree tree' hcreate => createAt_eq_ok
        (h.sound _ (mem_append_right _ (mem_map_of_mem hmem))) hcreate)
      (fun file hmem => (h.sound _ (mem_append_right _ (mem_map_of_mem hmem))).creatable)
      (by
        intro before file after hsplit
        refine .inl ?_
        have hmem : file ∈ files := by simp [hsplit]
        rcases h.parents file.path (mem_append_right _ (mem_map_of_mem hmem)) with
          htop | hparent
        · rw [htop]
          trivial
        · exact hopen _ (orderedDirectories_perm.mem_iff.mpr hparent) _ rfl)
      (by
        rw [(List.Perm.append_left _ hmiddlePaths).nodup_iff, perm_append_comm.nodup_iff]
        exact h.nodup)
  refine ⟨tree, ?_, hroot'.trans hroot, ?_⟩
  · simp only [Staging.reconstruct, bind_eq_ok]
    exact ⟨(), h.validateCandidateTopology, middle, hdirectories, hfiles⟩
  · refine hitems'.trans ?_
    refine (List.Perm.append_left _ hdirectoryItems).trans ?_
    exact perm_append_comm

end Reconstruct

end CarlAgent.Staging
