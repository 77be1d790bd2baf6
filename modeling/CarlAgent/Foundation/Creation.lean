import CarlAgent.Foundation.Check
import CarlAgent.Foundation.FileTree

/-!
# Creating entries in a file tree

A new entry is created in the directory that a list of names leads to.  It
adds one item to the tree and keeps every directory that was there, so a list
of entries can be created one after the other as long as each one's directory
came before it.
-/

namespace CarlAgent.Foundation

open List Prod

open RelativePath (join names Plain Proper)

variable {μ : Type}

inductive NewEntry (μ : Type) where
  | file (metadata : μ) (content : List UInt8)
  | directory (metadata : μ)
  deriving DecidableEq, Repr

namespace NewEntry

def node : NewEntry μ → Node μ
  | file metadata content => .file metadata content
  | directory metadata => .directory metadata []

def item : NewEntry μ → Item μ
  | file metadata content => .file metadata content
  | directory metadata => .directory metadata

@[simp] theorem items_node (path : String) (entry : NewEntry μ) :
    entry.node.items path = [(path, entry.item)] := by
  cases entry <;> simp [node, item, Node.items]

end NewEntry

inductive CreateError where
  /-- No directory has these names. -/
  | missingDirectory
  /-- The name is taken, or no name of a file system. -/
  | refused
  deriving DecidableEq, Repr

instance : (name : FileName) → Decidable name.Valid
  | .utf8 text =>
    inferInstanceAs (Decidable (text ≠ "" ∧ Plain text ∧ '\x00' ∉ text.toList))
  | .other _ => inferInstanceAs (Decidable True)

def updateDirectory (name : String)
    (update : List (Entry μ) → Except CreateError (List (Entry μ))) :
    List (Entry μ) → Except CreateError (List (Entry μ))
  | [] => .error .missingDirectory
  | (other, node) :: rest =>
    if other = .utf8 name then
      match node with
      | .directory metadata inner => do
        let inner ← update inner
        .ok ((other, .directory metadata inner) :: rest)
      | _ => .error .missingDirectory
    else do
      let rest ← updateDirectory name update rest
      .ok ((other, node) :: rest)

def createEntry (name : String) (entry : NewEntry μ) :
    List String → List (Entry μ) → Except CreateError (List (Entry μ))
  | [], entries => do
    rejectIf (¬ (FileName.utf8 name).Valid ∨ FileName.utf8 name ∈ entries.map fst) .refused
    .ok (entries ++ [(.utf8 name, entry.node)])
  | directory :: rest, entries =>
    updateDirectory directory (createEntry name entry rest) entries

def HasDirectory : List String → List (Entry μ) → Prop
  | [], _ => True
  | directory :: rest, entries =>
    ∃ metadata inner, (FileName.utf8 directory, Node.directory metadata inner) ∈ entries ∧
        HasDirectory rest inner

section Create

variable {name : String} {entry : NewEntry μ} {directories : List String}
  {entries entries' : List (Entry μ)}
  {update : List (Entry μ) → Except CreateError (List (Entry μ))}

theorem updateDirectory_eq_ok (h : updateDirectory name update entries = .ok entries') :
    ∃ before metadata inner inner' after, entries =
        before ++ (.utf8 name, .directory metadata inner) :: after ∧
      update inner = .ok inner' ∧
      entries' = before ++ (.utf8 name, .directory metadata inner') :: after := by
  induction entries generalizing entries' with
  | nil => simp [updateDirectory] at h
  | cons head rest ih =>
    obtain ⟨other, node⟩ := head
    simp only [updateDirectory] at h
    split at h
    · rename_i hname
      subst hname
      cases node with
      | directory metadata inner =>
        simp only [ok_iff] at h
        obtain ⟨inner', hupdate, rfl⟩ := h
        exact ⟨[], metadata, inner, inner', rest, rfl, hupdate, rfl⟩
      | file metadata content | symlink | special => simp at h
    · simp only [ok_iff] at h
      obtain ⟨rest', hrest, rfl⟩ := h
      obtain ⟨before, metadata, inner, inner', after, rfl, hupdate, rfl⟩ := ih hrest
      exact ⟨(other, node) :: before, metadata, inner, inner', after, rfl, hupdate, rfl⟩

theorem updateDirectory_of_mem {metadata : μ} {inner inner' : List (Entry μ)}
    (hdistinct : (entries.map fst).Nodup)
    (hmem : (FileName.utf8 name, Node.directory metadata inner) ∈ entries)
    (hupdate : update inner = .ok inner') :
    ∃ entries', updateDirectory name update entries = .ok entries' := by
  induction entries with
  | nil => simp at hmem
  | cons head rest ih =>
    obtain ⟨other, node⟩ := head
    rw [map_cons, nodup_cons] at hdistinct
    simp only [updateDirectory]
    split
    · rename_i hname
      subst hname
      rcases mem_cons.mp hmem with heq | hrest
      · simp only [mk.injEq, true_and] at heq
        subst heq
        simp only [hupdate]
        exact ⟨_, rfl⟩
      · exact absurd (mem_map_of_mem hrest) hdistinct.1
    · rename_i hname
      rcases mem_cons.mp hmem with heq | hrest
      · simp only [mk.injEq] at heq
        exact absurd heq.1.symm hname
      · obtain ⟨rest', hrest'⟩ := ih hdistinct.2 hrest
        simp only [hrest']
        exact ⟨_, rfl⟩

theorem WellFormed.of_update {before after inner inner' : List (Entry μ)} {other : FileName}
    {metadata : μ} (h : WellFormed (before ++ (other, Node.directory metadata inner) :: after))
    (hinner : WellFormed inner') :
    WellFormed (before ++ (other, Node.directory metadata inner') :: after) := by
  refine .intro ?_ ?_ ?_
  · intro entry hentry
    rw [mem_append, mem_cons] at hentry
    rcases hentry with hmem | rfl | hmem
    · exact h.names entry (by simp [hmem])
    · exact h.names (other, .directory metadata inner) (by simp)
    · exact h.names entry (by simp [hmem])
  · simpa using h.distinct
  · intro child metadata' inside hmem
    rw [mem_append, mem_cons] at hmem
    rcases hmem with hmem | heq | hmem
    · exact h.child (mem_append_left _ hmem)
    · simp only [mk.injEq, Node.directory.injEq] at heq
      rw [heq.2.2]
      exact hinner
    · exact h.child (mem_append_right _ (mem_cons_of_mem _ hmem))

theorem createEntry_wellFormed (h : WellFormed entries)
    (hcreate : createEntry name entry directories entries = .ok entries') :
    WellFormed entries' := by
  induction directories generalizing entries entries' with
  | nil =>
    simp only [createEntry, ok_iff, not_or, not_not] at hcreate
    obtain ⟨⟨hvalid, hnew⟩, rfl⟩ := hcreate
    refine h.concat hvalid hnew ?_
    intro metadata inner hnode
    cases entry with
    | file metadata' content => simp [NewEntry.node] at hnode
    | directory metadata' =>
      simp only [NewEntry.node, Node.directory.injEq] at hnode
      rw [← hnode.2]
      exact WellFormed.nil
  | cons directory rest ih =>
    obtain ⟨before, metadata, inner, inner', after, rfl, hinner, rfl⟩ :=
      updateDirectory_eq_ok hcreate
    have hmem : (FileName.utf8 directory, Node.directory metadata inner) ∈
        before ++ (.utf8 directory, .directory metadata inner) :: after := by
      simp
    exact h.of_update (ih (h.child hmem) hinner)

theorem createEntry_items (parent : String)
    (hcreate : createEntry name entry directories entries = .ok entries') :
    (itemsBelow parent entries').Perm
      ((join (directories.foldl join parent) name, entry.item) :: itemsBelow parent entries) := by
  induction directories generalizing parent entries entries' with
  | nil =>
    simp only [createEntry, ok_iff] at hcreate
    obtain ⟨-, rfl⟩ := hcreate
    rw [itemsBelow_append, itemsBelow_cons, itemsBelow_nil, append_nil]
    simp only [entryItems, NewEntry.items_node, foldl_nil]
    exact perm_append_singleton _ _
  | cons directory rest ih =>
    obtain ⟨before, metadata, inner, inner', after, rfl, hinner, rfl⟩ :=
      updateDirectory_eq_ok hcreate
    have hperm := ih (join parent directory) hinner
    simp only [itemsBelow_append, itemsBelow_cons, entryItems, Node.items, foldl_cons, cons_append]
    refine ((List.Perm.append_left _ ((hperm.append_right _).cons _)).trans ?_)
    refine (List.Perm.append_left _ (List.Perm.swap _ _ _)).trans ?_
    exact perm_middle

theorem createEntry_keeps (hcreate : createEntry name entry directories entries = .ok entries')
    {other : List String} (h : HasDirectory other entries) : HasDirectory other entries' := by
  induction directories generalizing entries entries' other with
  | nil =>
    simp only [createEntry, ok_iff] at hcreate
    obtain ⟨-, rfl⟩ := hcreate
    cases other with
    | nil => trivial
    | cons first tail =>
      obtain ⟨metadata, inner, hmem, hinner⟩ := h
      exact ⟨metadata, inner, mem_append_left _ hmem, hinner⟩
  | cons directory rest ih =>
    obtain ⟨before, metadata, inner, inner', after, rfl, hcreated, rfl⟩ :=
      updateDirectory_eq_ok hcreate
    cases other with
    | nil => trivial
    | cons first tail =>
      obtain ⟨metadata', inside, hmem, htail⟩ := h
      rw [mem_append, mem_cons] at hmem
      rcases hmem with hmem | heq | hmem
      · exact ⟨metadata', inside, by simp [hmem], htail⟩
      · simp only [mk.injEq, Node.directory.injEq] at heq
        obtain ⟨hname, rfl, rfl⟩ := heq
        exact ⟨metadata', inner', by simp [hname], ih hcreated htail⟩
      · exact ⟨metadata', inside, by simp [hmem], htail⟩

theorem createEntry_directory {metadata : μ}
    (hcreate : createEntry name (.directory metadata) directories entries = .ok entries') :
    HasDirectory (directories ++ [name]) entries' := by
  induction directories generalizing entries entries' with
  | nil =>
    simp only [createEntry, ok_iff] at hcreate
    obtain ⟨-, rfl⟩ := hcreate
    exact ⟨metadata, [], by simp [NewEntry.node], trivial⟩
  | cons directory rest ih =>
    obtain ⟨before, metadata', inner, inner', after, rfl, hcreated, rfl⟩ :=
      updateDirectory_eq_ok hcreate
    exact ⟨metadata', inner', by simp, ih hcreated⟩

theorem createEntry_complete (h : WellFormed entries) (parent : String)
    (hvalid : (FileName.utf8 name).Valid) (hdirectory : HasDirectory directories entries)
    (hnew : join (directories.foldl join parent) name ∉ (itemsBelow parent entries).map fst) :
    ∃ entries', createEntry name entry directories entries = .ok entries' := by
  induction directories generalizing parent entries with
  | nil =>
    refine ⟨entries ++ [(.utf8 name, entry.node)], ?_⟩
    simp only [createEntry, ok_iff, not_or, not_not]
    refine ⟨⟨hvalid, ?_⟩, trivial⟩
    intro htaken
    obtain ⟨⟨other, node⟩, hmem, rfl⟩ := mem_map.mp htaken
    apply hnew
    have hitem : ∃ item, (join parent name, item) ∈ itemsBelow parent entries := by
      cases node with
      | file metadata content | symlink | special =>
        exact ⟨_, mem_itemsBelow.mpr ⟨_, hmem, by simp [entryItems, Node.items]; rfl⟩⟩
      | directory metadata inner =>
        exact ⟨.directory metadata, mem_itemsBelow.mpr ⟨_, hmem, by simp [entryItems, Node.items]⟩⟩
    obtain ⟨item, hitem⟩ := hitem
    exact mem_map.mpr ⟨_, hitem, rfl⟩
  | cons directory rest ih =>
    obtain ⟨metadata, inner, hmem, hinner⟩ := hdirectory
    have hinside : ∀ item ∈ itemsBelow (join parent directory) inner,
        item ∈ itemsBelow parent entries := by
      intro item hitem
      refine mem_itemsBelow.mpr ⟨_, hmem, ?_⟩
      simp only [entryItems, Node.items]
      exact mem_cons_of_mem _ hitem
    have hfresh : join (rest.foldl join (join parent directory)) name ∉
        (itemsBelow (join parent directory) inner).map fst := by
      intro htaken
      obtain ⟨item, hitem, hpath⟩ := mem_map.mp htaken
      exact hnew (mem_map.mpr ⟨item, hinside item hitem, hpath⟩)
    obtain ⟨inner', hcreated⟩ := ih (h.child hmem) (join parent directory) hinner hfresh
    exact updateDirectory_of_mem h.distinct hmem hcreated

end Create

namespace FileTree

def create (tree : FileTree μ) (directories : List String) (name : String)
    (entry : NewEntry μ) : Except CreateError (FileTree μ) :=
  match h : createEntry name entry directories tree.entries with
  | .error error => .error error
  | .ok entries =>
    .ok { tree with entries, wellFormed := createEntry_wellFormed tree.wellFormed h }

structure Created (path : String) (entry : NewEntry μ) (before after : FileTree μ) : Prop where
  metadata : after.metadata = before.metadata
  items : after.items.Perm ((path, entry.item) :: before.items)
  keeps : ∀ directories, HasDirectory directories before.entries →
    HasDirectory directories after.entries
  directory : ∀ metadata, entry = .directory metadata → HasDirectory (names path) after.entries

variable {tree : FileTree μ} {parent name : String} {entry : NewEntry μ}

theorem create_complete (hparent : parent = "" ∨ Proper parent)
    (hvalid : (FileName.utf8 name).Valid) (hdirectory : HasDirectory (names parent) tree.entries)
    (hnew : join parent name ∉ tree.items.map fst) :
    ∃ tree', tree.create (names parent) name entry = .ok tree' ∧
      Created (join parent name) entry tree tree' := by
  have hfold : (names parent).foldl join "" = parent := by
    rcases hparent with rfl | hproper
    · simp [names]
    · exact hproper.foldl_names
  have hfresh : join ((names parent).foldl join "") name ∉
      (itemsBelow "" tree.entries).map fst := by
    rw [hfold]
    exact hnew
  have hcomplete : ∃ entries', createEntry name entry (names parent) tree.entries = .ok entries' :=
    createEntry_complete tree.wellFormed "" hvalid hdirectory hfresh
  obtain ⟨entries', hcreate⟩ := hcomplete
  have hitems := createEntry_items "" hcreate
  rw [hfold] at hitems
  refine ⟨{ tree with
    entries := entries', wellFormed := createEntry_wellFormed tree.wellFormed hcreate }, ?_, ?_⟩
  · unfold create
    split
    · rename_i error herror
      simp [hcreate] at herror
    · rename_i found hfound
      rw [hcreate, Except.ok.injEq] at hfound
      subst hfound
      rfl
  · refine
      { metadata := rfl
        items := hitems
        keeps := fun directories h => createEntry_keeps hcreate h
        directory := ?_ }
    rintro metadata rfl
    rw [RelativePath.names_join parent hvalid.1 hvalid.2.1]
    exact createEntry_directory hcreate

section CreateAll

variable {β ε : Type} {path : β → String} {entry : β → NewEntry μ}
  {step : FileTree μ → β → Except ε (FileTree μ)} {l : List β}

/-- A path that can be created: a name below a proper path. -/
def Creatable (path : String) : Prop :=
  ∃ parent name, path = join parent name ∧ (parent = "" ∨ Proper parent) ∧
    (FileName.utf8 name).Valid

/-- Each entry's directory was there, or is created before it. -/
def Rooted (path : β → String) (entry : β → NewEntry μ) (tree : FileTree μ) (l : List β) : Prop :=
  ∀ before x after, l = before ++ x :: after →
    HasDirectory (names (RelativePath.parent (path x))) tree.entries ∨
      ∃ y ∈ before, path y = RelativePath.parent (path x) ∧
        ∃ metadata, entry y = .directory metadata

theorem foldlM_create
    (hstep : ∀ x ∈ l, ∀ tree tree' : FileTree μ, tree.create (names (RelativePath.parent (path x)))
        (RelativePath.name (path x)) (entry x) = .ok tree' →
      step tree x = .ok tree') (hpath : ∀ x ∈ l, Creatable (path x))
    (hrooted : Rooted path entry tree l) (hnodup : (l.map path ++ tree.items.map fst).Nodup) :
    ∃ tree', l.foldlM step tree = .ok tree' ∧
      tree'.metadata = tree.metadata ∧
      tree'.items.Perm (l.map (fun x => (path x, (entry x).item)) ++ tree.items) ∧
      (∀ directories, HasDirectory directories tree.entries →
        HasDirectory directories tree'.entries) ∧
      ∀ x ∈ l, ∀ metadata, entry x = .directory metadata →
        HasDirectory (names (path x)) tree'.entries := by
  induction l generalizing tree with
  | nil => exact ⟨tree, rfl, rfl, .refl _, fun _ h => h, by simp⟩
  | cons x rest ih =>
    obtain ⟨parent, name, hjoin, hparent, hvalid⟩ := hpath x (by simp)
    have hparentOf : RelativePath.parent (path x) = parent := by
      rw [hjoin, RelativePath.parent_join parent hvalid.2.1]
    have hnameOf : RelativePath.name (path x) = name := by
      rw [hjoin, RelativePath.name_join parent hvalid.2.1]
    have hdirectory : HasDirectory (names parent) tree.entries := by
      rcases hrooted [] x rest rfl with h | ⟨y, hy, -⟩
      · rwa [hparentOf] at h
      · simp at hy
    simp only [map_cons, cons_append, nodup_cons] at hnodup
    obtain ⟨hnew, hnodup⟩ := hnodup
    have hfresh : join parent name ∉ tree.items.map fst := by
      rw [← hjoin]
      exact fun hmem => hnew (mem_append_right _ hmem)
    have hcomplete : ∃ middle, tree.create (names parent) name (entry x) = .ok middle ∧
          Created (join parent name) (entry x) tree middle :=
      create_complete hparent hvalid hdirectory hfresh
    obtain ⟨middle, hcreate, hcreated⟩ := hcomplete
    have hfirst : step tree x = .ok middle := by
      apply hstep x (by simp)
      rw [hparentOf, hnameOf]
      exact hcreate
    rw [← hjoin] at hcreated
    have hmiddle : Rooted path entry middle rest := by
      intro before y after hsplit
      rcases hrooted (x :: before) y after (by rw [hsplit]; rfl) with
        h | ⟨z, hz, hpathz, hentry⟩
      · exact .inl (hcreated.keeps _ h)
      · rcases mem_cons.mp hz with rfl | hz
        · obtain ⟨metadata, hentry⟩ := hentry
          rw [← hpathz]
          exact .inl (hcreated.directory metadata hentry)
        · exact .inr ⟨z, hz, hpathz, hentry⟩
    have hpaths : (rest.map path ++ middle.items.map fst).Nodup := by
      have hperm : (rest.map path ++ middle.items.map fst).Perm
          (path x :: (rest.map path ++ tree.items.map fst)) := by
        refine (List.Perm.append_left _ (hcreated.items.map _)).trans ?_
        exact perm_middle
      rw [hperm.nodup_iff, nodup_cons]
      exact ⟨hnew, hnodup⟩
    obtain ⟨tree', hfold, hmetadata, hitems, hkeeps, hdirectories⟩ :=
      ih (fun y hy => hstep y (mem_cons_of_mem _ hy))
        (fun y hy => hpath y (mem_cons_of_mem _ hy)) hmiddle hpaths
    refine ⟨tree', ?_, hmetadata.trans hcreated.metadata, ?_, ?_, ?_⟩
    · rw [foldlM_cons_eq_ok]
      exact ⟨middle, hfirst, hfold⟩
    · refine hitems.trans ?_
      refine (List.Perm.append_left _ hcreated.items).trans ?_
      exact perm_middle
    · exact fun directories h =>
        hkeeps directories (hcreated.keeps directories h)
    · intro y hy metadata hentry
      rcases mem_cons.mp hy with rfl | hy
      · exact hkeeps _ (hcreated.directory metadata hentry)
      · exact hdirectories y hy metadata hentry

end CreateAll

end FileTree

end CarlAgent.Foundation
