import CarlAgent.Foundation.RelativePath
import Mathlib.Data.List.Nodup
import Mathlib.Data.List.Perm.Basic

/-!
# File trees

A directory holds named entries: files, directories, symbolic links and
special files.  The items of a tree are its entries at every depth with their
paths.  In a well-formed tree the names of one directory are distinct, and so
are the paths of all items; adding one entry to the tree adds one item.
-/

namespace CarlAgent.Foundation

open List

open RelativePath (join Plain Within)

/-- A name in a directory: its text, or its bytes when they are no UTF-8. -/
inductive FileName where
  | utf8 (text : String)
  | other (bytes : List UInt8)
  deriving DecidableEq, Repr

namespace FileName

def toStr : FileName → Option String
  | utf8 text => some text
  | other _ => none

def bytes : FileName → List UInt8
  | utf8 text => Text.utf8 text.toList
  | other bytes => bytes

def order (name : FileName) : List Nat :=
  name.bytes.map UInt8.toNat

def Valid : FileName → Prop
  | utf8 text => text ≠ "" ∧ Plain text ∧ '\x00' ∉ text.toList
  | other _ => True

end FileName

inductive Node (μ : Type) where
  | file (metadata : μ) (content : List UInt8)
  | directory (metadata : μ) (entries : List (FileName × Node μ))
  | symlink
  | special

abbrev Entry (μ : Type) := FileName × Node μ

inductive Item (μ : Type) where
  | file (metadata : μ) (content : List UInt8)
  | directory (metadata : μ)
  | symlink
  | special
  /-- An entry whose name has no text. -/
  | unnamed
  deriving DecidableEq, Repr

variable {μ : Type}

mutual

def Node.items (path : String) : Node μ → List (String × Item μ)
  | .file metadata content => [(path, .file metadata content)]
  | .directory metadata entries =>
    (path, .directory metadata) :: itemsBelow path entries
  | .symlink => [(path, .symlink)]
  | .special => [(path, .special)]

def itemsBelow (parent : String) : List (FileName × Node μ) → List (String × Item μ)
  | [] => []
  | (.utf8 text, node) :: rest =>
    node.items (join parent text) ++ itemsBelow parent rest
  | (.other _, _) :: rest => (parent, .unnamed) :: itemsBelow parent rest

end

variable (parent : String)

def entryItems : Entry μ → List (String × Item μ)
  | (.utf8 text, node) => node.items (join parent text)
  | (.other _, _) => [(parent, .unnamed)]

theorem itemsBelow_cons (entry : Entry μ) (rest : List (Entry μ)) :
    itemsBelow parent (entry :: rest) = entryItems parent entry ++ itemsBelow parent rest := by
  obtain ⟨name, node⟩ := entry
  cases name <;> simp [itemsBelow, entryItems]

theorem itemsBelow_eq_flatMap (entries : List (Entry μ)) :
    itemsBelow parent entries = entries.flatMap (entryItems parent) := by
  induction entries with
  | nil => simp [itemsBelow]
  | cons entry rest ih => rw [itemsBelow_cons, flatMap_cons, ih]

@[simp] theorem itemsBelow_nil :
    itemsBelow parent ([] : List (Entry μ)) = [] := by
  simp [itemsBelow]

theorem itemsBelow_append (first second : List (Entry μ)) :
    itemsBelow parent (first ++ second) = itemsBelow parent first ++ itemsBelow parent second := by
  simp [itemsBelow_eq_flatMap]

theorem itemsBelow_perm {first second : List (Entry μ)} (h : first.Perm second) :
    (itemsBelow parent first).Perm (itemsBelow parent second) := by
  simp only [itemsBelow_eq_flatMap]
  exact h.flatMap_right _

variable {entries : List (Entry μ)}

variable {item : String × Item μ} {parent : String}

theorem mem_itemsBelow :
    item ∈ itemsBelow parent entries ↔ ∃ entry ∈ entries, item ∈ entryItems parent entry := by
  simp [itemsBelow_eq_flatMap, mem_flatMap]

theorem length_le_itemsBelow (parent : String) (entries : List (Entry μ)) :
    entries.length ≤ (itemsBelow parent entries).length := by
  induction entries with
  | nil => simp
  | cons entry rest ih =>
    obtain ⟨name, node⟩ := entry
    have hentry : 1 ≤ (entryItems parent (name, node)).length := by
      cases name with
      | other bytes => simp [entryItems]
      | utf8 text => cases node <;> simp [entryItems, Node.items]
    rw [itemsBelow_cons, length_append, length_cons]
    omega

inductive WellFormed : List (Entry μ) → Prop
  | intro {entries : List (Entry μ)} (names : ∀ entry ∈ entries, entry.1.Valid)
    (distinct : (entries.map Prod.fst).Nodup)
    (children : ∀ name metadata inner,
      (name, Node.directory metadata inner) ∈ entries → WellFormed inner) :
    WellFormed entries

namespace WellFormed

variable {entries : List (Entry μ)}

theorem names (h : WellFormed entries) : ∀ entry ∈ entries, entry.1.Valid := by
  cases h
  assumption

theorem distinct (h : WellFormed entries) : (entries.map Prod.fst).Nodup := by
  cases h
  assumption

theorem child {inner : List (Entry μ)} {name : FileName} {metadata : μ} (h : WellFormed entries)
    (hmem : (name, Node.directory metadata inner) ∈ entries) : WellFormed inner := by
  cases h with
  | intro _ _ children => exact children name metadata inner hmem

theorem nil : WellFormed ([] : List (Entry μ)) :=
  .intro (by simp) (by simp) (by simp)

theorem concat {name : FileName} {node : Node μ} (h : WellFormed entries) (hvalid : name.Valid)
    (hnew : name ∉ entries.map Prod.fst)
    (hnode : ∀ metadata inner, node = .directory metadata inner → WellFormed inner) :
    WellFormed (entries ++ [(name, node)]) := by
  refine .intro ?_ ?_ ?_
  · exact forall_mem_append.mpr ⟨h.names, forall_mem_singleton.mpr hvalid⟩
  · rw [map_append, nodup_append]
    refine ⟨h.distinct, by simp, ?_⟩
    rintro a ha b hb rfl
    simp only [map_cons, map_nil, mem_singleton] at hb
    exact hnew (hb ▸ ha)
  · intro other metadata inner hmem
    rw [mem_append, mem_singleton] at hmem
    rcases hmem with hold | heq
    · exact h.child hold
    · simp only [Prod.mk.injEq] at heq
      exact hnode metadata inner heq.2.symm

end WellFormed

structure FileTree (μ : Type) where
  metadata : μ
  entries : List (Entry μ)
  wellFormed : WellFormed entries

def FileTree.items (tree : FileTree μ) : List (String × Item μ) :=
  itemsBelow "" tree.entries

/-! ## Paths of items -/

theorem WellFormed.within (h : WellFormed entries) :
    ∀ (parent text : String) (node : Node μ), text ≠ "" →
      (FileName.utf8 text, node) ∈ entries →
      ∀ item ∈ node.items (join parent text), Within parent text item.1 := by
  induction h with
  | intro names distinct children ih =>
    intro parent text node htext hmem item hitem
    cases node with
    | file metadata content | symlink | special =>
      simp only [Node.items, mem_singleton] at hitem
      subst hitem
      exact Within.refl parent text
    | directory metadata inner =>
      simp only [Node.items, mem_cons] at hitem
      rcases hitem with rfl | hitem
      · exact Within.refl parent text
      · obtain ⟨⟨name, node⟩, hentry, hitem⟩ := mem_itemsBelow.mp hitem
        have hinner := children _ _ _ hmem
        cases name with
        | other bytes =>
          simp only [entryItems, mem_singleton] at hitem
          subst hitem
          exact Within.refl parent text
        | utf8 deeper =>
          have hdeeper := (hinner.names _ hentry).1
          have hwithin := ih _ _ _ hmem (join parent text) deeper node hdeeper hentry item hitem
          exact hwithin.child_of_child (RelativePath.join_ne_empty parent htext)

def AllNamed (items : List (String × Item μ)) : Prop :=
  ∀ item ∈ items, item.2 ≠ .unnamed

theorem WellFormed.within_of_mem (h : WellFormed entries)
    (hitem : item ∈ itemsBelow parent entries) (hnamed : item.2 ≠ .unnamed) :
    ∃ text node, (FileName.utf8 text, node) ∈ entries ∧
      item ∈ node.items (join parent text) ∧ Within parent text item.1 := by
  obtain ⟨⟨name, node⟩, hentry, hitem⟩ := mem_itemsBelow.mp hitem
  cases name with
  | other bytes =>
    simp only [entryItems, mem_singleton] at hitem
    exact absurd (by rw [hitem]) hnamed
  | utf8 text =>
    exact ⟨text, node, hentry, hitem, h.within parent text node
      (h.names _ hentry).1 hentry item hitem⟩

theorem WellFormed.paths_nodup (h : WellFormed entries) :
    ∀ parent, AllNamed (itemsBelow parent entries) →
      ((itemsBelow parent entries).map Prod.fst).Nodup := by
  induction h with
  | @intro entries names distinct children ih =>
    intro parent hnamed
    have hwf : WellFormed entries := .intro names distinct children
    rw [itemsBelow_eq_flatMap, map_flatMap, nodup_flatMap]
    constructor
    · rintro ⟨name, node⟩ hentry
      cases name with
      | other bytes => simp [entryItems]
      | utf8 text =>
        have htext := (names _ hentry).1
        cases node with
        | file metadata content | symlink | special => simp [entryItems, Node.items]
        | directory metadata inner =>
          have hinner := children _ _ _ hentry
          have hchild : AllNamed (itemsBelow (join parent text) inner) := by
            intro item hitem
            refine hnamed item (mem_itemsBelow.mpr ⟨_, hentry, ?_⟩)
            simp only [entryItems, Node.items]
            exact mem_cons_of_mem _ hitem
          simp only [entryItems, Node.items, map_cons, nodup_cons, mem_map, not_exists, not_and]
          refine ⟨?_, ih _ _ _ hentry _ hchild⟩
          intro item hitem heq
          obtain ⟨deeper, _, _, _, hwithin⟩ := hinner.within_of_mem hitem (hchild item hitem)
          exact hwithin.ne_parent (RelativePath.join_ne_empty parent htext) heq
    · have hpairwise := pairwise_map.mp distinct
      apply List.Pairwise.imp_of_mem ?_ hpairwise
      rintro ⟨first, left⟩ ⟨second, right⟩ hfirst hsecond hne
      change List.Disjoint _ _
      intro path hpath hother
      cases first with
      | other bytes =>
        refine hnamed (parent, .unnamed) (mem_itemsBelow.mpr ⟨_, hfirst, by simp [entryItems]⟩) rfl
      | utf8 text =>
        cases second with
        | other bytes =>
          refine hnamed (parent, .unnamed) (mem_itemsBelow.mpr
            ⟨_, hsecond, by simp [entryItems]⟩) rfl
        | utf8 other =>
          obtain ⟨item, hitem, rfl⟩ := mem_map.mp hpath
          obtain ⟨item', hitem', heq⟩ := mem_map.mp hother
          have hvalid := names _ hfirst
          have hvalid' := names _ hsecond
          have hwithin := hwf.within parent text left hvalid.1 hfirst item hitem
          have hwithin' := hwf.within parent other right hvalid'.1 hsecond item' hitem'
          rw [heq] at hwithin'
          have hsame := hwithin.unique hvalid.2.1 hvalid'.2.1 hwithin'
          exact hne (by rw [hsame])

/-- An item has a last name and lies in the top directory or in a directory of
the tree. -/
theorem WellFormed.parent_mem (h : WellFormed entries) :
    ∀ parent, ∀ item ∈ itemsBelow parent entries, item.2 ≠ .unnamed →
      ∃ directory name, item.1 = join directory name ∧
        (FileName.utf8 name).Valid ∧ (directory = parent ∨
          ∃ metadata, (directory, .directory metadata) ∈ itemsBelow parent entries) := by
  induction h with
  | @intro entries names distinct children ih =>
    intro parent item hitem hnamed
    have hwf : WellFormed entries := .intro names distinct children
    obtain ⟨text, node, hentry, hitem, -⟩ := hwf.within_of_mem hitem hnamed
    have hvalid := names _ hentry
    cases node with
    | file metadata content | symlink | special =>
      simp only [Node.items, mem_singleton] at hitem
      subst hitem
      exact ⟨parent, text, rfl, hvalid, .inl rfl⟩
    | directory metadata inner =>
      simp only [Node.items, mem_cons] at hitem
      rcases hitem with rfl | hitem
      · exact ⟨parent, text, rfl, hvalid, .inl rfl⟩
      · obtain ⟨directory, name, hpath, hname, hparent⟩ :=
          ih _ _ _ hentry (join parent text) item hitem hnamed
        refine ⟨directory, name, hpath, hname, .inr ?_⟩
        rcases hparent with rfl | ⟨inside, hinside⟩
        · refine ⟨metadata, mem_itemsBelow.mpr ⟨_, hentry, ?_⟩⟩
          simp [entryItems, Node.items]
        · refine ⟨inside, mem_itemsBelow.mpr ⟨_, hentry, ?_⟩⟩
          simp only [entryItems, Node.items]
          exact mem_cons_of_mem _ hinside

end CarlAgent.Foundation
