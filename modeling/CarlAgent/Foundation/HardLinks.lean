import Mathlib.Data.List.Nodup
import Mathlib.Data.List.Perm.Subperm

/-!
# A directory of hard links

The entries of a directory are names of numbered files, and a file has as many
links as names.  Names are unique, and a new file gets a number that no entry
has; both are part of a directory.  The operations are those of a file system:
each is one step, or is refused.
-/

namespace CarlAgent.Foundation

open List

structure LinkedFile where
  bytes : List UInt8
  mode : Nat
  deriving DecidableEq, Repr

structure Directory (ν : Type) where
  entries : List (ν × Nat)
  files : Nat → LinkedFile
  next : Nat
  nodup : (entries.map Prod.fst).Nodup
  fresh : ∀ entry ∈ entries, entry.2 < next

theorem length_le_one_of_nodup {α : Type} {items : List α} (hnodup : items.Nodup)
    (h : ∀ a ∈ items, ∀ b ∈ items, a = b) : items.length ≤ 1 := by
  match items with
  | [] => simp
  | [item] => simp
  | first :: second :: rest =>
    have heq := h first (by simp) second (by simp)
    simp [heq] at hnodup

namespace Directory

variable {ν : Type}

def empty : Directory ν :=
  { entries := []
    files := fun _ => ⟨[], 0⟩
    next := 0
    nodup := by simp
    fresh := by simp }

variable (directory : Directory ν)

theorem entries_nodup : directory.entries.Nodup :=
  directory.nodup.of_map

def links (number : Nat) : Nat :=
  (directory.entries.filter fun entry => entry.2 = number).length

theorem links_eq_length {directory : Directory ν} {number : Nat} {names : List ν}
    (hnodup : names.Nodup) (h : ∀ name, (name, number) ∈ directory.entries ↔ name ∈ names) :
    directory.links number = names.length := by
  have hperm : (directory.entries.filter fun entry => entry.2 = number).Perm
      (names.map (·, number)) := by
    rw [perm_ext_iff_of_nodup (directory.entries_nodup.filter _)
      (hnodup.map fun _ _ heq => (Prod.mk.inj heq).1)]
    rintro ⟨name, other⟩
    simp only [mem_filter, decide_eq_true_eq, mem_map, Prod.mk.injEq]
    constructor
    · rintro ⟨hmem, rfl⟩
      exact ⟨name, (h name).mp hmem, rfl, rfl⟩
    · rintro ⟨name, hmem, rfl, rfl⟩
      exact ⟨(h name).mpr hmem, rfl⟩
  rw [links, hperm.length_eq, length_map]

variable [DecidableEq ν]

def lookup (name : ν) : Option Nat :=
  (directory.entries.find? fun entry => entry.1 = name).map Prod.snd

def create (name : ν) (mode : Nat) : Option (Directory ν) :=
  if h : name ∈ directory.entries.map Prod.fst then none
  else
    some
      { entries := directory.entries ++ [(name, directory.next)]
        files := Function.update directory.files directory.next ⟨[], mode⟩
        next := directory.next + 1
        nodup := by
          rw [map_append, map_singleton]
          exact directory.nodup.append (by simp) (by simpa using h)
        fresh := by
          rw [forall_mem_append, forall_mem_singleton]
          exact ⟨fun entry hentry => Nat.lt_succ_of_lt (directory.fresh entry hentry),
            Nat.lt_succ_self _⟩ }

def modify (number : Nat) (f : LinkedFile → LinkedFile) : Directory ν :=
  { directory with
    files := Function.update directory.files number (f (directory.files number)) }

def link (name : ν) (number : Nat) : Option (Directory ν) :=
  if h : name ∉ directory.entries.map Prod.fst ∧ number < directory.next then
    some
      { directory with
        entries := directory.entries ++ [(name, number)]
        nodup := by
          rw [map_append, map_singleton]
          exact directory.nodup.append (by simp) (by simpa using h.1)
        fresh := by
          rw [forall_mem_append, forall_mem_singleton]
          exact ⟨directory.fresh, h.2⟩ }
  else none

def unlink (name : ν) : Directory ν :=
  { directory with
    entries := directory.entries.filter fun entry => entry.1 ≠ name
    nodup := directory.nodup.sublist (filter_sublist.map Prod.fst)
    fresh := fun entry hentry =>
      directory.fresh entry (mem_of_mem_filter hentry) }

/-- A file system lists the entries of a directory in any order it likes. -/
def relist (entries : List (ν × Nat)) : Directory ν :=
  if h : entries.Perm directory.entries then
    { directory with
      entries
      nodup := (h.map Prod.fst).nodup_iff.mpr directory.nodup
      fresh := fun entry hentry => directory.fresh entry (h.mem_iff.mp hentry) }
  else directory

section Facts

variable {directory later : Directory ν} {name other : ν} {number mode : Nat}

theorem lookup_eq_some :
    directory.lookup name = some number ↔ (name, number) ∈ directory.entries := by
  obtain ⟨entries, files, next, nodup, fresh⟩ := directory
  simp only [lookup]
  clear fresh
  induction entries with
  | nil => simp
  | cons entry entries ih =>
    simp only [map_cons, nodup_cons] at nodup
    simp only [find?_cons]
    by_cases h : entry.1 = name
    · subst h
      have habsent : (entry.1, number) ∉ entries := by
        intro hmem
        exact nodup.1 (mem_map.mpr ⟨_, hmem, rfl⟩)
      simp [habsent, Prod.ext_iff, eq_comm]
    · simp [h, ih nodup.2, Prod.ext_iff, Ne.symm h]

theorem lookup_eq_none :
    directory.lookup name = none ↔ ∀ number, (name, number) ∉ directory.entries := by
  rw [Option.eq_none_iff_forall_ne_some]
  simp only [ne_eq, lookup_eq_some]

theorem number_unique {first second : Nat} (h₁ : (name, first) ∈ directory.entries)
    (h₂ : (name, second) ∈ directory.entries) : first = second := by
  rw [← lookup_eq_some] at h₁ h₂
  simpa [h₁] using h₂

theorem not_mem_names_iff :
    name ∉ directory.entries.map Prod.fst ↔ directory.lookup name = none := by
  rw [lookup_eq_none]
  simp

theorem create_of_lookup (h : directory.lookup name = none) (mode : Nat) :
    ∃ created, directory.create name mode = some created ∧
      created.entries = directory.entries ++ [(name, directory.next)] ∧
      created.files = Function.update directory.files directory.next ⟨[], mode⟩ := by
  rw [← not_mem_names_iff] at h
  simp only [create, dif_neg h]
  exact ⟨_, rfl, rfl, rfl⟩

theorem link_of_lookup (h : directory.lookup name = none)
    (hnumber : (other, number) ∈ directory.entries) :
    ∃ linked, directory.link name number = some linked ∧
      linked.entries = directory.entries ++ [(name, number)] ∧
      linked.files = directory.files := by
  rw [← not_mem_names_iff] at h
  simp only [link, dif_pos (And.intro h (directory.fresh _ hnumber))]
  exact ⟨_, rfl, rfl, rfl⟩

theorem mem_unlink {entry : ν × Nat} :
    entry ∈ (directory.unlink name).entries ↔ entry ∈ directory.entries ∧ entry.1 ≠ name := by
  simp [unlink]

theorem relist_perm (directory : Directory ν) (entries : List (ν × Nat)) :
    (directory.relist entries).entries.Perm directory.entries := by
  unfold relist
  split
  next h => exact h
  next => exact Perm.refl _

@[simp] theorem relist_files (directory : Directory ν) (entries : List (ν × Nat)) :
    (directory.relist entries).files = directory.files := by
  unfold relist
  split <;> rfl

end Facts

end Directory

end CarlAgent.Foundation
