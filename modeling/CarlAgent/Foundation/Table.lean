import Mathlib.Algebra.GroupWithZero.Nat
import Mathlib.Data.List.Nodup

/-!
# Keyed tables

The rows of a relational table in insertion order.  The primary key is a
function of the row, and the structure carries its uniqueness: an insertion
that would repeat a key yields no table, and an update is a function that
leaves the key alone.
-/

namespace CarlAgent.Foundation

open List

structure Table {ρ κ : Type} (key : ρ → κ) where
  rows : List ρ
  nodup : (rows.map key).Nodup

namespace Table

variable {ρ κ : Type} {key : ρ → κ}

def empty : Table key := ⟨[], by simp⟩

variable [DecidableEq κ] (t : Table key)

def find? (k : κ) : Option ρ :=
  t.rows.find? fun row => key row = k

def insert (row : ρ) : Option (Table key) :=
  if h : key row ∈ t.rows.map key then none
  else some ⟨t.rows ++ [row], by
    rw [List.map_append, List.map_singleton]
    exact List.Nodup.append t.nodup (by simp) (by simpa using h)⟩

def mapRows (f : ρ → ρ) (hf : ∀ row, key (f row) = key row) : Table key :=
  ⟨t.rows.map f, by
    rw [List.map_map, show key ∘ f = key from funext hf]
    exact t.nodup⟩

/--
Update the row with key `k` when it is there and meets `guard`; absent when no
row was changed.
-/
def update (k : κ) (guard : ρ → Bool) (f : ρ → ρ)
    (hf : ∀ row, key (f row) = key row) : Option (Table key) :=
  if (t.find? k).any guard then
    some (t.mapRows (fun row => if key row = k then f row else row) (by
      intro row
      split <;> simp [hf]))
  else none

def deleteWhere (p : ρ → Bool) : Table key :=
  ⟨t.rows.filter fun row => !p row, t.nodup.sublist (List.filter_sublist.map key)⟩

variable {t t' : Table key} {k : κ} {guard : ρ → Bool} {f : ρ → ρ}
  {hf : ∀ row, key (f row) = key row} {row : ρ}

theorem find?_eq_none : t.find? k = none ↔ ∀ row ∈ t.rows, key row ≠ k := by
  simp [find?]

theorem mem_of_find? (h : t.find? k = some row) : row ∈ t.rows :=
  mem_of_find?_eq_some h

theorem key_of_find? (h : t.find? k = some row) : key row = k := by
  simpa using find?_some h

theorem find?_of_mem (h : row ∈ t.rows) : t.find? (key row) = some row := by
  obtain ⟨rows, nodup⟩ := t
  simp only [find?] at h ⊢
  induction rows with
  | nil => simp at h
  | cons first rest ih =>
    simp only [map_cons, nodup_cons] at nodup
    rcases mem_cons.mp h with rfl | hrest
    · simp
    · have hne : key first ≠ key row := by
        intro heq
        exact nodup.1 (heq ▸ mem_map_of_mem hrest)
      rw [find?_cons_of_neg (by simpa using hne)]
      exact ih nodup.2 hrest

theorem find?_eq_some_iff : t.find? k = some row ↔ row ∈ t.rows ∧ key row = k := by
  constructor
  · intro h
    exact ⟨mem_of_find? h, key_of_find? h⟩
  · rintro ⟨hmem, rfl⟩
    exact find?_of_mem hmem

theorem insert_eq_some :
    t.insert row = some t' ↔ t.find? (key row) = none ∧ t'.rows = t.rows ++ [row] := by
  have hiff : key row ∈ t.rows.map key ↔ t.find? (key row) ≠ none := by
    simp [find?_eq_none]
  simp only [insert]
  split
  · rename_i h
    simp [hiff.mp h]
  · rename_i h
    have hnone : t.find? (key row) = none := by
      by_contra hsome
      exact h (hiff.mpr hsome)
    simp only [Option.some.injEq, hnone, true_and]
    constructor
    · rintro rfl
      rfl
    · intro hrows
      cases t'
      simp only at hrows
      subst hrows
      rfl

theorem forall_insert {P : ρ → Prop} (h : t.insert row = some t') :
    (∀ r ∈ t'.rows, P r) ↔ (∀ r ∈ t.rows, P r) ∧ P row := by
  rw [(insert_eq_some.mp h).2, forall_mem_append, forall_mem_singleton]

theorem exists_insert (h : t.find? (key row) = none) : ∃ t', t.insert row = some t' := by
  rw [← Option.isSome_iff_exists]
  simpa [insert, find?_eq_none] using h

theorem find?_insert (h : t.insert row = some t') (k : κ) :
    t'.find? k = if k = key row then some row else t.find? k := by
  obtain ⟨hnone, hrows⟩ := insert_eq_some.mp h
  have happend : t'.find? k = (t.find? k).or (if key row = k then some row else none) := by
    simp [find?, hrows, find?_append, find?_singleton]
  rw [happend]
  by_cases hk : k = key row
  · subst hk
    simp [hnone]
  · simp [hk, Ne.symm hk]

theorem find?_insert_of_some {other : ρ} (h : t.insert row = some t')
    (hk : t.find? k = some other) : t'.find? k = some other := by
  have hne : k ≠ key row := by
    rintro rfl
    rw [(insert_eq_some.mp h).1] at hk
    cases hk
  rw [find?_insert h, if_neg hne, hk]

theorem update_eq_some : t.update k guard f hf = some t' ↔
      (∃ row, t.find? k = some row ∧ guard row = true) ∧
        t'.rows = t.rows.map (fun row => if key row = k then f row else row) := by
  simp only [update]
  split
  · rename_i h
    have hrow : ∃ row, t.find? k = some row ∧ guard row = true := by
      simpa [Option.any_eq_true] using h
    simp only [Option.some.injEq, hrow, true_and]
    constructor
    · rintro rfl
      rfl
    · intro hrows
      cases t'
      simp only at hrows
      subst hrows
      rfl
  · rename_i h
    have hrow : ¬ ∃ row, t.find? k = some row ∧ guard row = true := by
      simpa [Option.any_eq_true] using h
    simp [hrow]

theorem exists_update (hrow : t.find? k = some row) (hguard : guard row = true) :
    ∃ t', t.update k guard f hf = some t' := by
  simp [update, hrow, hguard]

theorem find?_update (h : t.update k guard f hf = some t') (x : κ) :
    t'.find? x = if x = k then (t.find? k).map f else t.find? x := by
  have hrows := (update_eq_some.mp h).2
  have hmap : t'.find? x = (t.find? x).map (fun row => if key row = k then f row else row) := by
    simp only [find?, hrows, find?_map]
    congr 2
    funext row
    simp only [Function.comp_apply]
    split <;> simp [hf]
  rw [hmap]
  cases hx : t.find? x with
  | none =>
    split
    · rename_i hk
      subst hk
      simp [hx]
    · simp
  | some row =>
    have hkey : key row = x := key_of_find? hx
    split
    · rename_i hk
      subst hk
      simp [hx, hkey]
    · rename_i hk
      simp [hkey, hk]

theorem find?_update_of_not_guard (h : t.update k guard f hf = some t') {x : κ}
    (hrow : t.find? x = some row) (hguard : guard row = false) : t'.find? x = some row := by
  have hne : x ≠ k := by
    rintro rfl
    obtain ⟨⟨found, hfound, htrue⟩, -⟩ := update_eq_some.mp h
    rw [hrow] at hfound
    cases hfound
    exact Bool.noConfusion (hguard.symm.trans htrue)
  rw [find?_update h, if_neg hne, hrow]

theorem forall_update {P : ρ → Prop} (h : t.update k guard f hf = some t')
    (hrows : ∀ r ∈ t.rows, P r) (hmoved : ∀ r, P r → P (f r)) : ∀ r ∈ t'.rows, P r := by
  rw [(update_eq_some.mp h).2, forall_mem_map]
  intro r hr
  split
  · exact hmoved r (hrows r hr)
  · exact hrows r hr

theorem sum_update {w : ρ → Nat} (h : t.update k guard f hf = some t')
    (hrow : t.find? k = some row) :
    (t'.rows.map w).sum + w row = (t.rows.map w).sum + w (f row) := by
  rw [(update_eq_some.mp h).2]
  obtain ⟨rows, nodup⟩ := t
  simp only [find?] at hrow ⊢
  clear h
  induction rows with
  | nil => cases hrow
  | cons first rest ih =>
    simp only [map_cons, nodup_cons] at nodup
    by_cases hfirst : key first = k
    · rw [find?_cons_of_pos (by simpa using hfirst)] at hrow
      cases hrow
      have hrest : ∀ other ∈ rest, (if key other = k then f other else other) = other := by
        intro other hother
        apply if_neg
        rintro rfl
        exact nodup.1 (hfirst ▸ mem_map_of_mem hother)
      rw [map_cons, if_pos hfirst, map_congr_left hrest, map_id']
      simp only [map_cons, sum_cons]
      omega
    · rw [find?_cons_of_neg (by simpa using hfirst)] at hrow
      have hsum := ih nodup.2 hrow
      simp only [map_cons, hfirst, if_false, sum_cons]
      omega

private theorem countP_eq_sum (p : ρ → Bool) (l : List ρ) :
    l.countP p = (l.map fun row => if p row then 1 else 0).sum := by
  induction l with
  | nil => rfl
  | cons row l ih => rw [countP_cons, ih, map_cons, sum_cons, Nat.add_comm]

theorem countP_update {p : ρ → Bool} (h : t.update k guard f hf = some t')
    (hrow : t.find? k = some row) (hbefore : p row = true)
    (hafter : p (f row) = false) : t'.rows.countP p + 1 = t.rows.countP p := by
  have hsum := sum_update (w := fun row => if p row then 1 else 0) h hrow
  simpa [countP_eq_sum, hbefore, hafter] using hsum

end Table

end CarlAgent.Foundation
