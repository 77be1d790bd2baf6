import Mathlib.Algebra.GroupWithZero.Nat
import Mathlib.Data.List.Induction
import Mathlib.Data.List.Sort

/-!
# Ordered maps

A finite map kept as its list of entries in strictly increasing key order.
The order is a field of the structure, so two maps with the same lookups are
the same map and iteration always runs in key order.  An ordered set is a map
to `Unit`.
-/

namespace CarlAgent.Foundation

open List

structure OrderedMap (κ ν : Type) [LinearOrder κ] where
  entries : List (κ × ν)
  sorted : (entries.map Prod.fst).Pairwise (· < ·)

abbrev OrderedSet (κ : Type) [LinearOrder κ] := OrderedMap κ Unit

namespace OrderedMap

variable {κ ν : Type} [LinearOrder κ]

instance [DecidableEq ν] : DecidableEq (OrderedMap κ ν) := fun a b =>
  decidable_of_iff (a.entries = b.entries) (by
    cases a
    cases b
    simp)

def empty : OrderedMap κ ν := ⟨[], by simp⟩

def lookup (k : κ) : List (κ × ν) → Option ν
  | [] => none
  | (k', v) :: rest => if k = k' then some v else lookup k rest

def find? (m : OrderedMap κ ν) (k : κ) : Option ν := lookup k m.entries

def insertEntry (k : κ) (v : ν) : List (κ × ν) → List (κ × ν)
  | [] => [(k, v)]
  | (k', v') :: rest =>
    if k < k' then (k, v) :: (k', v') :: rest
    else if k = k' then (k, v) :: rest
    else (k', v') :: insertEntry k v rest

theorem mem_keys_insertEntry (k : κ) (v : ν) (l : List (κ × ν)) (x : κ) :
    x ∈ (insertEntry k v l).map Prod.fst ↔ x = k ∨ x ∈ l.map Prod.fst := by
  induction l with
  | nil => simp [insertEntry]
  | cons entry rest ih =>
    obtain ⟨k', v'⟩ := entry
    simp only [insertEntry]
    split
    · simp
    · split
      · rename_i heq
        subst heq
        simp
      · simp only [map_cons, mem_cons, ih]
        tauto

variable {l : List (κ × ν)} {k : κ} {β : Type} {m : OrderedMap κ ν}

theorem sorted_insertEntry (k : κ) (v : ν) (h : (l.map Prod.fst).Pairwise (· < ·)) :
    ((insertEntry k v l).map Prod.fst).Pairwise (· < ·) := by
  induction l with
  | nil => simp [insertEntry]
  | cons entry rest ih =>
    obtain ⟨k', v'⟩ := entry
    simp only [map_cons, pairwise_cons] at h
    obtain ⟨hhead, hrest⟩ := h
    simp only [insertEntry]
    split
    · rename_i hlt
      simp only [map_cons, pairwise_cons]
      refine ⟨?_, hhead, hrest⟩
      intro x hx
      rcases mem_cons.mp hx with rfl | hx
      · exact hlt
      · exact hlt.trans (hhead x hx)
    · rename_i hle
      split
      · rename_i heq
        subst heq
        exact pairwise_cons.mpr ⟨hhead, hrest⟩
      · rename_i hne
        simp only [map_cons, pairwise_cons]
        refine ⟨?_, ih hrest⟩
        intro x hx
        rcases (mem_keys_insertEntry k v rest x).mp hx with rfl | hx
        · exact lt_of_le_of_ne (not_lt.mp hle) (Ne.symm hne)
        · exact hhead x hx

def insert (m : OrderedMap κ ν) (k : κ) (v : ν) : OrderedMap κ ν :=
  ⟨insertEntry k v m.entries, sorted_insertEntry k v m.sorted⟩

def ofList (l : List (κ × ν)) : OrderedMap κ ν :=
  l.foldl (fun m entry => m.insert entry.1 entry.2) empty

def keys (m : OrderedMap κ ν) : List κ := m.entries.map Prod.fst

def values (m : OrderedMap κ ν) : List ν := m.entries.map Prod.snd

def contains (m : OrderedMap κ ν) (k : κ) : Bool := (m.find? k).isSome

@[simp] theorem find?_empty (k : κ) : (empty : OrderedMap κ ν).find? k = none := rfl

theorem lookup_insertEntry (k : κ) (v : ν) (l : List (κ × ν)) (x : κ) :
    lookup x (insertEntry k v l) = if x = k then some v else lookup x l := by
  induction l with
  | nil => simp [insertEntry, lookup]
  | cons entry rest ih =>
    obtain ⟨k', v'⟩ := entry
    simp only [insertEntry]
    split
    · simp [lookup]
    · split
      · rename_i heq
        subst heq
        by_cases hx : x = k <;> simp [lookup, hx]
      · rename_i hne
        simp only [lookup, ih]
        by_cases hx : x = k'
        · subst hx
          simp [Ne.symm hne]
        · simp [hx]

theorem find?_insert (m : OrderedMap κ ν) (k : κ) (v : ν) (x : κ) :
    (m.insert k v).find? x = if x = k then some v else m.find? x :=
  lookup_insertEntry k v m.entries x

@[simp] theorem find?_insert_self (m : OrderedMap κ ν) (k : κ) (v : ν) :
    (m.insert k v).find? k = some v := by
  simp [find?_insert]

theorem find?_insert_of_ne (m : OrderedMap κ ν) {x : κ} (v : ν) (h : x ≠ k) :
    (m.insert k v).find? x = m.find? x := by
  simp [find?_insert, h]

theorem contains_insert (m : OrderedMap κ ν) (k : κ) (v : ν) (x : κ) :
    (m.insert k v).contains x = true ↔ x = k ∨ m.contains x = true := by
  simp only [contains, find?_insert]
  by_cases hx : x = k <;> simp [hx]

theorem map_find?_insert (f : ν → β) (m : OrderedMap κ ν) (k : κ) (v : ν) :
    (fun x => ((m.insert k v).find? x).map f) =
      Function.update (fun x => (m.find? x).map f) k (some (f v)) := by
  funext x
  rw [find?_insert]
  by_cases hx : x = k
  · subst hx
    simp
  · simp [hx]

variable {ν' : Type} {v : ν} {b : OrderedMap κ ν'} {a : OrderedMap κ ν} {old : ν} {g : ν' → β}
  {f : ν → β}

theorem lookup_eq_some_iff (h : (l.map Prod.fst).Pairwise (· < ·)) :
    lookup k l = some v ↔ (k, v) ∈ l := by
  induction l with
  | nil => simp [lookup]
  | cons entry rest ih =>
    obtain ⟨k', v'⟩ := entry
    simp only [map_cons, pairwise_cons] at h
    obtain ⟨hhead, hrest⟩ := h
    simp only [lookup, mem_cons, Prod.mk.injEq]
    split
    · rename_i heq
      subst heq
      have hnot : (k, v) ∉ rest := by
        intro hmem
        exact lt_irrefl k (hhead k (mem_map_of_mem hmem))
      simp [hnot, eq_comm]
    · rename_i hne
      simp [hne, ih hrest]

theorem find?_eq_some_iff : m.find? k = some v ↔ (k, v) ∈ m.entries :=
  lookup_eq_some_iff m.sorted

theorem mem_values_iff : v ∈ m.values ↔ ∃ k, m.find? k = some v := by
  simp [values, find?_eq_some_iff]

theorem any_values_eq_false {p : ν → Bool} :
    m.values.any p = false ↔ ∀ k v, m.find? k = some v → p v = false := by
  simp only [any_eq_false, mem_values_iff, Bool.not_eq_true, forall_exists_index]
  exact forall_comm

theorem keys_nodup (m : OrderedMap κ ν) : m.keys.Nodup :=
  m.sorted.imp fun h => ne_of_lt h

theorem map_values_eq_keys {f : ν → κ} (h : ∀ k v, m.find? k = some v → f v = k) :
    m.values.map f = m.keys := by
  rw [values, keys, map_map]
  apply map_congr_left
  intro entry hentry
  exact h entry.1 entry.2 (find?_eq_some_iff.mpr hentry)

theorem entries_nodup (m : OrderedMap κ ν) : m.entries.Nodup :=
  List.Nodup.of_map Prod.fst m.keys_nodup

theorem ext_find? {a b : OrderedMap κ ν} (h : ∀ k, a.find? k = b.find? k) : a = b := by
  have hmem : ∀ entry, entry ∈ a.entries ↔ entry ∈ b.entries := by
    rintro ⟨k, v⟩
    rw [← find?_eq_some_iff, ← find?_eq_some_iff, h k]
  have hperm : a.entries.Perm b.entries :=
    (perm_ext_iff_of_nodup a.entries_nodup b.entries_nodup).mpr (fun entry => hmem entry)
  have heq : a.entries = b.entries := by
    refine hperm.eq_of_pairwise ?_ (pairwise_map.mp a.sorted) (pairwise_map.mp b.sorted)
    intro x y _ _ hxy hyx
    exact absurd (hxy.trans hyx) (lt_irrefl _)
  cases a
  cases b
  simpa using heq

theorem insert_insert (m : OrderedMap κ ν) (k : κ) (v w : ν) :
    (m.insert k v).insert k w = m.insert k w := by
  apply ext_find?
  intro x
  simp only [find?_insert]
  split <;> rfl

def mapValues {β : Type} (f : ν → β) (m : OrderedMap κ ν) : OrderedMap κ β :=
  ⟨m.entries.map fun entry => (entry.1, f entry.2), by
    rw [List.map_map]
    exact m.sorted⟩

theorem find?_mapValues (f : ν → β) (m : OrderedMap κ ν) (k : κ) :
    (m.mapValues f).find? k = (m.find? k).map f := by
  simp only [find?, mapValues]
  induction m.entries with
  | nil => rfl
  | cons entry rest ih =>
    simp only [map_cons, lookup, ih]
    split <;> rfl

theorem mapValues_insert (f : ν → β) (m : OrderedMap κ ν) (k : κ) (v : ν) :
    (m.insert k v).mapValues f = (m.mapValues f).insert k (f v) := by
  apply ext_find?
  intro x
  simp only [find?_mapValues, find?_insert]
  split <;> rfl

theorem insert_of_find? (h : m.find? k = some v) : m.insert k v = m := by
  apply ext_find?
  intro x
  rw [find?_insert]
  split
  · rename_i heq
    rw [heq, h]
  · rfl

/-- Maps whose lookups agree under two views have the same entries under
them. -/
theorem entries_map_eq (h : ∀ k, (a.find? k).map f = (b.find? k).map g) :
    a.entries.map (fun entry => (entry.1, f entry.2)) =
      b.entries.map (fun entry => (entry.1, g entry.2)) := by
  have hmaps : a.mapValues f = b.mapValues g := by
    apply ext_find?
    intro k
    rw [find?_mapValues, find?_mapValues, h k]
  exact congrArg entries hmaps

theorem values_map_eq (h : ∀ k, (a.find? k).map f = (b.find? k).map g) :
    a.values.map f = b.values.map g := by
  have hsnd := congrArg (map Prod.snd) (entries_map_eq h)
  rw [map_map, map_map] at hsnd
  rw [values, values, map_map, map_map]
  exact hsnd

theorem insertEntry_of_lt (v : ν) (h : ∀ x ∈ l.map Prod.fst, x < k) :
    insertEntry k v l = l ++ [(k, v)] := by
  induction l with
  | nil => rfl
  | cons entry rest ih =>
    have hlt : entry.1 < k := h entry.1 (by simp)
    have hrest := ih fun x hx => h x (mem_cons_of_mem _ hx)
    simp only [insertEntry, not_lt_of_gt hlt, if_false, ne_of_gt hlt, hrest, cons_append]

theorem entries_ofList (h : (l.map Prod.fst).Pairwise (· < ·)) : (ofList l).entries = l := by
  induction l using reverseRecOn with
  | nil => rfl
  | append_singleton rest entry ih =>
    rw [map_append, pairwise_append] at h
    have hlt : ∀ x ∈ rest.map Prod.fst, x < entry.1 := fun x hx => h.2.2 x hx entry.1 (by simp)
    rw [ofList, foldl_append]
    change insertEntry entry.1 entry.2 (ofList rest).entries = _
    rw [ih h.1]
    exact insertEntry_of_lt entry.2 hlt

theorem ofList_entries (m : OrderedMap κ ν) : ofList m.entries = m := by
  have hentries := entries_ofList m.sorted
  cases hm : ofList m.entries with
  | mk entries sorted =>
    cases m
    simp only [hm] at hentries
    subst hentries
    rfl

theorem find?_ofList_of_nodup (h : (l.map Prod.fst).Nodup) :
    (ofList l).find? k = some v ↔ (k, v) ∈ l := by
  induction l using reverseRecOn with
  | nil => simp [ofList]
  | append_singleton rest entry ih =>
    rw [map_append, nodup_append] at h
    obtain ⟨hrest, -, hfresh⟩ := h
    have hinsert : ofList (rest ++ [entry]) = (ofList rest).insert entry.1 entry.2 := by
      rw [ofList, foldl_append]
      rfl
    rw [hinsert, find?_insert, mem_append, mem_singleton]
    by_cases hk : k = entry.1
    · subst hk
      have hnot : (entry.1, v) ∉ rest := by
        intro hmem
        exact hfresh _ (mem_map_of_mem hmem) entry.1 (by simp) rfl
      simp [hnot, Prod.ext_iff, eq_comm]
    · rw [if_neg hk, ih hrest]
      simp [Prod.ext_iff, hk]

theorem find?_ofList_map {α : Type} {items : List α} {key : α → κ} {f : α → ν}
    (h : (items.map key).Nodup) : (ofList (items.map fun a => (key a, f a))).find? k = some v ↔
      ∃ a ∈ items, key a = k ∧ f a = v := by
  rw [find?_ofList_of_nodup (by simpa [Function.comp_def] using h)]
  simp

theorem ofList_perm {l' : List (κ × ν)} (hperm : l.Perm l')
    (h : (l.map Prod.fst).Nodup) : ofList l = ofList l' := by
  have h' : (l'.map Prod.fst).Nodup := (hperm.map Prod.fst).nodup_iff.mp h
  apply ext_find?
  intro k
  apply Option.ext
  intro v
  rw [find?_ofList_of_nodup h, find?_ofList_of_nodup h', hperm.mem_iff]

theorem mem_keys_ofList (h : (l.map Prod.fst).Nodup) :
    k ∈ (ofList l).keys ↔ k ∈ l.map Prod.fst := by
  simp only [keys, mem_map]
  constructor
  · rintro ⟨⟨k', v⟩, hmem, rfl⟩
    exact ⟨(k', v), (find?_ofList_of_nodup h).mp (find?_eq_some_iff.mpr hmem), rfl⟩
  · rintro ⟨⟨k', v⟩, hmem, rfl⟩
    exact ⟨(k', v), find?_eq_some_iff.mp ((find?_ofList_of_nodup h).mpr hmem), rfl⟩

theorem mem_keys : k ∈ m.keys ↔ ∃ v, m.find? k = some v := by
  simp only [keys, mem_map, Prod.exists, exists_and_right, exists_eq_right, find?_eq_some_iff]

/-! ## Sums over the entries -/

theorem sum_map_insertEntry_of_new (h : lookup k l = none) (v : ν) (f : κ × ν → Nat) :
    ((insertEntry k v l).map f).sum = (l.map f).sum + f (k, v) := by
  induction l with
  | nil => simp [insertEntry]
  | cons entry rest ih =>
    obtain ⟨k', v'⟩ := entry
    simp only [lookup] at h
    split at h
    · cases h
    · rename_i hne
      simp only [insertEntry, hne, if_false]
      split
      · simp only [map_cons, sum_cons]
        omega
      · simp only [map_cons, sum_cons, ih h]
        omega

theorem sum_map_insertEntry_of_found (hsorted : (l.map Prod.fst).Pairwise (· < ·))
    (h : lookup k l = some old) (v : ν) (f : κ × ν → Nat) :
    ((insertEntry k v l).map f).sum + f (k, old) = (l.map f).sum + f (k, v) := by
  induction l with
  | nil => cases h
  | cons entry rest ih =>
    obtain ⟨k', v'⟩ := entry
    obtain ⟨hhead, hrest⟩ := pairwise_cons.mp hsorted
    simp only [lookup] at h
    split at h
    · rename_i heq
      subst heq
      cases h
      simp only [insertEntry, lt_irrefl, if_false, if_true, map_cons, sum_cons]
      omega
    · rename_i hne
      have hmem : k ∈ rest.map Prod.fst := mem_map_of_mem ((lookup_eq_some_iff hrest).mp h)
      have hlt : ¬ k < k' := not_lt_of_gt (hhead k hmem)
      simp only [insertEntry, hlt, hne, if_false, map_cons, sum_cons]
      have hsum := ih hrest h
      omega

theorem sum_entries_insert_of_new (h : m.find? k = none) (v : ν) (f : κ × ν → Nat) :
    ((m.insert k v).entries.map f).sum = (m.entries.map f).sum + f (k, v) :=
  sum_map_insertEntry_of_new h v f

theorem sum_entries_insert_of_found (h : m.find? k = some old) (v : ν) (f : κ × ν → Nat) :
    ((m.insert k v).entries.map f).sum + f (k, old) = (m.entries.map f).sum + f (k, v) :=
  sum_map_insertEntry_of_found m.sorted h v f

theorem countP_values_eq_sum (m : OrderedMap κ ν) (p : ν → Bool) : m.values.countP p =
      (m.entries.map fun entry => if p entry.2 then 1 else 0).sum := by
  rw [values, countP_map]
  induction m.entries with
  | nil => rfl
  | cons entry rest ih =>
    rw [countP_cons, ih, map_cons, sum_cons, Nat.add_comm]
    rfl

theorem countP_values_insert_of_new (h : m.find? k = none) (v : ν) (p : ν → Bool) :
    (m.insert k v).values.countP p = m.values.countP p + if p v then 1 else 0 := by
  rw [countP_values_eq_sum, countP_values_eq_sum, sum_entries_insert_of_new h v]

theorem countP_values_insert_of_found (h : m.find? k = some old) (v : ν) (p : ν → Bool) :
    (m.insert k v).values.countP p + (if p old then 1 else 0) =
      m.values.countP p + if p v then 1 else 0 := by
  rw [countP_values_eq_sum, countP_values_eq_sum]
  exact sum_entries_insert_of_found h v _

theorem length_keys_insert_of_new (h : m.find? k = none) (v : ν) :
    (m.insert k v).keys.length = m.keys.length + 1 := by
  have hsum := sum_entries_insert_of_new h v (fun _ => 1)
  simpa [keys, map_const', sum_replicate_nat] using hsum

section Related

variable {ν' : Type} {R : ν → ν' → Prop}

def Related (R : ν → ν' → Prop) (a : OrderedMap κ ν) (b : OrderedMap κ ν') : Prop :=
  ∀ k, Option.Rel R (a.find? k) (b.find? k)

variable {a : OrderedMap κ ν} {b : OrderedMap κ ν'}

theorem Related.find?_none (h : Related R a b) {k : κ}
    (ha : a.find? k = none) : b.find? k = none := by
  have hrel := h k
  rw [ha] at hrel
  cases hb : b.find? k with
  | none => rfl
  | some w =>
    rw [hb] at hrel
    cases hrel

theorem Related.find?_some (h : Related R a b) {k : κ} {v : ν}
    (ha : a.find? k = some v) : ∃ w, b.find? k = some w ∧ R v w := by
  have hrel := h k
  rw [ha] at hrel
  cases hb : b.find? k with
  | none =>
    rw [hb] at hrel
    cases hrel
  | some w =>
    rw [hb] at hrel
    cases hrel with
    | some hvw => exact ⟨w, rfl, hvw⟩

theorem Related.insert (h : Related R a b) (k : κ) {v : ν} {w : ν'}
    (hvw : R v w) : Related R (a.insert k v) (b.insert k w) := by
  intro other
  rw [find?_insert, find?_insert]
  split
  · exact .some hvw
  · exact h other

/-- A view that related values share is the same on both maps. -/
theorem Related.map_find? {β : Type} {f : ν → β} {g : ν' → β} (h : Related R a b)
    (hfg : ∀ v w, R v w → f v = g w) (k : κ) : (a.find? k).map f = (b.find? k).map g := by
  have hrel := h k
  generalize a.find? k = x at hrel
  generalize b.find? k = y at hrel
  cases hrel with
  | some hvw => simp [hfg _ _ hvw]
  | none => rfl

end Related

end OrderedMap

end CarlAgent.Foundation
