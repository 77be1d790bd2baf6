import Mathlib.Data.List.Sort

/-!
# Search by key

A binary search keeps a stretch of a sorted list in which the target must lie,
if it lies anywhere, and halves it until one element is left.  Where keys are
distinct, writing at the index that was found replaces the element with that
key.
-/

namespace CarlAgent.Foundation

open List

variable {α κ : Type} [LinearOrder κ]

/-- The first index of the stretch that is left of `size` elements from
`base` on. -/
def narrow (key : α → κ) (target : κ) (l : List α) : Nat → Nat → Nat → Nat
  | 0, base, _ => base
  | fuel + 1, base, size =>
    if size ≤ 1 then base
    else
      let half := size / 2
      let mid := base + half
      let base := match l[mid]? with
        | some a => if target < key a then base else mid
        | none => base
      narrow key target l fuel base (size - half)

def binarySearch (key : α → κ) (target : κ) (l : List α) : Option Nat :=
  let base := narrow key target l l.length 0 l.length
  match l[base]? with
  | some a => if key a = target then some base else none
  | none => none

section Sorted

variable {key : α → κ} {target : κ} {l : List α}

private theorem key_lt_key (hsorted : (l.map key).Pairwise (· < ·)) {i j : Nat} {a b : α}
    (hi : l[i]? = some a) (hj : l[j]? = some b) (hlt : i < j) : key a < key b := by
  obtain ⟨hi', rfl⟩ := List.getElem?_eq_some_iff.mp hi
  obtain ⟨hj', rfl⟩ := List.getElem?_eq_some_iff.mp hj
  rw [List.pairwise_map, List.pairwise_iff_getElem] at hsorted
  exact hsorted i j hi' hj' hlt

theorem last_not_le {before after : List α} {a : α}
    (hsorted : ((before ++ a :: after).map key).Pairwise (· < ·)) {p : κ → Bool}
    (hp : ∀ k, p k = true → key a ≤ k) : ¬ (before.getLast?.map key).any p = true := by
  cases hlast : before.getLast? with
  | none => simp
  | some b =>
    rw [map_append, pairwise_append] at hsorted
    have hmem := mem_map_of_mem (f := key) (mem_of_getLast? hlast)
    have hlt := hsorted.2.2 _ hmem (key a) (by simp)
    exact fun h => not_lt_of_ge (hp _ h) hlt

/-- An element with the key stays in the stretch, down to its last index. -/
theorem narrow_eq (hsorted : (l.map key).Pairwise (· < ·)) {i : Nat} {a : α} (hi : l[i]? = some a)
    (hkey : key a = target) {fuel base size : Nat} (hlow : base ≤ i) (hhigh : i < base + size)
    (hbound : base + size ≤ l.length) (hfuel : size ≤ fuel) :
    narrow key target l fuel base size = i := by
  induction fuel generalizing base size with
  | zero => omega
  | succ fuel ih =>
    simp only [narrow]
    split
    · omega
    · rename_i hsize
      have hmid : base + size / 2 < l.length := by omega
      rw [getElem?_eq_getElem hmid]
      simp only
      split
      · rename_i hgt
        -- The middle lies above the target, so the target lies below it.
        refine ih hlow ?_ (by omega) (by omega)
        by_contra hle
        rcases Nat.lt_or_eq_of_le (show base + size / 2 ≤ i by omega) with
          hlt | heq
        · have hless := key_lt_key hsorted (getElem?_eq_getElem hmid) hi hlt
          rw [hkey] at hless
          exact lt_asymm hless hgt
        · subst heq
          rw [getElem?_eq_getElem hmid, Option.some.injEq] at hi
          rw [hi, hkey] at hgt
          exact lt_irrefl _ hgt
      · rename_i hle
        refine ih ?_ (by omega) (by omega) (by omega)
        by_contra hgt
        have hless := key_lt_key hsorted hi (getElem?_eq_getElem hmid) (by omega)
        rw [hkey] at hless
        exact hle hless

theorem binarySearch_eq_some (hsorted : (l.map key).Pairwise (· < ·)) {i : Nat} :
    binarySearch key target l = some i ↔ ∃ a, l[i]? = some a ∧ key a = target := by
  constructor
  · intro h
    simp only [binarySearch] at h
    split at h
    · rename_i a ha
      split at h
      · rename_i hkey
        rw [Option.some.injEq] at h
        exact ⟨a, h ▸ ha, hkey⟩
      · simp at h
    · simp at h
  · rintro ⟨a, ha, hkey⟩
    obtain ⟨hi, -⟩ := List.getElem?_eq_some_iff.mp ha
    have hbase : narrow key target l l.length 0 l.length = i :=
      narrow_eq hsorted ha hkey (Nat.zero_le i) (by omega) (by omega) le_rfl
    simp [binarySearch, hbase, ha, hkey]

theorem isSome_binarySearch (hsorted : (l.map key).Pairwise (· < ·)) :
    (binarySearch key target l).isSome = true ↔ target ∈ l.map key := by
  rw [Option.isSome_iff_exists, mem_map]
  constructor
  · rintro ⟨i, h⟩
    obtain ⟨a, ha, hkey⟩ := (binarySearch_eq_some hsorted).mp h
    exact ⟨a, mem_of_getElem? ha, hkey⟩
  · rintro ⟨a, ha, hkey⟩
    obtain ⟨i, hi⟩ := getElem?_of_mem ha
    exact ⟨i, (binarySearch_eq_some hsorted).mpr ⟨a, hi, hkey⟩⟩

end Sorted

def replaceKey (key : α → κ) (target : κ) (new : α) (l : List α) : List α :=
  l.map fun a => if key a = target then new else a

section Replace

variable {key : α → κ} {target : κ} {new : α} {l : List α}

theorem map_key_replaceKey (hnew : key new = target) (l : List α) :
    (replaceKey key target new l).map key = l.map key := by
  rw [replaceKey, map_map]
  apply map_congr_left
  intro a _
  simp only [Function.comp_apply]
  split
  · rename_i hkey
    rw [hnew, hkey]
  · rfl

theorem map_replaceKey {β : Type} {key' : β → κ} {f : α → β} (hkey : ∀ a, key' (f a) = key a)
    (l : List α) :
    (replaceKey key target new l).map f = replaceKey key' target (f new) (l.map f) := by
  rw [replaceKey, replaceKey, map_map, map_map]
  apply map_congr_left
  intro a _
  simp only [Function.comp_apply, hkey]
  split <;> rfl

theorem mem_replaceKey {a : α} (h : a ∈ replaceKey key target new l) :
    a = new ∨ (a ∈ l ∧ key a ≠ target) := by
  obtain ⟨b, hb, rfl⟩ := mem_map.mp h
  split
  · exact .inl rfl
  · rename_i hkey
    exact .inr ⟨hb, hkey⟩

theorem replaceKey_of_notMem (h : target ∉ l.map key) : replaceKey key target new l = l := by
  rw [replaceKey]
  conv_rhs => rw [← map_id l]
  apply map_congr_left
  intro a ha
  have hkey : key a ≠ target := fun heq =>
    h (mem_map.mpr ⟨a, ha, heq⟩)
  simp [hkey]

theorem set_eq_replaceKey (hnodup : (l.map key).Nodup) {i : Nat} {a : α} (hi : l[i]? = some a) :
    l.set i new = replaceKey key (key a) new l := by
  induction l generalizing i with
  | nil => simp at hi
  | cons b rest ih =>
    rw [map_cons, nodup_cons] at hnodup
    cases i with
    | zero =>
      simp only [getElem?_cons_zero, Option.some.injEq] at hi
      subst hi
      have hrest : replaceKey key (key b) new rest = rest := replaceKey_of_notMem hnodup.1
      rw [replaceKey] at hrest
      simp [replaceKey, hrest]
    | succ i =>
      simp only [getElem?_cons_succ] at hi
      have hne : key b ≠ key a := by
        intro heq
        exact hnodup.1 (heq ▸ mem_map_of_mem (mem_of_getElem? hi))
      rw [set_cons_succ, ih hnodup.2 hi]
      simp [replaceKey, hne]

end Replace

end CarlAgent.Foundation
