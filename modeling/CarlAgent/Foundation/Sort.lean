import Mathlib.Data.List.Destutter
import Mathlib.Data.List.Sort

/-!
# Stable sorting and removal of repeated neighbours

Sorting by a key keeps the order of equal keys.  A list that was sorted and
rid of repeated neighbours is a fixed point of both.
-/

namespace CarlAgent.Foundation

open List

variable {α κ : Type} [LinearOrder κ]

def sortByKey (key : α → κ) (l : List α) : List α :=
  l.insertionSort fun a b => key a ≤ key b

def dedup [DecidableEq α] (l : List α) : List α :=
  l.destutter (· ≠ ·)

def sortDedup [DecidableEq α] (key : α → κ) (l : List α) : List α :=
  dedup (sortByKey key l)

private theorem key_total (key : α → κ) : Std.Total fun a b => key a ≤ key b :=
  ⟨fun a b => le_total (key a) (key b)⟩

private theorem key_trans (key : α → κ) : IsTrans α fun a b => key a ≤ key b :=
  ⟨fun _ _ _ hab hbc => le_trans hab hbc⟩

theorem sortByKey_pairwise (key : α → κ) (l : List α) :
    (sortByKey key l).Pairwise fun a b => key a ≤ key b :=
  haveI := key_total key
  haveI := key_trans key
  pairwise_insertionSort _ l

variable {key : α → κ} {l : List α}

theorem sortByKey_of_pairwise (h : l.Pairwise fun a b => key a ≤ key b) : sortByKey key l = l :=
  h.insertionSort_eq

theorem sortByKey_idem (key : α → κ) (l : List α) :
    sortByKey key (sortByKey key l) = sortByKey key l :=
  sortByKey_of_pairwise (sortByKey_pairwise key l)

theorem sortByKey_perm (key : α → κ) (l : List α) : (sortByKey key l).Perm l :=
  List.perm_insertionSort _ l

theorem map_sortByKey {β : Type} {key' : β → κ} {f : α → β} (h : ∀ a, key' (f a) = key a)
    (l : List α) : (sortByKey key l).map f = sortByKey key' (l.map f) :=
  List.map_insertionSort _ _ f l fun a _ b _ => by rw [h a, h b]

theorem sortByKey_strict (h : (l.map key).Nodup) :
    ((sortByKey key l).map key).Pairwise (· < ·) := by
  have hnodup : ((sortByKey key l).map key).Nodup :=
    ((sortByKey_perm key l).map key).nodup_iff.mpr h
  rw [pairwise_map]
  have hne := pairwise_map.mp hnodup
  exact ((sortByKey_pairwise key l).and hne).imp fun hab =>
    lt_of_le_of_ne hab.1 hab.2

theorem mem_sortByKey {a : α} : a ∈ sortByKey key l ↔ a ∈ l :=
  (List.perm_insertionSort _ l).mem_iff

theorem mem_before_of_pairwise {r : α → α → Prop} {before after : List α} {a b : α}
    (h : (before ++ a :: after).Pairwise r) (hmem : b ∈ before ++ a :: after) (hne : b ≠ a)
    (hnot : ¬ r a b) : b ∈ before := by
  rw [mem_append, mem_cons] at hmem
  rcases hmem with hbefore | heq | hafter
  · exact hbefore
  · exact absurd heq hne
  · have hsuffix := (pairwise_append.mp h).2.1
    exact absurd ((pairwise_cons.mp hsuffix).1 b hafter) hnot

variable [DecidableEq α]

theorem dedup_idem (l : List α) : dedup (dedup l) = dedup l :=
  List.destutter_idem l _

theorem mem_of_mem_dedup {a : α} (h : a ∈ dedup l) : a ∈ l :=
  (List.destutter_sublist _ l).mem h

private theorem mem_destutter' {l : List α} {a b : α} :
    a ∈ l.destutter' (· ≠ ·) b ↔ a = b ∨ a ∈ l := by
  induction l generalizing b with
  | nil => simp
  | cons c l ih =>
    rw [destutter'_cons]
    split
    · simp only [mem_cons, ih]
    · rename_i hsame
      have hbc : b = c := not_not.mp hsame
      subst hbc
      simp only [ih, mem_cons, or_self_left]

theorem mem_dedup {a : α} : a ∈ dedup l ↔ a ∈ l := by
  cases l with
  | nil => rfl
  | cons b l =>
    rw [dedup, destutter_cons', mem_destutter', mem_cons]

theorem mem_sortDedup {a : α} : a ∈ sortDedup key l ↔ a ∈ l := by
  rw [sortDedup, mem_dedup, mem_sortByKey]

theorem mem_of_mem_sortDedup {a : α} (h : a ∈ sortDedup key l) : a ∈ l :=
  mem_sortByKey.mp (mem_of_mem_dedup h)

theorem sortDedup_pairwise (key : α → κ) (l : List α) :
    (sortDedup key l).Pairwise fun a b => key a ≤ key b :=
  (sortByKey_pairwise key l).sublist (List.destutter_sublist _ _)

theorem length_sortDedup_le (key : α → κ) (l : List α) : (sortDedup key l).length ≤ l.length := by
  have hsort : (sortByKey key l).length = l.length := (perm_insertionSort _ l).length_eq
  rw [← hsort]
  exact (destutter_sublist _ _).length_le

theorem sortDedup_idem (key : α → κ) (l : List α) :
    sortDedup key (sortDedup key l) = sortDedup key l := by
  have hsorted := sortByKey_of_pairwise (sortDedup_pairwise key l)
  rw [sortDedup, hsorted]
  exact dedup_idem _

theorem sortDedup_id_eq (l : List κ) : sortDedup id l = (sortByKey id l).dedup := by
  have hsorted : (sortByKey id l).Pairwise fun a b => a ≤ b := sortByKey_pairwise id l
  exact hsorted.destutter_eq_dedup

theorem mem_sortDedup_id {l : List κ} {a : κ} : a ∈ sortDedup id l ↔ a ∈ l := by
  rw [sortDedup_id_eq, List.mem_dedup, mem_sortByKey]

theorem sortDedup_id_strict (l : List κ) : (sortDedup id l).Pairwise fun a b => a < b := by
  have hsorted : (sortDedup id l).Pairwise fun a b => a ≤ b := sortDedup_pairwise id l
  have hnodup : (sortDedup id l).Nodup := by
    rw [sortDedup_id_eq]
    exact nodup_dedup _
  exact (hsorted.and hnodup).imp fun h => lt_of_le_of_ne h.1 h.2

theorem sortDedup_id_of_strict {l : List κ} (h : l.Pairwise (· < ·)) : sortDedup id l = l := by
  have hsorted : sortByKey id l = l := sortByKey_of_pairwise (h.imp le_of_lt)
  have hnodup : l.Nodup := h.imp ne_of_lt
  rw [sortDedup_id_eq, hsorted]
  exact hnodup.dedup

theorem sortDedup_id_of_forall_eq {l : List κ} {a : κ} (hne : l ≠ [])
    (h : ∀ b ∈ l, b = a) : sortDedup id l = [a] := by
  have hmem : ∀ b, b ∈ sortDedup id l → b = a := fun b hb => h b (mem_sortDedup_id.mp hb)
  have hstrict := sortDedup_id_strict l
  cases hcase : sortDedup id l with
  | nil =>
    obtain ⟨b, hb⟩ := exists_mem_of_ne_nil l hne
    have := mem_sortDedup_id.mpr hb
    simp [hcase] at this
  | cons b rest =>
    rw [hcase] at hmem hstrict
    have hb : b = a := hmem b (by simp)
    cases rest with
    | nil => rw [hb]
    | cons c rest =>
      have hc : c = a := hmem c (by simp)
      have hlt : b < c := (pairwise_cons.mp hstrict).1 c (by simp)
      rw [hb, hc] at hlt
      exact absurd hlt (lt_irrefl a)

end CarlAgent.Foundation
