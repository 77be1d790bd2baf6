import Mathlib.Order.Lattice
import CarlAgent.Foundation.Check

/-!
# Reading a sorted relation page by page

A query returns the rows after a cursor, in order and up to a limit.  A loop
asks for the next page until it gets an empty one.  Over rows with increasing
cursors the loop is a fold over all of them.
-/

namespace CarlAgent.Foundation

open List

section Paging

variable {ε σ α κ : Type} [LinearOrder κ]

def afterCursor (cursor : α → κ) (after : Option κ) (rows : List α) : List α :=
  rows.filter fun row => after.all fun k => decide (k < cursor row)

/-- Fold over the pages that `fetch` returns, up to the first empty one. -/
def foldPages (fetch : Option κ → Except ε (List α)) (cursor : α → κ)
    (step : σ → α → Except ε σ) : Nat → Option κ → σ → Except ε σ
  | 0, _, state => .ok state
  | fuel + 1, after, state => do
    let page ← fetch after
    match page.getLast? with
    | none => .ok state
    | some last => do
      let state ← page.foldlM step state
      foldPages fetch cursor step fuel (some (cursor last)) state

@[simp] theorem afterCursor_none (cursor : α → κ) (rows : List α) :
    afterCursor cursor none rows = rows := by
  simp [afterCursor]

theorem mem_afterCursor {cursor : α → κ} {after : Option κ} {rows : List α}
    {row : α} : row ∈ afterCursor cursor after rows ↔ row ∈ rows ∧ ∀ k ∈ after, k < cursor row := by
  cases after <;> simp [afterCursor]

theorem afterCursor_getLast {cursor : α → κ} {after : Option κ} {rows page rest : List α} {last : α}
    (hsorted : rows.Pairwise fun a b => cursor a < cursor b)
    (hsplit : afterCursor cursor after rows = page ++ rest) (hlast : page.getLast? = some last) :
    afterCursor cursor (some (cursor last)) rows = rest := by
  have hmem : last ∈ afterCursor cursor after rows := by
    rw [hsplit]
    exact mem_append_left _ (mem_of_getLast? hlast)
  have hafter := (mem_afterCursor.mp hmem).2
  -- A row after `last` is a row after the old cursor.
  have hnarrow : afterCursor cursor (some (cursor last)) rows =
      afterCursor cursor (some (cursor last)) (afterCursor cursor after rows) := by
    simp only [afterCursor, filter_filter]
    refine filter_congr fun row _ => ?_
    cases after with
    | none => simp
    | some k =>
      have hk : k < cursor last := hafter k rfl
      by_cases hrow : cursor last < cursor row
      · simp [hrow, hk.trans hrow]
      · simp [hrow]
  have hremaining : (page ++ rest).Pairwise fun a b => cursor a < cursor b := by
    rw [← hsplit]
    exact hsorted.sublist filter_sublist
  obtain ⟨before, rfl⟩ := getLast?_eq_some_iff.mp hlast
  obtain ⟨hpage, -, hrest⟩ := pairwise_append.mp hremaining
  have hbefore := (pairwise_append.mp hpage).2.2
  rw [hnarrow, hsplit, afterCursor, filter_append]
  have hnone : (before ++ [last]).filter (fun row =>
      (some (cursor last)).all fun k => decide (k < cursor row)) = [] := by
    rw [filter_eq_nil_iff]
    intro row hrow
    rcases mem_append.mp hrow with hrow | hrow
    · have := hbefore row hrow last (by simp)
      simpa using this.le
    · simp [mem_singleton.mp hrow]
  have hall : rest.filter (fun row =>
      (some (cursor last)).all fun k => decide (k < cursor row)) = rest := by
    rw [filter_eq_self]
    intro row hrow
    simpa using hrest last (by simp) row hrow
  rw [hnone, hall, nil_append]

/-- Over rows with increasing cursors, the loop is a fold over the rows, for
a query that answers every cursor the loop asks for. -/
theorem foldPages_eq {fetch : Option κ → Except ε (List α)} {cursor : α → κ}
    {step : σ → α → Except ε σ} {rows : List α} {limit : Nat} {P : κ → Prop} (hlimit : 0 < limit)
    (hsorted : rows.Pairwise fun a b => cursor a < cursor b) (hfetch : ∀ after, (∀ k ∈ after, P k) →
      fetch after = .ok ((afterCursor cursor after rows).take limit))
    (hrows : ∀ row ∈ rows, P (cursor row)) {fuel : Nat} {after : Option κ} {state : σ}
    (hafter : ∀ k ∈ after, P k) (hfuel : (afterCursor cursor after rows).length < fuel) :
    foldPages fetch cursor step fuel after state =
      (afterCursor cursor after rows).foldlM step state := by
  induction fuel generalizing after state with
  | zero => omega
  | succ fuel ih =>
    have hsplit := (take_append_drop limit (afterCursor cursor after rows)).symm
    rw [foldPages, hfetch after hafter]
    simp only [bind, Except.bind]
    cases hlast : ((afterCursor cursor after rows).take limit).getLast? with
    | none =>
      have hempty : afterCursor cursor after rows = [] := by
        have := getLast?_eq_none_iff.mp hlast
        rcases take_eq_nil_iff.mp this with hzero | hnil
        · omega
        · exact hnil
      simp [hempty, pure, Except.pure]
    | some last =>
      have hrest := afterCursor_getLast hsorted hsplit hlast
      have hmem : last ∈ afterCursor cursor after rows := mem_of_mem_take (mem_of_getLast? hlast)
      have hcursor : ∀ k ∈ some (cursor last), P k := by
        intro k hk
        cases hk
        exact hrows last (mem_afterCursor.mp hmem).1
      have hshorter : (afterCursor cursor (some (cursor last)) rows).length < fuel := by
        have hpos : 0 < (afterCursor cursor after rows).length := length_pos_of_mem hmem
        rw [hrest, length_drop]
        omega
      conv_rhs => rw [hsplit, foldlM_append]
      simp only [bind, Except.bind]
      cases ((afterCursor cursor after rows).take limit).foldlM step state with
      | error error => rfl
      | ok next =>
        rw [← hrest]
        exact ih hcursor hshorter

end Paging

end CarlAgent.Foundation
