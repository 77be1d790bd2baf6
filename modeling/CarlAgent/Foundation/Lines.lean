import Mathlib.Data.List.Basic

/-!
# Delimited streams

A buffered reader hands out a stream in fills.  What a stream holds does not
depend on where the fills are cut: an empty fill is its end, and a failed fill
ends it with an error.  A delimiter cuts the stream into terminated pieces.
-/

namespace CarlAgent.Foundation

open List

inductive Fill (α : Type) where
  | items (available : List α)
  | failed
  deriving DecidableEq, Repr

/-- The items of a stream, and whether it ends in a failed read. -/
structure Stream (α : Type) where
  items : List α
  failed : Bool
  deriving DecidableEq, Repr

namespace Stream

variable {α : Type}

def prepend (items : List α) (stream : Stream α) : Stream α :=
  { stream with items := items ++ stream.items }

def ofFills : List (Fill α) → Stream α
  | [] => ⟨[], false⟩
  | .failed :: _ => ⟨[], true⟩
  | .items [] :: _ => ⟨[], false⟩
  | .items (item :: available) :: rest =>
    (ofFills rest).prepend (item :: available)

@[simp] theorem prepend_nil (stream : Stream α) : stream.prepend [] = stream :=
  rfl

@[simp] theorem prepend_prepend (first second : List α) (stream : Stream α) :
    (stream.prepend second).prepend first = stream.prepend (first ++ second) := by
  simp [prepend]

/-- What stays in the buffer is read before the next fill. -/
def remaining (left : List α) (rest : List (Fill α)) : List (Fill α) :=
  if left.isEmpty then rest else .items left :: rest

theorem ofFills_remaining (left : List α) (rest : List (Fill α)) :
    ofFills (remaining left rest) = (ofFills rest).prepend left := by
  cases left with
  | nil => rfl
  | cons item left => rfl

end Stream

section Terminated

variable {α : Type} [DecidableEq α]

/-- The pieces before each delimiter; none when the last one has none. -/
def terminated (delimiter : α) : List α → Option (List (List α))
  | [] => some []
  | item :: rest =>
    if item = delimiter then (terminated delimiter rest).map ([] :: ·)
    else
      match terminated delimiter rest with
      | some (piece :: pieces) => some ((item :: piece) :: pieces)
      | _ => none

variable {delimiter : α} {piece rest : List α}

theorem terminated_piece (hpiece : delimiter ∉ piece) :
    terminated delimiter (piece ++ delimiter :: rest) =
      (terminated delimiter rest).map (piece :: ·) := by
  induction piece with
  | nil => simp [terminated]
  | cons item piece ih =>
    simp only [mem_cons, not_or] at hpiece
    simp only [cons_append, terminated, ih hpiece.2]
    rw [if_neg (Ne.symm hpiece.1)]
    cases terminated delimiter rest with
    | none => rfl
    | some pieces => rfl

theorem terminated_open (hpiece : delimiter ∉ piece) (hne : piece ≠ []) :
    terminated delimiter piece = none := by
  induction piece with
  | nil => exact absurd rfl hne
  | cons item piece ih =>
    simp only [mem_cons, not_or] at hpiece
    simp only [terminated, if_neg (Ne.symm hpiece.1)]
    cases piece with
    | nil => simp [terminated]
    | cons next piece => rw [ih hpiece.2 (by simp)]

theorem idxOf?_eq_some_split {items : List α} {position : Nat}
    (h : items.idxOf? delimiter = some position) :
    ∃ before after, items = before ++ delimiter :: after ∧
      delimiter ∉ before ∧ before.length = position := by
  induction items generalizing position with
  | nil => simp at h
  | cons item items ih =>
    rw [idxOf?_cons] at h
    by_cases heq : item = delimiter
    · subst heq
      simp only [beq_self_eq_true, if_true, Option.some.injEq] at h
      exact ⟨[], items, rfl, by simp, h⟩
    · simp only [beq_iff_eq, heq, if_false, Option.map_eq_some_iff] at h
      obtain ⟨previous, hprevious, rfl⟩ := h
      obtain ⟨before, after, rfl, hbefore, hlength⟩ := ih hprevious
      refine ⟨item :: before, after, rfl, ?_, by simp [hlength]⟩
      simp only [mem_cons, not_or]
      exact ⟨Ne.symm heq, hbefore⟩

theorem idxOf?_split {before after : List α} (h : delimiter ∉ before) :
    (before ++ delimiter :: after).idxOf? delimiter = some before.length := by
  induction before with
  | nil => simp [idxOf?_cons]
  | cons item before ih =>
    simp only [mem_cons, not_or] at h
    rw [cons_append, idxOf?_cons, ih h.2]
    simp [Ne.symm h.1]

end Terminated

end CarlAgent.Foundation
