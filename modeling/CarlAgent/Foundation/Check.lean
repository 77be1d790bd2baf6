import Mathlib.Data.List.Forall2

/-!
# Fallible checks and fallible folds

A check either passes or stops the computation with an error, and a replay is
a fallible fold of a step over a list.  The rules below invert a successful
computation one check at a time, and lift a one-step fact to a whole fold.
-/

namespace CarlAgent.Foundation

open List

section Checks

variable {ε ε' α β : Type}

def rejectIf (bad : Prop) [Decidable bad] (error : ε) : Except ε Unit :=
  if bad then .error error else .ok ()

def requireSome (value : Option α) (error : ε) : Except ε α :=
  match value with
  | some a => .ok a
  | none => .error error

variable {check : Except ε α} {error : ε} {a : α} {b : β}

@[simp] theorem rejectIf_eq_ok {bad : Prop} [Decidable bad]
    {u : Unit} : rejectIf bad error = .ok u ↔ ¬ bad := by
  by_cases h : bad <;> simp [rejectIf, h]

@[simp] theorem requireSome_eq_ok {value : Option α} :
    requireSome value error = .ok a ↔ value = some a := by
  cases value <;> simp [requireSome]

theorem bind_eq_ok {x : Except ε α} {f : α → Except ε β} :
    (x >>= f) = .ok b ↔ ∃ a, x = .ok a ∧ f a = .ok b := by
  cases x with
  | error error | ok a => simp [bind, Except.bind]

@[simp] theorem mapError_eq_ok_iff {translate : ε → ε'} :
    check.mapError translate = .ok a ↔ check = .ok a := by
  cases check with
  | error error | ok a => simp [Except.mapError]

@[simp] theorem map_eq_ok_iff {f : α → β} : check.map f = .ok b ↔ ∃ a, check = .ok a ∧ f a = b := by
  cases check with
  | error error | ok a => simp [Except.map]

/-- The rules of successful checks as one rule for `simp`. -/
theorem ok_iff : (∀ {ε α β : Type} {x : Except ε α} {f : α → Except ε β} {b : β},
      (x >>= f) = .ok b ↔ ∃ a, x = .ok a ∧ f a = .ok b) ∧
    (∀ {ε : Type} {bad : Prop} [Decidable bad] {error : ε} {u : Unit},
      rejectIf bad error = .ok u ↔ ¬ bad) ∧
    (∀ {ε α : Type} {value : Option α} {error : ε} {a : α},
      requireSome value error = .ok a ↔ value = some a) ∧
    (∀ {ε ε' α : Type} {check : Except ε α} {translate : ε → ε'} {a : α},
      check.mapError translate = .ok a ↔ check = .ok a) ∧
    (∀ {ε α : Type} {a b : α}, (.ok a : Except ε α) = .ok b ↔ a = b) ∧
    ∀ {p : Prop}, (∃ _ : Unit, p) ↔ p :=
  ⟨bind_eq_ok, rejectIf_eq_ok, requireSome_eq_ok, mapError_eq_ok_iff, by simp, exists_const _⟩

end Checks

section Folds

variable {ε σ τ α : Type} {f : σ → α → Except ε σ} {g : τ → α → Except ε τ}

variable {l : List α} {s s' : σ} {β : Type} {a : α}

theorem foldlM_cons_eq_ok :
    (a :: l).foldlM f s = .ok s' ↔ ∃ t, f s a = .ok t ∧ l.foldlM f t = .ok s' := by
  rw [foldlM_cons]
  exact bind_eq_ok

theorem foldlM_append_eq_ok {l₁ l₂ : List α} :
    (l₁ ++ l₂).foldlM f s = .ok s' ↔ ∃ t, l₁.foldlM f s = .ok t ∧ l₂.foldlM f t = .ok s' := by
  rw [foldlM_append]
  exact bind_eq_ok

theorem foldlM_concat_eq_ok :
    (l ++ [a]).foldlM f s = .ok s' ↔ ∃ t, l.foldlM f s = .ok t ∧ f t a = .ok s' := by
  rw [foldlM_append_eq_ok]
  refine exists_congr fun t => and_congr_right fun _ => ?_
  rw [foldlM_cons_eq_ok]
  simp [pure, Except.pure]

theorem forM_eq_ok {check : α → Except ε Unit} {u : Unit} :
    l.forM check = .ok u ↔ ∀ a ∈ l, check a = .ok () := by
  induction l with
  | nil => simp [pure, Except.pure]
  | cons a l ih =>
    have hcons : (a :: l).forM check = (do check a; l.forM check) := rfl
    rw [hcons, bind_eq_ok, forall_mem_cons, ← ih]
    constructor
    · rintro ⟨⟨⟩, ha, hl⟩
      exact ⟨ha, hl⟩
    · rintro ⟨ha, hl⟩
      exact ⟨(), ha, hl⟩

theorem foldlM_push_eq_ok {check : α → Except ε β} {acc out : List β} :
    l.foldlM (fun acc a => do
        let b ← check a
        .ok (acc ++ [b])) acc = .ok out ↔
      ∃ values, out = acc ++ values ∧ List.Forall₂ (fun a b => check a = .ok b) l values := by
  induction l generalizing acc with
  | nil => simp [pure, Except.pure, forall₂_nil_left_iff, eq_comm]
  | cons a l ih =>
    rw [foldlM_cons_eq_ok]
    simp only [bind_eq_ok, Except.ok.injEq]
    constructor
    · rintro ⟨_, ⟨b, hb, rfl⟩, hrest⟩
      obtain ⟨values, rfl, hvalues⟩ := ih.mp hrest
      exact ⟨b :: values, by simp, .cons hb hvalues⟩
    · rintro ⟨_, rfl, hvalues⟩
      cases hvalues with
      | @cons _ b _ values hb hvalues =>
        exact ⟨acc ++ [b], ⟨b, hb, rfl⟩, ih.mpr ⟨values, by simp, hvalues⟩⟩

theorem mem_of_mapM_eq_ok {f : α → Except ε β} {out : List β} (h : l.mapM f = .ok out) :
    (∀ a ∈ l, ∃ b ∈ out, f a = .ok b) ∧ ∀ b ∈ out, ∃ a ∈ l, f a = .ok b := by
  induction l generalizing out with
  | nil =>
    cases h
    simp
  | cons a l ih =>
    simp only [mapM_cons, bind_eq_ok] at h
    obtain ⟨b, hb, rest, hrest, hout⟩ := h
    cases hout
    obtain ⟨hleft, hright⟩ := ih hrest
    simp only [mem_cons, forall_eq_or_imp, exists_eq_or_imp]
    exact ⟨⟨.inl hb, fun a ha => .inr (hleft a ha)⟩, .inl hb, fun b hb => .inr (hright b hb)⟩

theorem mapM_eq_ok_self {f : α → Except ε α} (h : ∀ a ∈ l, f a = .ok a) : l.mapM f = .ok l := by
  induction l with
  | nil => rfl
  | cons a l ih =>
    rw [forall_mem_cons] at h
    rw [mapM_cons, h.1, ih h.2]
    rfl

theorem foldlM_invariant {P : σ → Prop} (step : ∀ s a s', a ∈ l → P s → f s a = .ok s' → P s')
    (hs : P s) (h : l.foldlM f s = .ok s') : P s' := by
  induction l generalizing s with
  | nil =>
    cases h
    exact hs
  | cons a l ih =>
    obtain ⟨t, ht, hrest⟩ := foldlM_cons_eq_ok.mp h
    have hPt : P t := step s a t (by simp) hs ht
    exact ih (fun s b s' hb => step s b s' (by simp [hb])) hPt hrest

theorem foldlM_view {view : σ → τ} {g : τ → α → τ}
    (step : ∀ s a s', f s a = .ok s' → view s' = g (view s) a) (h : l.foldlM f s = .ok s') :
    view s' = l.foldl g (view s) := by
  induction l generalizing s with
  | nil =>
    cases h
    rfl
  | cons a l ih =>
    obtain ⟨t, ht, hrest⟩ := foldlM_cons_eq_ok.mp h
    rw [ih hrest, step s a t ht, foldl_cons]

/-- A loop whose state is a function of the elements it has seen. -/
theorem foldlM_of_states {g : List α → σ} {l : List α}
    (step : ∀ before a after, l = before ++ a :: after → f (g before) a = .ok (g (before ++ [a]))) :
    l.foldlM f (g []) = .ok (g l) := by
  have hrest : ∀ before after, l = before ++ after → after.foldlM f (g before) = .ok (g l) := by
    intro before after
    induction after generalizing before with
    | nil => simp +contextual [pure, Except.pure]
    | cons a after ih =>
      intro hsplit
      exact foldlM_cons_eq_ok.mpr ⟨_, step before a after hsplit, ih _ (by simp [hsplit])⟩
  exact hrest [] l rfl

/--
A step-by-step simulation lifts to folds: when the left fold is accepted, so
is the right one, and the results are related.
-/
theorem foldlM_simulation {R : σ → τ → Prop} {t : τ}
    (step : ∀ s t a s', a ∈ l → R s t → f s a = .ok s' → ∃ t', g t a = .ok t' ∧ R s' t')
    (hst : R s t) (h : l.foldlM f s = .ok s') : ∃ t', l.foldlM g t = .ok t' ∧ R s' t' := by
  induction l generalizing s t with
  | nil =>
    cases h
    exact ⟨t, rfl, hst⟩
  | cons a l ih =>
    obtain ⟨u, hu, hrest⟩ := foldlM_cons_eq_ok.mp h
    obtain ⟨v, hv, huv⟩ := step s t a u (by simp) hst hu
    obtain ⟨t', ht', hR⟩ := ih (fun s t b s' hb => step s t b s' (by simp [hb])) huv hrest
    exact ⟨t', foldlM_cons_eq_ok.mpr ⟨v, hv, ht'⟩, hR⟩

theorem foldlM_distinct_eq_ok {κ : Type} {key : α → κ} {P : α → Prop}
    {step : List κ → α → Except ε (List κ)}
    (hstep : ∀ seen a next, step seen a = .ok next ↔ key a ∉ seen ∧ P a ∧ next = key a :: seen)
    {l : List α} {seen out : List κ} :
    l.foldlM step seen = .ok out ↔ (l.map key).Nodup ∧ (∀ a ∈ l, key a ∉ seen ∧ P a) ∧
        out = (l.map key).reverse ++ seen := by
  induction l generalizing seen with
  | nil => simp [pure, Except.pure, eq_comm]
  | cons a l ih =>
    rw [foldlM_cons_eq_ok]
    simp only [hstep, ih, map_cons, nodup_cons, mem_map, forall_mem_cons,
      reverse_cons, append_assoc, singleton_append]
    constructor
    · rintro ⟨next, ⟨hnew, hP, rfl⟩, hnodup, hrest, hout⟩
      refine ⟨⟨?_, hnodup⟩, ⟨⟨hnew, hP⟩, ?_⟩, hout⟩
      · rintro ⟨b, hb, hkey⟩
        exact (hrest b hb).1 (by simp [hkey])
      · intro b hb
        obtain ⟨hb', hPb⟩ := hrest b hb
        exact ⟨fun hmem => hb' (by simp [hmem]), hPb⟩
    · rintro ⟨⟨hfresh, hnodup⟩, ⟨⟨hnew, hP⟩, hrest⟩, hout⟩
      refine ⟨key a :: seen, ⟨hnew, hP, rfl⟩, hnodup, ?_, hout⟩
      intro b hb
      refine ⟨?_, (hrest b hb).2⟩
      intro hmem
      rcases mem_cons.mp hmem with hkey | hmem
      · exact hfresh ⟨b, hb, hkey⟩
      · exact (hrest b hb).1 hmem

end Folds

end CarlAgent.Foundation
