import Mathlib.Tactic.Common

/-!
# Programs that fail or are stopped

A program reads the answers of its environment and changes a state.  It keeps
the changes also when it fails, and it may be stopped for good at any call.
-/

namespace CarlAgent.Foundation

inductive Outcome (ε α : Type) where
  | returned (value : α)
  | failed (error : ε)
  | stopped

structure Program (ρ σ ε α : Type) where
  run : ρ → σ → Outcome ε α × σ

namespace Program

variable {ρ σ ε α β : Type}

instance : Monad (Program ρ σ ε) where
  pure a := ⟨fun _ s => (.returned a, s)⟩
  bind m f := ⟨fun r s =>
    match m.run r s with
    | (.returned a, next) => (f a).run r next
    | (.failed e, next) => (.failed e, next)
    | (.stopped, next) => (.stopped, next)⟩

def fail (error : ε) : Program ρ σ ε α :=
  ⟨fun _ s => (.failed error, s)⟩

def read (view : σ → α) : Program ρ σ ε α :=
  ⟨fun _ s => (.returned (view s), s)⟩

def update (change : σ → σ) : Program ρ σ ε Unit :=
  ⟨fun _ s => (.returned (), change s)⟩

def attempt (m : Program ρ σ ε α) : Program ρ σ ε (Except ε α) :=
  ⟨fun r s =>
    match m.run r s with
    | (.returned a, next) => (.returned (.ok a), next)
    | (.failed e, next) => (.returned (.error e), next)
    | (.stopped, next) => (.stopped, next)⟩

theorem run_bind (m : Program ρ σ ε α) (f : α → Program ρ σ ε β) (r : ρ) (s : σ) :
    (m >>= f).run r s =
      match m.run r s with
      | (.returned a, next) => (f a).run r next
      | (.failed e, next) => (.failed e, next)
      | (.stopped, next) => (.stopped, next) :=
  rfl

variable {P : σ → Prop} {Q : α → σ → Prop} {T : β → σ → Prop} {E : σ → Prop}

/-- From a state with `P`, the program returns with `Q`, fails with `F` or is
stopped with `S`. -/
def Settles (P : σ → Prop) (m : Program ρ σ ε α) (Q : α → σ → Prop)
    (F : ε → σ → Prop) (S : σ → Prop) : Prop :=
  ∀ r s, P s →
    match m.run r s with
    | (.returned a, next) => Q a next
    | (.failed e, next) => F e next
    | (.stopped, next) => S next

variable {F : ε → σ → Prop} {S : σ → Prop}

theorem Settles.pure {a : α} (h : ∀ s, P s → Q a s) :
    Settles P (Pure.pure a : Program ρ σ ε α) Q F S :=
  fun _ s hs => h s hs

variable {m : Program ρ σ ε α}

theorem Settles.bind {f : α → Program ρ σ ε β} (hm : Settles P m Q F S)
    (hf : ∀ a, Settles (Q a) (f a) T F S) : Settles P (m >>= f) T F S := by
  intro r s hs
  have hfirst := hm r s hs
  rw [run_bind]
  generalize m.run r s = result at hfirst
  obtain ⟨outcome, next⟩ := result
  cases outcome with
  | returned a => exact hf a r next hfirst
  | failed e => exact hfirst
  | stopped => exact hfirst

theorem Settles.fail {error : ε} (h : ∀ s, P s → F error s) :
    Settles P (Program.fail error : Program ρ σ ε α) Q F S :=
  fun _ s hs => h s hs

theorem Settles.read {view : σ → α} (h : ∀ s, P s → Q (view s) s) :
    Settles P (Program.read view : Program ρ σ ε α) Q F S :=
  fun _ s hs => h s hs

theorem Settles.update {change : σ → σ} {Q : Unit → σ → Prop} (h : ∀ s, P s → Q () (change s)) :
    Settles P (Program.update change : Program ρ σ ε Unit) Q F S :=
  fun _ s hs => h s hs

theorem Settles.attempt {Q : Except ε α → σ → Prop}
    (hm : Settles P m (fun a => Q (.ok a)) (fun e => Q (.error e)) S) :
    Settles P (Program.attempt m) Q F S := by
  intro r s hs
  have hrun := hm r s hs
  simp only [Program.attempt]
  generalize m.run r s = result at hrun
  obtain ⟨outcome, next⟩ := result
  cases outcome <;> exact hrun

theorem Settles.weaken {P' : σ → Prop} {Q' : α → σ → Prop} {F' : ε → σ → Prop} {S' : σ → Prop}
    (h : Settles P m Q F S) (hpre : ∀ s, P' s → P s) (hpost : ∀ a s, Q a s → Q' a s)
    (hfail : ∀ e s, F e s → F' e s) (hstop : ∀ s, S s → S' s) : Settles P' m Q' F' S' := by
  intro r s hs
  have hrun := h r s (hpre s hs)
  generalize m.run r s = result at hrun ⊢
  obtain ⟨outcome, next⟩ := result
  cases outcome with
  | returned a => exact hpost a next hrun
  | failed e => exact hfail e next hrun
  | stopped => exact hstop next hrun

end Program

end CarlAgent.Foundation
