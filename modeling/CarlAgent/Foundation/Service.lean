import Mathlib.Data.List.Basic

/-!
# Services

A service keeps a state and answers calls.  Callers that take turns form one
list of calls, whatever their number; the log of such a list pairs each call
with its answer and with the states around it.
-/

namespace CarlAgent.Foundation

/-- Run the body of a transaction: an error leaves the state as it was. -/
def transact {σ ε α : Type} (body : σ → Except ε (σ × α)) (state : σ) : σ × Except ε α :=
  match body state with
  | .ok (next, answer) => (next, .ok answer)
  | .error error => (state, .error error)

section Transact

variable {σ ε α : Type} {body : σ → Except ε (σ × α)} {state next : σ}
  {answer : α}

theorem transact_of_ok (h : body state = .ok (next, answer)) :
    transact body state = (next, .ok answer) := by
  simp [transact, h]

theorem transact_of_error {error : ε} (h : body state = .error error) :
    transact body state = (state, .error error) := by
  simp [transact, h]

theorem transact_answer_eq_ok :
    (transact body state).2 = .ok answer ↔ ∃ next, body state = .ok (next, answer) := by
  cases h : body state with
  | ok result => simp [transact, h, Prod.ext_iff]
  | error error => simp [transact, h]

theorem transact_cases (body : σ → Except ε (σ × α)) (state : σ) :
    (∃ next answer, body state = .ok (next, answer) ∧
      transact body state = (next, .ok answer)) ∨
    ∃ error, body state = .error error ∧ transact body state = (state, .error error) := by
  cases h : body state with
  | ok result =>
    left
    exact ⟨result.1, result.2, rfl, transact_of_ok h⟩
  | error error =>
    right
    exact ⟨error, rfl, transact_of_error h⟩

end Transact

structure Service (σ κ α : Type) where
  step : σ → κ → σ × α

namespace Service

structure Entry (σ κ α : Type) where
  before : σ
  call : κ
  answer : α
  after : σ

variable {σ κ α : Type}

def serve (service : Service σ κ α) (state : σ) (call : κ) : Entry σ κ α :=
  ⟨state, call, (service.step state call).2, (service.step state call).1⟩

def run (service : Service σ κ α) (state : σ) : List κ → σ
  | [] => state
  | call :: calls => service.run (service.step state call).1 calls

def log (service : Service σ κ α) (state : σ) : List κ → List (Entry σ κ α)
  | [] => []
  | call :: calls =>
    service.serve state call :: service.log (service.step state call).1 calls

variable {service : Service σ κ α} {state : σ} {calls : List κ}

theorem run_append (before after : List κ) : service.run state (before ++ after) =
      service.run (service.run state before) after := by
  induction before generalizing state with
  | nil => rfl
  | cons call before ih => exact ih

variable {P : σ → Prop} {event : Entry σ κ α → Bool} {guard : σ → κ → Prop}

theorem run_invariant (step : ∀ state call, P state → P (service.step state call).1)
    (h : P state) : P (service.run state calls) := by
  induction calls generalizing state with
  | nil => exact h
  | cons call calls ih => exact ih (step state call h)

/-- The entries of a log are the calls, each served in the state that the
calls before it lead to. -/
theorem mem_log {entry : Entry σ κ α} : entry ∈ service.log state calls ↔
      ∃ before call after, calls = before ++ call :: after ∧
        entry = service.serve (service.run state before) call := by
  induction calls generalizing state with
  | nil => simp [log]
  | cons first calls ih =>
    simp only [log, List.mem_cons, ih]
    constructor
    · rintro (rfl | ⟨before, call, after, rfl, rfl⟩)
      · exact ⟨[], first, calls, rfl, rfl⟩
      · exact ⟨first :: before, call, after, rfl, rfl⟩
    · rintro ⟨before, call, after, hcalls, rfl⟩
      cases before with
      | nil =>
        cases hcalls
        exact .inl rfl
      | cons head before =>
        cases hcalls
        exact .inr ⟨before, call, after, rfl, rfl⟩

/-- No entry of a log meets `event` when none that starts in a state with
`P` does. -/
theorem countP_log_eq_zero (step : ∀ state call, P state → P (service.step state call).1)
    (never : ∀ state call, P state → event (service.serve state call) = false)
    (h : P state) : (service.log state calls).countP event = 0 := by
  induction calls generalizing state with
  | nil => rfl
  | cons call calls ih =>
    rw [log, List.countP_cons, ih (step state call h), never state call h]
    rfl

/-- An event that leads to a state it never starts from happens once. -/
theorem countP_log_le_one {P U : σ → Prop}
    (step : ∀ state call, P state → P (service.step state call).1)
    (closes : ∀ state call, P state → event (service.serve state call) = true →
      U (service.step state call).1)
    (stays : ∀ state call, P state → U state → U (service.step state call).1)
    (never : ∀ state call, P state → U state → event (service.serve state call) = false)
    (h : P state) : (service.log state calls).countP event ≤ 1 := by
  induction calls generalizing state with
  | nil => simp [log]
  | cons call calls ih =>
    have hnext := step state call h
    rw [log, List.countP_cons]
    cases hevent : event (service.serve state call) with
    | false => simpa using ih hnext
    | true =>
      have hzero : (service.log (service.step state call).1 calls).countP event = 0 := by
        refine countP_log_eq_zero (P := fun state => P state ∧ U state)
          ?_ ?_ ⟨hnext, closes state call h hevent⟩
        · intro state call hstate
          exact ⟨step state call hstate.1, stays state call hstate.1 hstate.2⟩
        · intro state call hstate
          exact never state call hstate.1 hstate.2
      simp [hzero]

/-- What entries spend, earlier entries gained or the state held. -/
theorem countP_log_balance {spends gains : Entry σ κ α → Bool} {held : σ → Nat}
    (step : ∀ state call, (spends (service.serve state call)).toNat +
          held (service.step state call).1 ≤
        (gains (service.serve state call)).toNat + held state) :
    (service.log state calls).countP spends + held (service.run state calls) ≤
      (service.log state calls).countP gains + held state := by
  induction calls generalizing state with
  | nil => simp [log, run]
  | cons call calls ih =>
    have hfirst := step state call
    have hrest := @ih (service.step state call).1
    rw [log, run, List.countP_cons, List.countP_cons]
    have htoNat : ∀ b : Bool, b.toNat = if b then 1 else 0 := by decide
    simp only [htoNat] at hfirst
    omega

/-- Each call meets `guard` in the state it is served in. -/
def Meets (service : Service σ κ α) (guard : σ → κ → Prop) (state : σ) : List κ → Prop
  | [] => True
  | call :: calls =>
    guard state call ∧ service.Meets guard (service.step state call).1 calls

instance decidableMeets {guard : σ → κ → Prop}
    [∀ state call, Decidable (guard state call)] (state : σ)
    (calls : List κ) : Decidable (service.Meets guard state calls) :=
  match calls with
  | [] => .isTrue trivial
  | call :: calls =>
    have : Decidable (service.Meets guard (service.step state call).1 calls) :=
      decidableMeets (service.step state call).1 calls
    inferInstanceAs (Decidable (_ ∧ _))

theorem meets_append {before after : List κ} :
    service.Meets guard state (before ++ after) ↔ service.Meets guard state before ∧
        service.Meets guard (service.run state before) after := by
  induction before generalizing state with
  | nil => simp [Meets, run]
  | cons call before ih =>
    simp only [List.cons_append, Meets, run, ih, and_assoc]

theorem run_invariant_of_meets
    (step : ∀ state call, P state → guard state call → P (service.step state call).1) (h : P state)
    (hmeets : service.Meets guard state calls) : P (service.run state calls) := by
  induction calls generalizing state with
  | nil => exact h
  | cons call calls ih =>
    exact ih (step state call h hmeets.1) hmeets.2

end Service

end CarlAgent.Foundation
