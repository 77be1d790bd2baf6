import CarlAgent.Task.Effect

/-!
# The life of an operation

An operation that has not ended belongs to the active epoch, an ended
operation keeps its status, and a task that has ended takes no event.
-/

namespace CarlAgent.Task

open Foundation

/-- The intent is recorded or the effect has started, without an outcome. -/
def OperationStatus.isInFlight (status : OperationStatus) : Bool :=
  decide (status = .intentRecorded ∨ status = .started)

def TaskSnapshot.InFlightInEpoch (state : TaskSnapshot) : Prop :=
  ∀ operationId operation, state.operations.find? operationId = some operation →
      operation.status.isInFlight = true →
      state.activeEpoch = some operation.epochId

theorem hasInFlightOperations_eq_false {state : TaskSnapshot} :
    state.hasInFlightOperations = false ↔ ∀ operationId operation,
        state.operations.find? operationId = some operation → operation.status.isInFlight = false :=
  OrderedMap.any_values_eq_false

/-- Operations with such a status belong to the active epoch. -/
def TaskSnapshot.InEpoch (p : OperationStatus → Bool) (state : TaskSnapshot) : Prop :=
  ∀ operationId operation, state.operations.find? operationId = some operation →
      p operation.status = true → state.activeEpoch = some operation.epochId

section InEpoch

variable {p : OperationStatus → Bool} {state next : TaskSnapshot}

theorem TaskSnapshot.InEpoch.none_of_idle (h : state.InEpoch p) (hidle : state.activeEpoch = none) :
    ∀ operationId operation, state.operations.find? operationId = some operation →
        p operation.status = false := by
  intro operationId operation hfind
  cases hstatus : p operation.status with
  | false => rfl
  | true =>
    have hepoch := h operationId operation hfind hstatus
    rw [hidle] at hepoch
    cases hepoch

theorem TaskSnapshot.InEpoch.of_none
    (hnone : ∀ operationId operation, state.operations.find? operationId = some operation →
        p operation.status = false)
    (hoperations : next.operations = state.operations) : next.InEpoch p := by
  intro operationId operation hfind hstatus
  rw [hoperations] at hfind
  rw [hnone operationId operation hfind] at hstatus
  cases hstatus

end InEpoch

/-- The operation later on: in its epoch, and with its outcome if it had one. -/
structure OperationSnapshot.Continues (operation later : OperationSnapshot) : Prop where
  epoch : later.epochId = operation.epochId
  outcome : operation.status.isResolved = true → later.status = operation.status

theorem OperationSnapshot.Continues.refl (operation : OperationSnapshot) :
    operation.Continues operation :=
  ⟨rfl, fun _ => rfl⟩

theorem OperationSnapshot.Continues.trans {first second third : OperationSnapshot}
    (h₁ : first.Continues second) (h₂ : second.Continues third) : first.Continues third := by
  refine ⟨h₂.epoch.trans h₁.epoch, ?_⟩
  intro hresolved
  have hsecond := h₁.outcome hresolved
  have hthird := h₂.outcome (hsecond ▸ hresolved)
  exact hthird.trans hsecond

/-- An event leaves the operations alone, records a new one in the active
epoch, or moves one of the active epoch on. -/
inductive OperationsChange (state next : TaskSnapshot) : Prop
  | same (h : next.operations = state.operations)
  | recorded {operationId : OperationId} {operation : OperationSnapshot}
    (hnew : state.operations.find? operationId = none)
    (hepoch : state.activeEpoch = some operation.epochId)
    (h : next.operations = state.operations.insert operationId operation)
    (hactive : next.activeEpoch = state.activeEpoch)
  | moved {operationId : OperationId} {operation later : OperationSnapshot}
    (hoperation : ActiveOperation state operationId operation)
    (h : next.operations = state.operations.insert operationId later)
    (hlater : operation.Continues later)
    (hactive : next.activeEpoch = state.activeEpoch)

variable {sequence : Nat} {event : TaskEvent}

variable {state next : TaskSnapshot}

theorem Effect.operationsChange
    (h : Effect state sequence event next) : OperationsChange state next := by
  cases h with
  | operationIntentRecorded hepoch hnew => exact .recorded hnew hepoch rfl rfl
  | operationPostconditionBound hoperation hstatus hunbound
  | operationFilePostconditionBound hoperation hstatus hunbound
  | operationEvidenceRecorded hoperation hevidence =>
    exact .moved hoperation rfl ⟨rfl, fun _ => rfl⟩ rfl
  | operationTransitioned hoperation hevidence =>
    obtain ⟨hstatus, hedge, -⟩ := OperationEvidenceState.transition_eq_ok.mp hevidence
    have hopen := not_isResolved_of_legalOperationEdge hedge
    refine .moved hoperation rfl ⟨rfl, ?_⟩ rfl
    intro hresolved
    rw [hstatus, hopen] at hresolved
    cases hresolved
  | _ => exact .same rfl

theorem TaskStep.operationsChange
    (h : TaskStep state sequence event next) : OperationsChange state next := by
  obtain ⟨changed, heffect, rfl⟩ := h.effect
  cases heffect.operationsChange with
  | same h => exact .same h
  | recorded hnew hepoch h hactive => exact .recorded hnew hepoch h hactive
  | moved hoperation h hlater hactive =>
    exact .moved hoperation h hlater hactive

theorem OperationsChange.continues (h : OperationsChange state next) {operationId : OperationId}
    {operation : OperationSnapshot} (hfind : state.operations.find? operationId = some operation) :
    ∃ later, next.operations.find? operationId = some later ∧ operation.Continues later := by
  cases h with
  | same h => exact ⟨operation, by rw [h, hfind], .refl operation⟩
  | @recorded newId new hnew hepoch h hactive =>
    have hne : operationId ≠ newId := by
      rintro rfl
      rw [hnew] at hfind
      cases hfind
    refine ⟨operation, ?_, .refl operation⟩
    rw [h, OrderedMap.find?_insert_of_ne _ _ hne, hfind]
  | @moved movedId moved later hoperation h hlater hactive =>
    rw [h, OrderedMap.find?_insert]
    by_cases hid : operationId = movedId
    · subst hid
      have hsame : moved = operation := by
        simpa [hoperation.1] using hfind
      subst hsame
      exact ⟨later, by simp, hlater⟩
    · exact ⟨operation, by simp [hid, hfind], .refl operation⟩

/-! ## The active epoch -/

inductive EpochChange (state next : TaskSnapshot) : Prop
  | same (h : next.activeEpoch = state.activeEpoch)
  | started (hidle : state.activeEpoch = none) (h : next.operations = state.operations)
  | closed (hflight : state.hasInFlightOperations = false) (h : next.operations = state.operations)

theorem TaskStep.epochChange (h : TaskStep state sequence event next) : EpochChange state next := by
  obtain ⟨changed, heffect, rfl⟩ := h.effect
  cases heffect with
  | epochStarted hidle hactive hpending => exact .started hidle rfl
  | epochClosed hevent hepoch hflight => exact .closed hflight rfl
  | _ => exact .same rfl

theorem OperationsChange.inEpoch {p : OperationStatus → Bool}
    (hchange : OperationsChange state next) (hactive : next.activeEpoch = state.activeEpoch)
    (h : state.InEpoch p) : next.InEpoch p := by
  intro operationId operation hfind hin
  rw [hactive]
  cases hchange with
  | same hsame =>
    rw [hsame] at hfind
    exact h operationId operation hfind hin
  | @recorded newId new hnew hepoch hinsert _ =>
    rw [hinsert, OrderedMap.find?_insert] at hfind
    by_cases hid : operationId = newId
    · have hsame : new = operation := by simpa [hid] using hfind
      rw [hepoch, hsame]
    · exact h operationId operation (by simpa [hid] using hfind) hin
  | @moved movedId moved later hoperation hinsert hlater _ =>
    rw [hinsert, OrderedMap.find?_insert] at hfind
    by_cases hid : operationId = movedId
    · have hsame : later = operation := by simpa [hid] using hfind
      rw [hoperation.2, ← hsame, hlater.epoch]
    · exact h operationId operation (by simpa [hid] using hfind) hin

theorem TaskStep.inFlightInEpoch (hstep : TaskStep state sequence event next)
    (h : state.InFlightInEpoch) : next.InFlightInEpoch := by
  have hin : state.InEpoch OperationStatus.isInFlight := h
  have hnext : next.InEpoch OperationStatus.isInFlight := by
    cases hstep.epochChange with
    | started hidle hsame => exact .of_none (hin.none_of_idle hidle) hsame
    | closed hflight hsame =>
      exact .of_none (hasInFlightOperations_eq_false.mp hflight) hsame
    | same hactive => exact hstep.operationsChange.inEpoch hactive hin
  exact hnext

theorem reduced_inFlightInEpoch {events : List EventEnvelope} {snapshot : TaskSnapshot}
    (haccepted : reduceJournal events = .ok (some snapshot)) : snapshot.InFlightInEpoch := by
  induction haccepted using reduceJournal_induction with
  | create envelope created hreduce =>
    obtain ⟨_, _, _, _, _, _, _, _, _, rfl⟩ := reduceTask_none_iff.mp hreduce
    intro operationId operation hfind
    simp [TaskSnapshot.created] at hfind
  | step events state envelope next _ ih hreduce =>
    obtain ⟨event, -, -, hstep⟩ := reduceTask_some_iff.mp hreduce
    exact hstep.inFlightInEpoch ih

theorem reduceTask_of_isTerminal {envelope : EventEnvelope}
    (hterminal : state.status.isTerminal = true) : reduceTask (some state) envelope ≠ .ok next := by
  intro hreduce
  obtain ⟨_, _, _, hstep⟩ := reduceTask_some_iff.mp hreduce
  have hrunning := hstep.running
  rw [hterminal] at hrunning
  cases hrunning

/-- A journal that goes on: what the snapshot on the way has in the end. -/
theorem reduceJournal_append_induction {before after : List EventEnvelope}
    {earlier later : TaskSnapshot} {P : TaskSnapshot → Prop}
    (hearlier : reduceJournal before = .ok (some earlier))
    (hlater : reduceJournal (before ++ after) = .ok (some later)) (hstart : P earlier)
    (hstep : ∀ state (envelope : EventEnvelope) event next,
      TaskStep state envelope.sequence event next → P state → P next) : P later := by
  induction after using List.reverseRecOn generalizing later with
  | nil =>
    rw [List.append_nil, hearlier] at hlater
    cases hlater
    exact hstart
  | append_singleton after envelope ih =>
    rw [← List.append_assoc] at hlater
    obtain ⟨state, hstate, hreduce⟩ := reduceJournal_concat.mp hlater
    cases state with
    | none =>
      have hnil := reduceJournal_eq_none hstate
      rw [List.append_eq_nil_iff] at hnil
      rw [hnil.1] at hearlier
      cases hearlier
    | some state =>
      obtain ⟨event, -, -, htask⟩ := reduceTask_some_iff.mp hreduce
      exact hstep state envelope event later htask (ih hstate)

/-- Operations run in the active epoch only, a resolved one keeps its status, and nothing follows
the end of a task. -/
theorem operations_keep_their_life {before after : List EventEnvelope}
    {earlier later : TaskSnapshot} (hearlier : reduceJournal before = .ok (some earlier))
    (hlater : reduceJournal (before ++ after) = .ok (some later)) :
    (later.InFlightInEpoch ∧
      (later.activeEpoch = none → later.hasInFlightOperations = false)) ∧
    (∀ operationId operation, earlier.operations.find? operationId = some operation →
        ∃ current, later.operations.find? operationId = some current ∧
          current.epochId = operation.epochId ∧
          (operation.status.isResolved = true →
            current.status = operation.status)) ∧
    (earlier.status.isTerminal = true → after = []) ∧
    (later.status.isTerminal = true → ∀ envelope next,
      reduceTask (some later) envelope ≠ .ok next) := by
  have hflight : later.InEpoch OperationStatus.isInFlight := reduced_inFlightInEpoch hlater
  refine ⟨⟨hflight, ?_⟩, ?_, ?_, ?_⟩
  · intro hidle
    exact hasInFlightOperations_eq_false.mpr (hflight.none_of_idle hidle)
  · intro operationId operation hfind
    obtain ⟨current, hcurrent, hcontinues⟩ := reduceJournal_append_induction
      (P := fun state => ∃ current, state.operations.find? operationId = some current ∧
          operation.Continues current) hearlier hlater
      ⟨operation, hfind, .refl operation⟩ (by
        rintro state envelope event next htask ⟨current, hcurrent, hcontinues⟩
        obtain ⟨moved, hmoved, hmove⟩ := htask.operationsChange.continues hcurrent
        exact ⟨moved, hmoved, hcontinues.trans hmove⟩)
    exact ⟨current, hcurrent, hcontinues.epoch, hcontinues.outcome⟩
  · intro hterminal
    cases after with
    | nil => rfl
    | cons envelope after =>
      rw [List.append_cons] at hlater
      obtain ⟨state, hnext⟩ := reduceJournal_of_append hlater
      cases state with
      | none => exact absurd hnext reduceJournal_concat_ne_none
      | some next =>
        obtain ⟨state, hstate, hreduce⟩ := reduceJournal_concat.mp hnext
        rw [hearlier] at hstate
        cases hstate
        exact absurd hreduce (reduceTask_of_isTerminal hterminal)
  · intro hterminal envelope next
    exact reduceTask_of_isTerminal hterminal

namespace Sample

def operationLife : List EventEnvelope :=
  envelopes 1 (evidencedEvents [] "d" ++
    [.operationTransitioned operationId .started .succeeded [6]])

def cancellation : List EventEnvelope :=
  envelopes 8 [.epochFinished epochId "d", .cancellationRequested,
      .stateTransitioned .cancelling .cancelled "r"]

end Sample

theorem sample_operation_keeps_its_life : ∃ earlier later,
      reduceJournal Sample.operationLife = .ok (some earlier) ∧
      reduceJournal (Sample.operationLife ++ Sample.cancellation) = .ok (some later) ∧
      earlier.operationStatus Sample.operationId = some .succeeded ∧
      later.status.isTerminal = true ∧
      later.InFlightInEpoch ∧
      ∀ envelope next, reduceTask (some later) envelope ≠ .ok next := by
  refine ⟨_, _, rfl, rfl, rfl, rfl, ?_⟩
  have hlife := @operations_keep_their_life Sample.operationLife Sample.cancellation _ _ rfl rfl
  exact ⟨hlife.1.1, hlife.2.2.2 rfl⟩

end CarlAgent.Task
