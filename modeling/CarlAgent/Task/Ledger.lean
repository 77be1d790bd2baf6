import CarlAgent.Task.Effect
import CarlAgent.Task.Checkpoint

/-!
# The operation ledger

What every replay of the operation events keeps for an operation: its status,
the sequence of its last transition and its evidence.  The reducer's snapshot
and the checkpoint builder's map are two concrete forms of the ledger, and
each of their steps is a step of the ledger.
-/

namespace CarlAgent.Task

open Foundation TaskSnapshot

variable {sequence first last : Nat} {operations : OperationBuildMap}
  {state : TaskSnapshot}

structure OperationCell where
  status : OperationStatus
  lastTransitionSequence : Nat
  evidence : OperationEvidenceState
  deriving DecidableEq

namespace OperationCell

def intent (sequence : Nat) : OperationCell :=
  ⟨.intentRecorded, sequence, .default⟩

def transition (cell : OperationCell) (sequence : Nat) (source target : OperationStatus)
    (evidenceSequences : List Nat) : Except OperationEvidenceError OperationCell :=
  (cell.evidence.transition cell.status source target
    cell.lastTransitionSequence sequence evidenceSequences).map
      fun evidence => ⟨target, sequence, evidence⟩

def record (cell : OperationCell) (sequence : Nat) : Except OperationEvidenceError OperationCell :=
  (cell.evidence.record cell.status cell.lastTransitionSequence sequence).map
    fun evidence => { cell with evidence }

end OperationCell

def isOperationEvent : TaskEvent → Bool
  | .operationIntentRecorded _ _ _ _ _ => true
  | .operationTransitioned _ _ _ _ => true
  | .operationEvidenceRecorded _ _ => true
  | _ => false

abbrev Ledger := OperationId → Option OperationCell

namespace Ledger

def empty : Ledger := fun _ => none

def set (ledger : Ledger) (operationId : OperationId) (cell : OperationCell) : Ledger :=
  Function.update ledger operationId (some cell)

/-- The part of a replay step that all replays share. -/
inductive Step (ledger : Ledger) (sequence : Nat) : TaskEvent → Ledger → Prop
  | intent {operationId : OperationId} {epochId : EpochId} {itemId : String}
    {effectClass : EffectClass} {requestDigest : String}
    (hnew : ledger operationId = none) :
    Step ledger sequence
      (.operationIntentRecorded operationId epochId itemId effectClass requestDigest)
      (ledger.set operationId (.intent sequence))
  | transition {operationId : OperationId} {source target : OperationStatus}
    {evidenceSequences : List Nat} {cell next : OperationCell}
    (hcell : ledger operationId = some cell)
    (hnext : cell.transition sequence source target evidenceSequences = .ok next) :
    Step ledger sequence (.operationTransitioned operationId source target evidenceSequences)
      (ledger.set operationId next)
  | record {operationId : OperationId} {resultDigest : String} {cell next : OperationCell}
    (hcell : ledger operationId = some cell)
    (hnext : cell.record sequence = .ok next) :
    Step ledger sequence (.operationEvidenceRecorded operationId resultDigest)
      (ledger.set operationId next)
  | skip {event : TaskEvent} (hevent : isOperationEvent event = false) :
    Step ledger sequence event ledger

theorem Step.unique {ledger left right : Ledger} {event : TaskEvent}
    (hleft : Step ledger sequence event left)
    (hright : Step ledger sequence event right) : left = right := by
  cases hleft with
  | intent hnew =>
    cases hright with
    | intent _ => rfl
    | skip hevent => simp [isOperationEvent] at hevent
  | transition hcell hnext =>
    cases hright with
    | transition hcell' hnext' =>
      obtain rfl := Option.some.inj (hcell.symm.trans hcell')
      obtain rfl := Except.ok.inj (hnext.symm.trans hnext')
      rfl
    | skip hevent => simp [isOperationEvent] at hevent
  | record hcell hnext =>
    cases hright with
    | record hcell' hnext' =>
      obtain rfl := Option.some.inj (hcell.symm.trans hcell')
      obtain rfl := Except.ok.inj (hnext.symm.trans hnext')
      rfl
    | skip hevent => simp [isOperationEvent] at hevent
  | skip hevent =>
    cases hright with
    | skip _ => rfl
    | _ => simp [isOperationEvent] at hevent

end Ledger

def OperationSnapshot.cell (operation : OperationSnapshot) : OperationCell :=
  ⟨operation.status, operation.lastTransitionSequence, operation.evidence⟩

def TaskSnapshot.ledger (state : TaskSnapshot) : Ledger :=
  fun operationId => (state.operations.find? operationId).map (·.cell)

theorem TaskSnapshot.ledger_setOperation (state : TaskSnapshot) (operationId : OperationId)
    (operation : OperationSnapshot) : (state.setOperation operationId operation).ledger =
      state.ledger.set operationId operation.cell :=
  OrderedMap.map_find?_insert _ _ _ _

variable {operationId : OperationId} {next : OperationBuildMap}

private theorem ledger_setOperation_of_cell {operation changed : OperationSnapshot}
    (hfind : state.operations.find? operationId = some operation)
    (hcell : changed.cell = operation.cell) :
    (state.setOperation operationId changed).ledger = state.ledger := by
  rw [ledger_setOperation, hcell, Ledger.set]
  refine Function.update_eq_self_iff.mpr ?_
  simp [ledger, hfind]

variable {event : TaskEvent}

theorem Effect.ledger_step {next : TaskSnapshot} (h : Effect state sequence event next) :
    Ledger.Step state.ledger sequence event next.ledger := by
  cases h with
  | operationIntentRecorded hepoch hnew =>
    rw [insertOperation, ledger_setOperation]
    exact .intent (by simp [ledger, hnew])
  | operationPostconditionBound hoperation _ _ | operationFilePostconditionBound hoperation _ _ =>
    rw [ledger_setOperation_of_cell hoperation.1]
    · exact .skip rfl
    · rfl
  | @operationTransitioned _ _ _ _ operation evidence hoperation hevidence =>
    rw [ledger_setOperation]
    refine .transition (show state.ledger _ = some operation.cell from ?_) ?_
    · simp [ledger, hoperation.1]
    · simp only [OperationCell.transition, OperationSnapshot.cell, hevidence]
      rfl
  | @operationEvidenceRecorded _ _ operation evidence hoperation hevidence =>
    rw [ledger_setOperation]
    refine .record (show state.ledger _ = some operation.cell from ?_) ?_
    · simp [ledger, hoperation.1]
    · simp only [OperationCell.record, OperationSnapshot.cell, hevidence]
      rfl
  | @epochClosed event epochId hevent _ _ =>
    refine .skip ?_
    cases event <;> simp_all [closedEpoch, isOperationEvent]
  | @recordOnly event hevent =>
    refine .skip ?_
    cases event <;> simp_all [isRecordOnly, isOperationEvent]
  | @observed event epochId hevent _ =>
    refine .skip ?_
    cases event <;> simp_all [observedEpoch, isOperationEvent]
  | _ => exact .skip rfl

theorem TaskStep.ledger_step {next : TaskSnapshot} (h : TaskStep state sequence event next) :
    Ledger.Step state.ledger sequence event next.ledger := by
  obtain ⟨changed, heffect, rfl⟩ := h.effect
  exact heffect.ledger_step

/-! ## The builder's map -/

def OperationBuildState.cell (operation : OperationBuildState) : OperationCell :=
  ⟨operation.checkpoint.status, operation.lastTransitionSequence, operation.evidence⟩

def buildLedger (operations : OperationBuildMap) : Ledger :=
  fun operationId => (operations.find? operationId).map (·.cell)

theorem buildLedger_insert (operations : OperationBuildMap) (operationId : OperationId)
    (operation : OperationBuildState) : buildLedger (operations.insert operationId operation) =
      (buildLedger operations).set operationId operation.cell :=
  OrderedMap.map_find?_insert _ _ _ _

/-- The evidence that a transition cites lies in the source range and before
the transition. -/
def EvidenceInRange (first last sequence : Nat) : TaskEvent → Prop
  | .operationTransitioned _ _ _ evidenceSequences =>
    ∀ cited ∈ evidenceSequences, first ≤ cited ∧ cited ≤ last ∧ cited < sequence
  | _ => True

def resultDigestValid : TaskEvent → Bool
  | .operationEvidenceRecorded _ resultDigest =>
    Text.isLowercaseSha256 resultDigest
  | _ => true

/-- What a turn of the builder's loop requires and changes. -/
inductive BuildEffect (first last : Nat) (operations : OperationBuildMap)
    (sequence : Nat) : TaskEvent → OperationBuildMap → Prop
  | intent {operationId : OperationId} {epochId : EpochId} {itemId : String}
    {effectClass : EffectClass} {requestDigest : String}
    (hnew : operations.find? operationId = none) :
    BuildEffect first last operations sequence
      (.operationIntentRecorded operationId epochId itemId effectClass requestDigest)
      (operations.insert operationId
        ⟨⟨operationId, .intentRecorded, effectClass, requestDigest, []⟩, sequence, .default⟩)
  | transition {operationId : OperationId} {source target : OperationStatus}
    {evidenceSequences : List Nat} {operation : OperationBuildState}
    {evidence : OperationEvidenceState}
    (hfind : operations.find? operationId = some operation)
    (hrange : EvidenceInRange first last sequence
      (.operationTransitioned operationId source target evidenceSequences))
    (hevidence : operation.evidence.transition operation.checkpoint.status source target
      operation.lastTransitionSequence sequence evidenceSequences = .ok evidence) :
    BuildEffect first last operations sequence
      (.operationTransitioned operationId source target evidenceSequences)
      (operations.insert operationId
        { checkpoint :=
            { operation.checkpoint with
              status := target, evidenceSequences := evidence.consumedSequences }
          lastTransitionSequence := sequence
          evidence := evidence })
  | record {operationId : OperationId} {resultDigest : String}
    {operation : OperationBuildState} {evidence : OperationEvidenceState}
    (hfind : operations.find? operationId = some operation)
    (hdigest : Text.isLowercaseSha256 resultDigest = true)
    (hevidence : operation.evidence.record operation.checkpoint.status
      operation.lastTransitionSequence sequence = .ok evidence) :
    BuildEffect first last operations sequence
      (.operationEvidenceRecorded operationId resultDigest)
      (operations.insert operationId { operation with evidence })
  | skip {event : TaskEvent} (hevent : isOperationEvent event = false) :
    BuildEffect first last operations sequence event operations

theorem validateDigest_eq_ok {value : String} {u : Unit} :
    validateDigest value = .ok u ↔ Text.isLowercaseSha256 value = true := by
  simp [validateDigest]

private theorem rejectIf_range {evidenceSequences : List Nat} {source target : OperationStatus} :
    (¬ ∃ cited ∈ evidenceSequences, cited < first ∨ cited > last ∨ cited ≥ sequence) ↔
      EvidenceInRange first last sequence
        (.operationTransitioned operationId source target evidenceSequences) := by
  simp only [EvidenceInRange, not_exists, not_and, not_or, not_lt, gt_iff_lt, ge_iff_le, not_le]

theorem buildOperation_eq_ok {envelope : EventEnvelope} :
    buildOperation first last operations envelope = .ok next ↔
      ∃ taskId event, envelope.event = .taskLifecycle taskId event ∧
        BuildEffect first last operations envelope.sequence event next := by
  simp only [buildOperation]
  cases hevent : envelope.event with
  | other => simp
  | taskLifecycle taskId event =>
    simp only [Event.taskLifecycle.injEq, exists_eq_left', existsAndEq, and_true]
    constructor
    · intro h
      cases event <;> simp only [ok_iff, validateDigest_eq_ok, Bool.not_eq_true,
                        Option.isSome_eq_false_iff, Option.isNone_iff_eq_none] at h
      case operationIntentRecorded =>
        obtain ⟨hnew, rfl⟩ := h
        exact .intent hnew
      case operationTransitioned =>
        obtain ⟨operation, hfind, hrange, evidence, hevidence, rfl⟩ := h
        exact .transition hfind (rejectIf_range.mp hrange) hevidence
      case operationEvidenceRecorded =>
        obtain ⟨hdigest, operation, hfind, evidence, hevidence, rfl⟩ := h
        exact .record hfind hdigest hevidence
      all_goals
        subst h
        exact .skip rfl
    · intro h
      cases h with
      | intent hnew => simp [bind_eq_ok, hnew]
      | transition hfind hrange hevidence =>
        simp only [ok_iff]
        exact ⟨_, hfind, rejectIf_range.mpr hrange, _, hevidence, rfl⟩
      | record hfind hdigest hevidence =>
        simp only [ok_iff, validateDigest_eq_ok]
        exact ⟨hdigest, _, hfind, _, hevidence, rfl⟩
      | skip hskip => cases event <;> simp_all [isOperationEvent]

theorem BuildEffect.ledger_step (h : BuildEffect first last operations sequence event next) :
    Ledger.Step (buildLedger operations) sequence event (buildLedger next) := by
  cases h with
  | intent hnew =>
    rw [buildLedger_insert]
    exact .intent (by simp [buildLedger, hnew])
  | @transition _ _ _ _ operation _ hfind _ hevidence =>
    rw [buildLedger_insert]
    refine .transition (show buildLedger operations _ = some operation.cell from ?_) ?_
    · simp [buildLedger, hfind]
    · simp only [OperationCell.transition, OperationBuildState.cell, hevidence]
      rfl
  | @record _ _ operation _ hfind _ hevidence =>
    rw [buildLedger_insert]
    refine .record (show buildLedger operations _ = some operation.cell from ?_) ?_
    · simp [buildLedger, hfind]
    · simp only [OperationCell.record, OperationBuildState.cell, hevidence]
      rfl
  | skip hevent => exact .skip hevent

theorem BuildEffect.iff_ledger_step :
    (∃ next, BuildEffect first last operations sequence event next) ↔
      (∃ ledger, Ledger.Step (buildLedger operations) sequence event ledger) ∧
        EvidenceInRange first last sequence event ∧
        resultDigestValid event = true := by
  constructor
  · rintro ⟨next, h⟩
    refine ⟨⟨_, h.ledger_step⟩, ?_⟩
    cases h with
    | intent _ => exact ⟨trivial, rfl⟩
    | transition _ hrange _ => exact ⟨hrange, rfl⟩
    | record _ hdigest _ => exact ⟨trivial, hdigest⟩
    | skip hevent =>
      cases event <;> simp_all [isOperationEvent, EvidenceInRange, resultDigestValid]
  · rintro ⟨⟨ledger, hstep⟩, hrange, hdigest⟩
    cases hstep with
    | intent hnew =>
      exact ⟨_, .intent (by simpa [buildLedger] using hnew)⟩
    | transition hcell hnext =>
      obtain ⟨operation, hfind, rfl⟩ := Option.map_eq_some_iff.mp hcell
      obtain ⟨evidence, hevidence, -⟩ := map_eq_ok_iff.mp hnext
      exact ⟨_, .transition hfind hrange hevidence⟩
    | record hcell hnext =>
      obtain ⟨operation, hfind, rfl⟩ := Option.map_eq_some_iff.mp hcell
      obtain ⟨evidence, hevidence, -⟩ := map_eq_ok_iff.mp hnext
      exact ⟨_, .record hfind hdigest hevidence⟩
    | skip hevent => exact ⟨_, .skip hevent⟩

end CarlAgent.Task
