import CarlAgent.Task.Reducer

/-!
# What an accepted event requires and changes

`Effect` has one constructor for each kind of change the reducer makes, with
the conditions under which it makes it.  `reduceTask_some_iff` and
`reduceTask_none_iff` are the only places where the reducer is unfolded.
-/

namespace CarlAgent.Task

open Foundation

section

variable {envelope : EventEnvelope} {sequence : Nat} {state : TaskSnapshot}
  {u : Unit}

def SafeBoundary (state : TaskSnapshot) : Prop :=
  state.activeEpoch = none ∧ state.hasUnresolvedOperations = false

def ActiveOperation (state : TaskSnapshot) (operationId : OperationId)
    (operation : OperationSnapshot) : Prop :=
  state.operations.find? operationId = some operation ∧ state.activeEpoch = some operation.epochId

/-- Events the reducer records without a condition and without a change. -/
def isRecordOnly : TaskEvent → Bool
  | .configurationQueued _ _ _ _ => true
  | .configurationApplied _ => true
  | .controlRequested _ _ => true
  | .progressAssessed _ _ => true
  | .normalizedOperationEvidenceRecorded _ _ => true
  | .compactionRequested _ _ => true
  | .backgroundProcessTerminationRecorded _ _ _ => true
  | .steeringQueued _ _ => true
  | _ => false

def observedEpoch : TaskEvent → Option EpochId
  | .usageObserved epochId _ _ => some epochId
  | .providerRequestRecorded epochId _ _ _ => some epochId
  | .providerEpochBound epochId _ => some epochId
  | _ => none

def closedEpoch : TaskEvent → Option EpochId
  | .epochFinished epochId _ => some epochId
  | .epochInterrupted epochId _ => some epochId
  | _ => none

inductive Effect (state : TaskSnapshot) (sequence : Nat) :
    TaskEvent → TaskSnapshot → Prop
  | stateTransitioned {source target : TaskStatus} {reason : String}
    (hboundary : target = .cancelled → SafeBoundary state)
    (hsource : state.status = source)
    (hedge : legalStatusEdge source target = true) :
    Effect state sequence (.stateTransitioned source target reason) { state with status := target }
  | contractRevised {contract : CompletionContract} (hvalid : contract.validate = .ok ())
    (hversion : state.contract.version < contract.version) :
    Effect state sequence (.contractRevised contract) { state with contract }
  | epochStarted {epochId : EpochId} {objective : String}
    (hidle : state.activeEpoch = none) (hactive : state.status = .active)
    (hpending : ∀ pending, state.pendingRecovery = some pending → pending.1 = epochId) :
    Effect state sequence (.epochStarted epochId objective)
      { state with activeEpoch := some epochId }
  | epochClosed {event : TaskEvent} {epochId : EpochId} (hevent : closedEpoch event = some epochId)
    (hepoch : state.activeEpoch = some epochId)
    (hflight : state.hasInFlightOperations = false) :
    Effect state sequence event { state with activeEpoch := none }
  | recordOnly {event : TaskEvent} (hevent : isRecordOnly event = true) :
    Effect state sequence event state
  | observed {event : TaskEvent} {epochId : EpochId} (hevent : observedEpoch event = some epochId)
    (hepoch : state.activeEpoch = some epochId) :
    Effect state sequence event state
  | operationIntentRecorded {operationId : OperationId} {epochId : EpochId}
    {itemId : String} {effectClass : EffectClass} {requestDigest : String}
    (hepoch : state.activeEpoch = some epochId)
    (hnew : state.operations.find? operationId = none) :
    Effect state sequence
      (.operationIntentRecorded operationId epochId itemId effectClass requestDigest)
      (state.insertOperation operationId epochId sequence)
  | operationPostconditionBound {operationId : OperationId}
    {postconditionDigest : Sha256Digest} {operation : OperationSnapshot}
    (hoperation : ActiveOperation state operationId operation)
    (hstatus : operation.status = .intentRecorded)
    (hunbound : operation.postconditionDigest = none) :
    Effect state sequence (.operationPostconditionBound operationId postconditionDigest)
      (state.setOperation operationId
        { operation with postconditionDigest := some postconditionDigest })
  | operationFilePostconditionBound {operationId : OperationId}
    {postcondition : FilePostcondition} {operation : OperationSnapshot}
    (hoperation : ActiveOperation state operationId operation)
    (hstatus : operation.status = .started)
    (hunbound : operation.filePostcondition = none) :
    Effect state sequence (.operationFilePostconditionBound operationId postcondition)
      (state.setOperation operationId { operation with filePostcondition := some postcondition })
  | operationTransitioned {operationId : OperationId}
    {source target : OperationStatus} {evidenceSequences : List Nat}
    {operation : OperationSnapshot} {evidence : OperationEvidenceState}
    (hoperation : ActiveOperation state operationId operation)
    (hevidence : operation.evidence.transition operation.status source target
      operation.lastTransitionSequence sequence evidenceSequences = .ok evidence) :
    Effect state sequence (.operationTransitioned operationId source target evidenceSequences)
      (state.setOperation operationId
        { operation with status := target, lastTransitionSequence := sequence, evidence })
  | operationEvidenceRecorded {operationId : OperationId}
    {resultDigest : String} {operation : OperationSnapshot}
    {evidence : OperationEvidenceState}
    (hoperation : ActiveOperation state operationId operation)
    (hevidence : operation.evidence.record operation.status
      operation.lastTransitionSequence sequence = .ok evidence) :
    Effect state sequence (.operationEvidenceRecorded operationId resultDigest)
      (state.setOperation operationId { operation with evidence })
  | recoveryAttemptStarted {epochId : EpochId} {strategy : RecoveryStrategy}
    {strategyFingerprint : String}
    (hstatus : state.status = .checkpointing)
    (hnone : state.pendingRecovery = none) :
    Effect state sequence (.recoveryAttemptStarted epochId strategy strategyFingerprint)
      { state with pendingRecovery := some (epochId, strategy, strategyFingerprint) }
  | recoveryAttemptRecorded {epochId : EpochId} {strategy : RecoveryStrategy}
    {strategyFingerprint : String} {outcome : RecoveryAttemptOutcome}
    (hidle : state.activeEpoch = none)
    (hpending : state.pendingRecovery = some (epochId, strategy, strategyFingerprint)) :
    Effect state sequence (.recoveryAttemptRecorded epochId strategy strategyFingerprint outcome)
      { state with pendingRecovery := none }
  | checkpointCommitted {checkpointId : CheckpointId} {digest : String}
    (hboundary : SafeBoundary state) :
    Effect state sequence (.checkpointCommitted checkpointId digest)
      { state with latestCheckpoint := some checkpointId }
  | compactionCompleted {generation : Nat} {checkpointId : CheckpointId}
    {contextPackageId : ContextPackageId}
    (hboundary : SafeBoundary state)
    (hlatest : state.latestCheckpoint = some checkpointId) :
    Effect state sequence (.compactionCompleted generation checkpointId contextPackageId) state
  | providerContextBound {contextId : String} :
    Effect state sequence (.providerContextBound contextId)
      { state with providerContext := some contextId }
  | providerContextLost {contextId reason : String}
    (hcontext : state.providerContext = some contextId) :
    Effect state sequence (.providerContextLost contextId reason)
      { state with providerContext := none }
  | cancellationRequested (hedge : legalStatusEdge state.status .cancelling = true) :
    Effect state sequence .cancellationRequested { state with status := .cancelling }
  | blocked {reason : String} (hedge : legalStatusEdge state.status .blocked = true) :
    Effect state sequence (.blocked reason) { state with status := .blocked }
  | completed (hboundary : SafeBoundary state)
    (hclauses : state.contract.requiredClausesSatisfied = true)
    (hedge : legalStatusEdge state.status .completed = true) :
    Effect state sequence .completed { state with status := .completed }

/-! ## Inversion of the checks -/

theorem hasUnresolvedOperations_eq_false {snapshot : TaskSnapshot} :
    snapshot.hasUnresolvedOperations = false ↔ ∀ operationId operation,
        snapshot.operations.find? operationId = some operation →
          operation.status.isResolved = true := by
  rw [TaskSnapshot.hasUnresolvedOperations, OrderedMap.any_values_eq_false]
  simp

@[simp] theorem requireSafeBoundary_eq_ok :
    requireSafeBoundary state = .ok u ↔ SafeBoundary state := by
  simp [requireSafeBoundary, SafeBoundary]

@[simp] theorem requireActiveEpoch_eq_ok {epochId : EpochId} :
    requireActiveEpoch state epochId = .ok u ↔ state.activeEpoch = some epochId := by
  simp [requireActiveEpoch]

variable {next : TaskSnapshot} {event : TaskEvent}

theorem transitionStatus_eq_ok {source target : TaskStatus} :
    transitionStatus state source target = .ok next ↔
      state.status = source ∧ legalStatusEdge source target = true ∧
        next = { state with status := target } := by
  simp only [transitionStatus, ok_iff, not_or, ne_eq, not_not, and_assoc]
  exact and_congr_right fun _ => and_congr_right fun _ => eq_comm

theorem requireActiveOperation_eq_ok {operationId : OperationId} {operation : OperationSnapshot} :
    requireActiveOperation state operationId = .ok operation ↔
      ActiveOperation state operationId operation := by
  simp only [requireActiveOperation, ActiveOperation, ok_iff, requireActiveEpoch_eq_ok]
  constructor
  · rintro ⟨found, hfind, hepoch, rfl⟩
    exact ⟨hfind, hepoch⟩
  · rintro ⟨hfind, hepoch⟩
    exact ⟨operation, hfind, hepoch, rfl⟩

theorem effect_of_applyTaskEvent (h : applyTaskEvent state sequence event = .ok next) :
    Effect state sequence event next := by
  cases event <;>
    simp only [applyTaskEvent, ok_iff, requireActiveOperation_eq_ok, transitionStatus_eq_ok,
      requireSafeBoundary_eq_ok, requireActiveEpoch_eq_ok, reduceCtorEq, ne_eq, not_not, not_or,
      not_exists, not_and, Bool.not_eq_true, Option.isSome_eq_false_iff, Option.isNone_iff_eq_none,
      Option.mem_def, not_le, true_and] at h
  case stateTransitioned source target reason =>
    by_cases htarget : target = .cancelled
    · simp only [htarget, if_true, bind_eq_ok, requireSafeBoundary_eq_ok,
        transitionStatus_eq_ok, exists_const] at h
      obtain ⟨hboundary, hsource, hedge, rfl⟩ := h
      subst htarget
      exact .stateTransitioned (fun _ => hboundary) hsource hedge
    · simp only [htarget, if_false, transitionStatus_eq_ok] at h
      obtain ⟨hsource, hedge, rfl⟩ := h
      exact .stateTransitioned (fun htrue => absurd htrue htarget) hsource hedge
  case contractRevised contract =>
    obtain ⟨_, hvalid, hversion, rfl⟩ := h
    exact .contractRevised hvalid hversion
  case epochStarted epochId objective =>
    obtain ⟨hidle, hactive, hpending, rfl⟩ := h
    exact .epochStarted hidle hactive hpending
  case epochFinished epochId reportDigest =>
    obtain ⟨hepoch, hflight, rfl⟩ := h
    exact .epochClosed rfl hepoch hflight
  case epochInterrupted epochId reason =>
    obtain ⟨hepoch, hflight, rfl⟩ := h
    exact .epochClosed rfl hepoch hflight
  case operationIntentRecorded =>
    obtain ⟨hepoch, hnew, rfl⟩ := h
    exact .operationIntentRecorded hepoch hnew
  case operationPostconditionBound =>
    obtain ⟨operation, hoperation, ⟨hstatus, hunbound⟩, rfl⟩ := h
    exact .operationPostconditionBound hoperation hstatus hunbound
  case operationFilePostconditionBound =>
    obtain ⟨operation, hoperation, ⟨hstatus, hunbound⟩, rfl⟩ := h
    exact .operationFilePostconditionBound hoperation hstatus hunbound
  case operationTransitioned =>
    obtain ⟨operation, hoperation, evidence, hevidence, rfl⟩ := h
    exact .operationTransitioned hoperation hevidence
  case operationEvidenceRecorded =>
    obtain ⟨operation, hoperation, evidence, hevidence, rfl⟩ := h
    exact .operationEvidenceRecorded hoperation hevidence
  case recoveryAttemptStarted =>
    obtain ⟨⟨hstatus, hnone⟩, rfl⟩ := h
    exact .recoveryAttemptStarted hstatus hnone
  case recoveryAttemptRecorded =>
    obtain ⟨⟨hidle, hpending⟩, rfl⟩ := h
    exact .recoveryAttemptRecorded hidle hpending
  case checkpointCommitted =>
    obtain ⟨hboundary, rfl⟩ := h
    exact .checkpointCommitted hboundary
  case compactionCompleted =>
    obtain ⟨hboundary, hlatest, rfl⟩ := h
    exact .compactionCompleted hboundary hlatest
  case providerContextBound =>
    subst h
    exact .providerContextBound
  case providerContextLost =>
    obtain ⟨hcontext, rfl⟩ := h
    exact .providerContextLost hcontext
  case cancellationRequested =>
    obtain ⟨hedge, rfl⟩ := h
    exact .cancellationRequested hedge
  case blocked =>
    obtain ⟨hedge, rfl⟩ := h
    exact .blocked hedge
  case completed =>
    obtain ⟨hboundary, hclauses, hedge, rfl⟩ := h
    exact .completed hboundary (by simpa using hclauses) hedge
  -- What is left are the events without an effect on the snapshot.
  case usageObserved | providerRequestRecorded | providerEpochBound =>
    obtain ⟨hepoch, rfl⟩ := h
    exact .observed rfl hepoch
  all_goals
    subst h
    exact .recordOnly rfl

theorem applyTaskEvent_of_effect (h : Effect state sequence event next) :
    applyTaskEvent state sequence event = .ok next := by
  cases h with
  | stateTransitioned hboundary hsource hedge =>
    simp only [applyTaskEvent]
    split
    · rename_i htarget
      simp [bind_eq_ok, transitionStatus_eq_ok, hboundary htarget, hsource, hedge]
    · simp [transitionStatus_eq_ok, hsource, hedge]
  | contractRevised hvalid hversion =>
    simp [applyTaskEvent, bind_eq_ok, hvalid, hversion]
  | epochStarted hidle hactive hpending =>
    simpa [applyTaskEvent, bind_eq_ok, hidle, hactive] using hpending
  | @epochClosed event epochId hevent hepoch hflight =>
    cases event <;> simp [closedEpoch] at hevent <;> subst hevent <;>
      simp [applyTaskEvent, bind_eq_ok, hepoch, hflight]
  | @recordOnly event hevent =>
    cases event <;> simp [isRecordOnly] at hevent <;> rfl
  | @observed event epochId hevent hepoch =>
    cases event <;> simp [observedEpoch] at hevent <;> subst hevent <;>
      simp [applyTaskEvent, bind_eq_ok, hepoch]
  | operationIntentRecorded hepoch hnew =>
    simp [applyTaskEvent, bind_eq_ok, hepoch, hnew]
  | operationPostconditionBound hoperation hstatus hunbound
  | operationFilePostconditionBound hoperation hstatus hunbound =>
    simp only [applyTaskEvent, bind_eq_ok, requireActiveOperation_eq_ok]
    exact ⟨_, hoperation, (), by simp [hstatus, hunbound], rfl⟩
  | operationTransitioned hoperation hevidence | operationEvidenceRecorded hoperation hevidence =>
    simp only [applyTaskEvent, ok_iff, requireActiveOperation_eq_ok]
    exact ⟨_, hoperation, _, hevidence, rfl⟩
  | recoveryAttemptStarted hstatus hnone =>
    simp [applyTaskEvent, bind_eq_ok, hstatus, hnone]
  | recoveryAttemptRecorded hidle hpending =>
    simp [applyTaskEvent, bind_eq_ok, hidle, hpending]
  | checkpointCommitted hboundary =>
    simp [applyTaskEvent, bind_eq_ok, hboundary]
  | compactionCompleted hboundary hlatest =>
    simp [applyTaskEvent, bind_eq_ok, hboundary, hlatest]
  | providerContextBound => rfl
  | providerContextLost hcontext =>
    simp [applyTaskEvent, bind_eq_ok, hcontext]
  | cancellationRequested hedge | blocked hedge =>
    simp [applyTaskEvent, transitionStatus_eq_ok, hedge]
  | completed hboundary hclauses hedge =>
    simp [applyTaskEvent, bind_eq_ok, transitionStatus_eq_ok, hboundary, hclauses, hedge]

theorem applyTaskEvent_eq_ok :
    applyTaskEvent state sequence event = .ok next ↔ Effect state sequence event next :=
  ⟨effect_of_applyTaskEvent, applyTaskEvent_of_effect⟩

theorem Effect.frame (h : Effect state sequence event next) :
    next.taskId = state.taskId ∧ next.sessionId = state.sessionId ∧
      next.budget = state.budget ∧ next.revision = state.revision := by
  cases h <;> exact ⟨rfl, rfl, rfl, rfl⟩

theorem Effect.not_created (h : Effect state sequence event next) : event.isCreated = false := by
  cases h with
  | @epochClosed event epochId hevent _ _ =>
    cases event <;> simp_all [closedEpoch, TaskEvent.isCreated]
  | @recordOnly event hevent =>
    cases event <;> simp_all [isRecordOnly, TaskEvent.isCreated]
  | @observed event epochId hevent _ =>
    cases event <;> simp_all [observedEpoch, TaskEvent.isCreated]
  | _ => rfl

/-- An accepted event on an existing task, with the snapshot it leads to. -/
structure TaskStep (state : TaskSnapshot) (sequence : Nat) (event : TaskEvent)
    (next : TaskSnapshot) : Prop where
  running : state.status.isTerminal = false
  valid : event.validate = .ok ()
  effect : ∃ changed, Effect state sequence event changed ∧
    next = { changed with revision := state.revision + 1 }
  revision : state.revision + 1 ≤ maxRevision

theorem TaskStep.frame (h : TaskStep state sequence event next) :
    next.taskId = state.taskId ∧ next.sessionId = state.sessionId ∧
      next.budget = state.budget ∧ next.revision = state.revision + 1 := by
  obtain ⟨changed, heffect, rfl⟩ := h.effect
  obtain ⟨htask, hsession, hbudget, -⟩ := heffect.frame
  exact ⟨htask, hsession, hbudget, rfl⟩

/-- The check before the branches and the one in the branch of a revised
contract together are the event's own check. -/
theorem validateMetadata_and_effect (heffect : Effect state sequence event next) :
    validateMetadata event = .ok u ↔ event.validate = .ok () := by
  cases event with
  | contractRevised contract =>
    cases heffect with
    | contractRevised hvalid _ =>
      simp [validateMetadata, TaskEvent.validate, hvalid]
    | epochClosed hevent _ _ => simp [closedEpoch] at hevent
    | recordOnly hevent => simp [isRecordOnly] at hevent
    | observed hevent _ => simp [observedEpoch] at hevent
  | _ => simp [validateMetadata]

theorem reduceExisting_eq_ok {taskId : TaskId} :
    reduceExisting state envelope taskId event = .ok next ↔
      state.taskId = taskId ∧ envelope.sessionId = state.sessionId ∧
        TaskStep state envelope.sequence event next := by
  simp only [reduceExisting, ok_iff, ne_eq, not_not, Bool.not_eq_true, applyTaskEvent_eq_ok]
  constructor
  · rintro ⟨htask, hsession, hrunning, -, u, hvalid, changed, heffect, hrevision, rfl⟩
    have hframe := heffect.frame.2.2.2
    refine ⟨htask, hsession.symm, hrunning, (validateMetadata_and_effect heffect).mp hvalid,
      ⟨changed, heffect, by rw [hframe]⟩, ?_⟩
    omega
  · rintro ⟨htask, hsession, hrunning, hvalid, ⟨changed, heffect, rfl⟩, hrevision⟩
    have hframe := heffect.frame.2.2.2
    refine ⟨htask, hsession.symm, hrunning, heffect.not_created, (),
      (validateMetadata_and_effect heffect).mpr hvalid, changed, heffect, ?_, by rw [hframe]⟩
    omega

theorem reduceTask_some_iff : reduceTask (some state) envelope = .ok next ↔
      ∃ event, envelope.event = .taskLifecycle state.taskId event ∧
        envelope.sessionId = state.sessionId ∧
        TaskStep state envelope.sequence event next := by
  simp only [reduceTask]
  cases hevent : envelope.event with
  | other => simp
  | taskLifecycle taskId event =>
    simp only [reduceExisting_eq_ok, Event.taskLifecycle.injEq]
    constructor
    · rintro ⟨rfl, hsession, hstep⟩
      exact ⟨event, ⟨rfl, rfl⟩, hsession, hstep⟩
    · rintro ⟨_, ⟨rfl, rfl⟩, hsession, hstep⟩
      exact ⟨rfl, hsession, hstep⟩

theorem reduceTask_none_iff : reduceTask none envelope = .ok next ↔
      ∃ taskId workspace contract budget model effort permissionMode,
        envelope.event = .taskLifecycle taskId
          (.created envelope.sessionId workspace contract budget model effort permissionMode) ∧
        (TaskEvent.created envelope.sessionId workspace contract budget model
          effort permissionMode).validate = .ok () ∧
        next = .created taskId envelope.sessionId contract budget := by
  simp only [reduceTask]
  cases hevent : envelope.event with
  | other => simp
  | taskLifecycle taskId event =>
    cases event with
    | created eventSession workspace contract budget model effort mode =>
      simp only [reduceCreation, ok_iff, ne_eq, not_not, Event.taskLifecycle.injEq,
        TaskEvent.created.injEq]
      constructor
      · rintro ⟨_, hvalid, rfl, _, _, rfl⟩
        exact ⟨_, _, _, _, _, _, _, ⟨rfl, rfl, rfl, rfl, rfl, rfl, rfl, rfl⟩, hvalid, rfl⟩
      · rintro ⟨_, _, _, _, _, _, _, ⟨rfl, rfl, rfl, rfl, rfl, rfl, rfl, rfl⟩, hvalid, rfl⟩
        have hcontract : contract.validate = .ok () := by
          simp only [TaskEvent.validate, bind_eq_ok] at hvalid
          obtain ⟨_, _, _, hcontract, _⟩ := hvalid
          exact hcontract
        exact ⟨(), hvalid, rfl, (), hcontract, rfl⟩
    | _ => simp [reduceCreation]

end

/-! ## Runs of the reducer -/

variable {envelope : EventEnvelope} {events : List EventEnvelope}

theorem reduceJournal_concat {next : TaskSnapshot} :
    reduceJournal (events ++ [envelope]) = .ok (some next) ↔
      ∃ state, reduceJournal events = .ok state ∧ reduceTask state envelope = .ok next := by
  rw [reduceJournal, foldlM_concat_eq_ok]
  simp [reduceJournal]

theorem reduceJournal_concat_ne_none : reduceJournal (events ++ [envelope]) ≠ .ok none := by
  rw [reduceJournal, ne_eq, foldlM_concat_eq_ok]
  simp

theorem reduceJournal_eq_none (h : reduceJournal events = .ok none) : events = [] := by
  cases events using List.reverseRecOn with
  | nil => rfl
  | append_singleton events envelope =>
    exact absurd h reduceJournal_concat_ne_none

/-- What the creation establishes and every accepted step preserves holds
after every accepted journal. -/
theorem reduceJournal_induction
    {motive : ∀ events snapshot, reduceJournal events = .ok (some snapshot) → Prop}
    (create : ∀ envelope snapshot, reduceTask none envelope = .ok snapshot →
      ∀ h, motive [envelope] snapshot h)
    (step : ∀ events state envelope next hstate, motive events state hstate →
      reduceTask (some state) envelope = .ok next → ∀ h, motive (events ++ [envelope]) next h)
    {snapshot : TaskSnapshot} (h : reduceJournal events = .ok (some snapshot)) :
    motive events snapshot h := by
  induction events using List.reverseRecOn generalizing snapshot with
  | nil => simp [reduceJournal, pure, Except.pure] at h
  | append_singleton events envelope ih =>
    obtain ⟨state, hstate, hreduce⟩ := reduceJournal_concat.mp h
    cases state with
    | none =>
      have hnil : events = [] := reduceJournal_eq_none hstate
      subst hnil
      exact create envelope snapshot hreduce h
    | some state =>
      exact step events state envelope snapshot hstate (ih hstate) hreduce h

theorem reduceJournal_of_append {before after : List EventEnvelope} {snapshot : Option TaskSnapshot}
    (h : reduceJournal (before ++ after) = .ok snapshot) :
    ∃ state, reduceJournal before = .ok state := by
  obtain ⟨state, hstate, -⟩ := foldlM_append_eq_ok.mp h
  exact ⟨state, hstate⟩

namespace Sample

def sessionId : SessionId := ⟨1⟩
def taskId : TaskId := ⟨2⟩
def epochId : EpochId := ⟨3⟩
def operationId : OperationId := ⟨4⟩

def model : ModelId := ⟨"m1", by decide⟩

def contract (status : ClauseStatus) (evidence : List EvidenceRef) : CompletionContract where
  version := 1
  goal := "goal"
  constraints := []
  clauses := [⟨"clause", "text", true, status, evidence⟩]

def creation (contract : CompletionContract) : TaskEvent :=
  .created sessionId (.utf8 "/w") contract .default model .low .default

def envelopes (first : Nat) (events : List TaskEvent) : List EventEnvelope :=
  events.zipIdx.map fun entry =>
    ⟨sessionId, first + entry.2, .taskLifecycle taskId entry.1⟩

/-- An active epoch with the intent of an operation. -/
def intendedEvents (digest : String) : List TaskEvent :=
  [creation (contract .pending []), .stateTransitioned .queued .active "r",
    .epochStarted epochId "o", .operationIntentRecorded operationId epochId "i" .observation digest]

/-- The operation is started, citing `cited`, and has evidence. -/
def evidencedEvents (cited : List Nat) (digest : String) : List TaskEvent :=
  intendedEvents digest ++ [.operationTransitioned operationId .intentRecorded .started cited,
    .operationEvidenceRecorded operationId digest]

end Sample

end CarlAgent.Task
