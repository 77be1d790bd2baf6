import CarlAgent.Task.Types

/-!
# The task reducer

`reduceTask` folds one journal envelope into a task's snapshot.  The relation
`Effect` says once what an accepted event requires and changes; every
invariant of the reducer is proved over it.
-/

namespace CarlAgent.Task

open Foundation

structure OperationSnapshot where
  epochId : EpochId
  status : OperationStatus
  lastTransitionSequence : Nat
  postconditionDigest : Option Sha256Digest
  filePostcondition : Option FilePostcondition
  evidence : OperationEvidenceState
  deriving DecidableEq

structure TaskSnapshot where
  taskId : TaskId
  sessionId : SessionId
  status : TaskStatus
  contract : CompletionContract
  budget : TaskBudget
  activeEpoch : Option EpochId
  latestCheckpoint : Option CheckpointId
  providerContext : Option String
  revision : Nat
  operations : OrderedMap OperationId OperationSnapshot
  pendingRecovery : Option (EpochId × RecoveryStrategy × String)
  deriving DecidableEq

inductive TaskReduceErrorCode where
  | notTaskEvent
  | taskNotCreated
  | taskAlreadyCreated
  | taskIdMismatch
  | sessionMismatch
  | terminalState
  | illegalStatusTransition
  | invalidContract
  | nonMonotonicContractVersion
  | epochAlreadyActive
  | epochMismatch
  | operationAlreadyExists
  | operationIntentMissing
  | illegalOperationTransition
  | operationEvidenceMissing
  | invalidOperationEvidence
  | unsafeBoundary
  | invalidEventMetadata
  | checkpointMissing
  | providerContextMismatch
  | requiredClauseUnsatisfied
  | revisionOverflow
  deriving DecidableEq, Repr

def TaskReduceErrorCode.asStr : TaskReduceErrorCode → String
  | notTaskEvent => "not_task_event"
  | taskNotCreated => "task_not_created"
  | taskAlreadyCreated => "task_already_created"
  | taskIdMismatch => "task_id_mismatch"
  | sessionMismatch => "session_mismatch"
  | terminalState => "terminal_state"
  | illegalStatusTransition => "illegal_status_transition"
  | invalidContract => "invalid_contract"
  | nonMonotonicContractVersion => "non_monotonic_contract_version"
  | epochAlreadyActive => "epoch_already_active"
  | epochMismatch => "epoch_mismatch"
  | operationAlreadyExists => "operation_already_exists"
  | operationIntentMissing => "operation_intent_missing"
  | illegalOperationTransition => "illegal_operation_transition"
  | operationEvidenceMissing => "operation_evidence_missing"
  | invalidOperationEvidence => "invalid_operation_evidence"
  | unsafeBoundary => "unsafe_boundary"
  | invalidEventMetadata => "invalid_event_metadata"
  | checkpointMissing => "checkpoint_missing"
  | providerContextMismatch => "provider_context_mismatch"
  | requiredClauseUnsatisfied => "required_clause_unsatisfied"
  | revisionOverflow => "revision_overflow"

namespace TaskSnapshot

def created (taskId : TaskId) (sessionId : SessionId)
    (contract : CompletionContract) (budget : TaskBudget) : TaskSnapshot where
  taskId := taskId
  sessionId := sessionId
  status := .queued
  contract := contract
  budget := budget
  activeEpoch := none
  latestCheckpoint := none
  providerContext := none
  revision := 1
  operations := OrderedMap.empty
  pendingRecovery := none

variable (state : TaskSnapshot) (operationId : OperationId)

def operationStatus : Option OperationStatus :=
  (state.operations.find? operationId).map (·.status)

def setOperation (operation : OperationSnapshot) : TaskSnapshot :=
  { state with operations := state.operations.insert operationId operation }

def insertOperation
    (epochId : EpochId) (sequence : Nat) : TaskSnapshot :=
  state.setOperation operationId
    { epochId, status := .intentRecorded, lastTransitionSequence := sequence,
      postconditionDigest := none, filePostcondition := none, evidence := .default }

def hasUnresolvedOperations : Bool :=
  state.operations.values.any fun operation => !operation.status.isResolved

def hasInFlightOperations : Bool :=
  state.operations.values.any fun operation =>
    decide (operation.status = .intentRecorded ∨ operation.status = .started)

def startedOperationIds : List OperationId :=
  state.operations.entries.filterMap fun entry =>
    if entry.2.status = .started then some entry.1 else none

end TaskSnapshot

def legalStatusEdge : TaskStatus → TaskStatus → Bool
  | .queued, .active => true
  | .queued, .cancelling => true
  | .queued, .failed => true
  | .active, .checkpointing => true
  | .active, .paused => true
  | .active, .blocked => true
  | .active, .cancelling => true
  | .active, .completing => true
  | .active, .failed => true
  | .checkpointing, .active => true
  | .checkpointing, .paused => true
  | .checkpointing, .blocked => true
  | .checkpointing, .cancelling => true
  | .checkpointing, .failed => true
  | .paused, .active => true
  | .paused, .blocked => true
  | .paused, .cancelling => true
  | .paused, .failed => true
  | .blocked, .active => true
  | .blocked, .cancelling => true
  | .blocked, .failed => true
  | .cancelling, .cancelled => true
  | .cancelling, .blocked => true
  | .cancelling, .failed => true
  | .completing, .completed => true
  | .completing, .active => true
  | .completing, .failed => true
  | _, _ => false

variable (state : TaskSnapshot)

def requireSafeBoundary : Except TaskReduceErrorCode Unit :=
  rejectIf (state.activeEpoch.isSome ∨ state.hasUnresolvedOperations) .unsafeBoundary

def requireActiveEpoch (epochId : EpochId) : Except TaskReduceErrorCode Unit :=
  rejectIf (state.activeEpoch ≠ some epochId) .epochMismatch

def transitionStatus (source target : TaskStatus) : Except TaskReduceErrorCode TaskSnapshot := do
  rejectIf (state.status ≠ source ∨ ¬ legalStatusEdge source target) .illegalStatusTransition
  .ok { state with status := target }

def operationEvidenceError : OperationEvidenceError → TaskReduceErrorCode
  | .illegalTransition => .illegalOperationTransition
  | .missing => .operationEvidenceMissing
  | .invalid => .invalidOperationEvidence

/-- The operation an event names, inside the epoch that is active. -/
def requireActiveOperation (operationId : OperationId) :
    Except TaskReduceErrorCode OperationSnapshot := do
  let operation ← requireSome (state.operations.find? operationId) .operationIntentMissing
  requireActiveEpoch state operation.epochId
  .ok operation

/-! ## The fold step -/

/-- The branch of `reduceTask` for each event on an existing task. -/
def applyTaskEvent (sequence : Nat) :
    TaskEvent → Except TaskReduceErrorCode TaskSnapshot
  | .created _ _ _ _ _ _ _ => .error .taskAlreadyCreated
  | .stateTransitioned source target _ => do
    if target = .cancelled then
      requireSafeBoundary state
    transitionStatus state source target
  | .contractRevised contract => do
    contract.validate.mapError fun _ => .invalidContract
    rejectIf (contract.version ≤ state.contract.version) .nonMonotonicContractVersion
    .ok { state with contract }
  | .epochStarted epochId _ => do
    rejectIf (state.activeEpoch.isSome) .epochAlreadyActive
    rejectIf (state.status ≠ .active) .illegalStatusTransition
    rejectIf (∃ pending ∈ state.pendingRecovery, pending.1 ≠ epochId) .epochMismatch
    .ok { state with activeEpoch := some epochId }
  | .epochFinished epochId _ => do
    requireActiveEpoch state epochId
    rejectIf (state.hasInFlightOperations) .unsafeBoundary
    .ok { state with activeEpoch := none }
  | .epochInterrupted epochId _ => do
    requireActiveEpoch state epochId
    rejectIf (state.hasInFlightOperations) .unsafeBoundary
    .ok { state with activeEpoch := none }
  | .configurationQueued _ _ _ _ => .ok state
  | .configurationApplied _ => .ok state
  | .controlRequested _ _ => .ok state
  | .operationIntentRecorded operationId epochId _ _ _ => do
    requireActiveEpoch state epochId
    rejectIf ((state.operations.find? operationId).isSome) .operationAlreadyExists
    .ok (state.insertOperation operationId epochId sequence)
  | .operationPostconditionBound operationId postconditionDigest => do
    let operation ← requireActiveOperation state operationId
    rejectIf (operation.status ≠ .intentRecorded ∨
      operation.postconditionDigest.isSome) .operationAlreadyExists
    .ok (state.setOperation operationId
      { operation with postconditionDigest := some postconditionDigest })
  | .operationFilePostconditionBound operationId postcondition => do
    let operation ← requireActiveOperation state operationId
    rejectIf (operation.status ≠ .started ∨
      operation.filePostcondition.isSome) .operationAlreadyExists
    .ok (state.setOperation operationId { operation with filePostcondition := some postcondition })
  | .operationTransitioned operationId source target evidenceSequences => do
    let operation ← requireActiveOperation state operationId
    let evidence ← (operation.evidence.transition operation.status source
      target operation.lastTransitionSequence sequence
      evidenceSequences).mapError operationEvidenceError
    .ok (state.setOperation operationId
      { operation with status := target, lastTransitionSequence := sequence, evidence })
  | .operationEvidenceRecorded operationId _ => do
    let operation ← requireActiveOperation state operationId
    let evidence ← (operation.evidence.record operation.status
      operation.lastTransitionSequence sequence).mapError operationEvidenceError
    .ok (state.setOperation operationId { operation with evidence })
  | .usageObserved epochId _ _ => do
    requireActiveEpoch state epochId
    .ok state
  | .providerRequestRecorded epochId _ _ _ => do
    requireActiveEpoch state epochId
    .ok state
  | .providerEpochBound epochId _ => do
    requireActiveEpoch state epochId
    .ok state
  | .recoveryAttemptStarted epochId strategy strategyFingerprint => do
    rejectIf (state.status ≠ .checkpointing ∨ state.pendingRecovery.isSome) .illegalStatusTransition
    .ok { state with pendingRecovery := some (epochId, strategy, strategyFingerprint) }
  | .recoveryAttemptRecorded epochId strategy strategyFingerprint _ => do
    rejectIf (state.activeEpoch.isSome ∨
      state.pendingRecovery ≠ some (epochId, strategy, strategyFingerprint)) .epochMismatch
    .ok { state with pendingRecovery := none }
  | .progressAssessed _ _ => .ok state
  | .normalizedOperationEvidenceRecorded _ _ => .ok state
  | .compactionRequested _ _ => .ok state
  | .backgroundProcessTerminationRecorded _ _ _ => .ok state
  | .steeringQueued _ _ => .ok state
  | .checkpointCommitted checkpointId _ => do
    requireSafeBoundary state
    .ok { state with latestCheckpoint := some checkpointId }
  | .compactionCompleted _ checkpointId _ => do
    requireSafeBoundary state
    rejectIf (state.latestCheckpoint ≠ some checkpointId) .checkpointMissing
    .ok state
  | .providerContextBound contextId =>
    .ok { state with providerContext := some contextId }
  | .providerContextLost contextId _ => do
    rejectIf (state.providerContext ≠ some contextId) .providerContextMismatch
    .ok { state with providerContext := none }
  | .cancellationRequested => transitionStatus state state.status .cancelling
  | .blocked _ => transitionStatus state state.status .blocked
  | .completed => do
    requireSafeBoundary state
    rejectIf (¬ state.contract.requiredClausesSatisfied) .requiredClauseUnsatisfied
    transitionStatus state state.status .completed

def maxRevision : Nat := 2 ^ 64 - 1

/-- A revised contract is checked where it is applied. -/
def validateMetadata : TaskEvent → Except TaskReduceErrorCode Unit
  | .contractRevised _ => .ok ()
  | event => event.validate.mapError fun _ => .invalidEventMetadata

def reduceCreation (sessionId : SessionId) (taskId : TaskId)
    (event : TaskEvent) : Except TaskReduceErrorCode TaskSnapshot :=
  match event with
  | .created eventSession _ contract budget _ _ _ => do
    event.validate.mapError fun code =>
      if code = .invalidWorkspace then .invalidEventMetadata
      else .invalidContract
    rejectIf (eventSession ≠ sessionId) .sessionMismatch
    contract.validate.mapError fun _ => .invalidContract
    .ok (TaskSnapshot.created taskId eventSession contract budget)
  | _ => .error .taskNotCreated

def reduceExisting (envelope : EventEnvelope) (taskId : TaskId) (event : TaskEvent) :
    Except TaskReduceErrorCode TaskSnapshot := do
  rejectIf (state.taskId ≠ taskId) .taskIdMismatch
  rejectIf (state.sessionId ≠ envelope.sessionId) .sessionMismatch
  rejectIf (state.status.isTerminal) .terminalState
  rejectIf (event.isCreated) .taskAlreadyCreated
  validateMetadata event
  let next ← applyTaskEvent state envelope.sequence event
  rejectIf (next.revision + 1 > maxRevision) .revisionOverflow
  .ok { next with revision := next.revision + 1 }

def reduceTask (state : Option TaskSnapshot) (envelope : EventEnvelope) :
    Except TaskReduceErrorCode TaskSnapshot :=
  match envelope.event with
  | .other => .error .notTaskEvent
  | .taskLifecycle taskId event =>
    match state with
    | none => reduceCreation envelope.sessionId taskId event
    | some state => reduceExisting state envelope taskId event

def reduceJournal (events : List EventEnvelope) :
    Except TaskReduceErrorCode (Option TaskSnapshot) :=
  events.foldlM (fun state envelope => (reduceTask state envelope).map some) none

end CarlAgent.Task
