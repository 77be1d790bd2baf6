import CarlAgent.Foundation.Check
import CarlAgent.Foundation.OrderedMap
import CarlAgent.Foundation.Text

/-!
# Task data types

Identifiers, the completion contract, budgets, statuses and the evidence
bookkeeping of operations.  Machine integers are natural numbers; the places
where the code can overflow check for it.
-/

namespace CarlAgent.Task

open Foundation

inductive IdKind where
  | session
  | task
  | epoch
  | operation
  | checkpoint
  | contextPackage
  | toolCall

structure TypedId (kind : IdKind) where
  uuid : BitVec 128
  deriving Repr

abbrev SessionId := TypedId .session
abbrev TaskId := TypedId .task
abbrev EpochId := TypedId .epoch
abbrev OperationId := TypedId .operation
abbrev CheckpointId := TypedId .checkpoint
abbrev ContextPackageId := TypedId .contextPackage

namespace TypedId

variable {kind : IdKind}

theorem toNat_injective : Function.Injective fun id : TypedId kind => id.uuid.toNat := by
  rintro ⟨a⟩ ⟨b⟩ h
  have hab : a = b := BitVec.eq_of_toNat_eq h
  rw [hab]

instance : LinearOrder (TypedId kind) :=
  LinearOrder.lift' (fun id => id.uuid.toNat) toNat_injective

instance : LawfulBEq (TypedId kind) := inferInstance

def text (id : TypedId kind) : String :=
  let digits := Text.hexadecimal 32 id.uuid.toNat
  String.ofList (digits.take 8 ++ '-' :: (digits.drop 8).take 4 ++
    '-' :: (digits.drop 12).take 4 ++ '-' :: (digits.drop 16).take 4 ++ '-' :: digits.drop 20)

end TypedId

def maxModelIdBytes : Nat := 128

def isModelSegment (segment : List Char) : Bool :=
  !segment.isEmpty && segment != ['.'] && segment != ['.', '.'] &&
    segment.all fun c => Text.isAsciiAlphanumeric c || c == '-' || c == '_' || c == '.' || c == ':'

variable (value : String)

def isModelId : Bool :=
  !value.isEmpty && decide (value.utf8ByteSize ≤ maxModelIdBytes) &&
    (value.toList.splitOn '/').all isModelSegment

structure ModelId where
  asStr : String
  valid : isModelId asStr = true
  deriving DecidableEq

inductive ReasoningEffort where
  | low
  | medium
  | high
  | xhigh
  | max
  | ultra
  deriving DecidableEq, Repr

def ReasoningEffort.asCodexValue : ReasoningEffort → String
  | low => "low"
  | medium => "medium"
  | high => "high"
  | xhigh => "xhigh"
  | max => "max"
  | ultra => "ultra"

inductive PermissionMode where
  | plan
  | default
  | acceptEdits
  | dontAsk
  | fullAccess
  | bypassPermissions
  deriving DecidableEq, Repr

inductive PermissionProfile where
  | readOnly
  | approval
  | fullAccess
  deriving DecidableEq, Repr

def PermissionMode.profile : PermissionMode → PermissionProfile
  | plan => .readOnly
  | default | acceptEdits => .approval
  | dontAsk => .readOnly
  | fullAccess | bypassPermissions => .fullAccess

inductive TaskValidationErrorCode where
  | emptyGoal
  | emptyClauseId
  | duplicateClauseId
  | tooManyClauses
  | tooManyConstraints
  | textTooLong
  | controlCharacter
  | emptyEventField
  | invalidWorkspace
  | tooManyEvidenceSequences
  | invalidEvidenceSequence
  | invalidFilePostcondition
  | invalidBudget
  deriving DecidableEq, Repr

def maxContractTextBytes : Nat := 16 * 1024
def maxClauses : Nat := 64
def maxConstraints : Nat := 128

inductive ClauseStatus where
  | pending
  | satisfied
  | failed
  deriving DecidableEq, Repr

structure EvidenceRef where
  eventSequence : Nat
  artifactDigest : Option String
  operationId : Option OperationId
  deriving DecidableEq, Repr

structure CompletionClause where
  id : String
  description : String
  required : Bool
  status : ClauseStatus
  evidence : List EvidenceRef
  deriving DecidableEq, Repr

structure CompletionContract where
  version : Nat
  goal : String
  constraints : List String
  clauses : List CompletionClause
  deriving DecidableEq, Repr

def validateText : Except TaskValidationErrorCode Unit := do
  rejectIf (value.utf8ByteSize > maxContractTextBytes) .textTooLong
  rejectIf (Text.hasControl value) .controlCharacter

def EvidenceRef.validate (evidence : EvidenceRef) : Except TaskValidationErrorCode Unit :=
  match evidence.artifactDigest with
  | some digest => validateText digest
  | none => .ok ()

/-- One turn of the loop over the clauses, with the identifiers seen so far. -/
def CompletionContract.validateClause (clauseIds : List String) (clause : CompletionClause) :
    Except TaskValidationErrorCode (List String) := do
  rejectIf (clause.id.isEmpty) .emptyClauseId
  validateText clause.id
  validateText clause.description
  rejectIf (clause.id ∈ clauseIds) .duplicateClauseId
  clause.evidence.forM EvidenceRef.validate
  .ok (clause.id :: clauseIds)

def CompletionContract.validate (contract : CompletionContract) :
    Except TaskValidationErrorCode Unit := do
  rejectIf (Text.isBlank contract.goal) .emptyGoal
  validateText contract.goal
  rejectIf (contract.constraints.length > maxConstraints) .tooManyConstraints
  rejectIf (contract.clauses.length > maxClauses) .tooManyClauses
  contract.constraints.forM validateText
  let _ ← contract.clauses.foldlM validateClause []
  .ok ()

structure CompletionClause.Valid (clause : CompletionClause) : Prop where
  named : clause.id.isEmpty = false
  id : validateText clause.id = .ok ()
  description : validateText clause.description = .ok ()
  evidence : ∀ evidence ∈ clause.evidence, evidence.validate = .ok ()

theorem CompletionContract.validateClause_eq_ok {seen next : List String}
    {clause : CompletionClause} :
    validateClause seen clause = .ok next ↔
      clause.id ∉ seen ∧ clause.Valid ∧ next = clause.id :: seen := by
  simp only [validateClause, ok_iff, forM_eq_ok]
  constructor
  · rintro ⟨hnamed, ⟨⟩, hid, ⟨⟩, hdescription, hfresh, hevidence, rfl⟩
    exact ⟨hfresh, ⟨by simpa using hnamed, hid, hdescription, hevidence⟩, rfl⟩
  · rintro ⟨hfresh, ⟨hnamed, hid, hdescription, hevidence⟩, rfl⟩
    exact ⟨by simp [hnamed], (), hid, (), hdescription, hfresh, hevidence, rfl⟩

theorem CompletionContract.clauseIds_nodup {contract : CompletionContract} {u : Unit}
    (h : contract.validate = .ok u) : (contract.clauses.map (·.id)).Nodup := by
  simp only [CompletionContract.validate, bind_eq_ok] at h
  obtain ⟨_, -, _, -, _, -, _, -, _, -, seen, hclauses, -⟩ := h
  have hloop := (@foldlM_distinct_eq_ok _ _ _ CompletionClause.id
    CompletionClause.Valid _ (fun _ _ _ => validateClause_eq_ok) _ _ _).mp hclauses
  exact hloop.1

def CompletionContract.requiredClausesSatisfied (contract : CompletionContract) : Bool :=
  (contract.clauses.filter (·.required)).all fun clause =>
    decide (clause.status = .satisfied) && !clause.evidence.isEmpty

/-! ## Statuses -/

inductive TaskStatus where
  | queued
  | active
  | checkpointing
  | paused
  | blocked
  | cancelling
  | cancelled
  | completing
  | completed
  | failed
  deriving DecidableEq, Repr

def TaskStatus.isTerminal : TaskStatus → Bool
  | cancelled | completed | failed => true
  | _ => false

inductive OperationStatus where
  | intentRecorded
  | started
  | succeeded
  | failed
  | cancelled
  | uncertain
  | reconciled
  deriving DecidableEq, Repr

def OperationStatus.isResolved : OperationStatus → Bool
  | succeeded | failed | cancelled | reconciled => true
  | _ => false

def OperationStatus.requiresTerminalEvidence : OperationStatus → Bool
  | intentRecorded | started => false
  | _ => true

def legalOperationEdge : OperationStatus → OperationStatus → Bool
  | .intentRecorded, .started => true
  | .started, .succeeded => true
  | .started, .failed => true
  | .started, .cancelled => true
  | .started, .uncertain => true
  | .uncertain, .reconciled => true
  | _, _ => false

theorem not_isResolved_of_legalOperationEdge {source target : OperationStatus}
    (h : legalOperationEdge source target = true) : source.isResolved = false := by
  cases source <;> first | rfl | (cases target <;> cases h)

inductive OperationEvidenceError where
  | illegalTransition
  | missing
  | invalid
  deriving DecidableEq, Repr

/-- Neighbours are strictly ordered, and the first entry is not zero. -/
def isEvidenceList (sequences : List Nat) : Bool :=
  sequences.head? != some 0 && (Text.neighbours sequences).all fun pair => decide (pair.1 < pair.2)

structure OperationEvidenceState where
  recordedSequences : OrderedSet Nat
  consumedSequences : List Nat
  deriving DecidableEq

namespace OperationEvidenceState

def default : OperationEvidenceState := ⟨OrderedMap.empty, []⟩

def fromConsumed (consumedSequences : List Nat) : OperationEvidenceState :=
  ⟨OrderedMap.empty, consumedSequences⟩

def record (state : OperationEvidenceState) (status : OperationStatus)
    (lastTransitionSequence sequence : Nat) :
    Except OperationEvidenceError OperationEvidenceState := do
  rejectIf (¬ (status = .started ∨ status = .uncertain) ∨
    sequence ≤ lastTransitionSequence ∨
    state.recordedSequences.contains sequence) .invalid
  .ok { state with recordedSequences := state.recordedSequences.insert sequence () }

def transition (state : OperationEvidenceState) (status source target : OperationStatus)
    (lastTransitionSequence transitionSequence : Nat) (evidenceSequences : List Nat) :
    Except OperationEvidenceError OperationEvidenceState := do
  rejectIf (status ≠ source ∨ ¬ legalOperationEdge source target) .illegalTransition
  rejectIf (¬ isEvidenceList evidenceSequences ∨
    ∃ sequence ∈ evidenceSequences, sequence ≥ transitionSequence) .invalid
  if target.requiresTerminalEvidence then
    rejectIf (evidenceSequences = []) .missing
    rejectIf (∃ sequence ∈ evidenceSequences, sequence ≤ lastTransitionSequence ∨
        ¬ state.recordedSequences.contains sequence ∨
        sequence ∈ state.consumedSequences) .invalid
    .ok { state with consumedSequences := state.consumedSequences ++ evidenceSequences }
  else
    .ok state

variable {state next : OperationEvidenceState}

theorem record_eq_ok {status : OperationStatus}
    {lastTransitionSequence sequence : Nat} :
    state.record status lastTransitionSequence sequence = .ok next ↔
      (status = .started ∨ status = .uncertain) ∧
        lastTransitionSequence < sequence ∧
        state.recordedSequences.contains sequence = false ∧
        next = { state with
          recordedSequences := state.recordedSequences.insert sequence () } := by
  simp only [record, ok_iff]
  constructor
  · rintro ⟨hguard, rfl⟩
    have hguard := not_or.mp hguard
    obtain ⟨hlast, hfresh⟩ := not_or.mp hguard.2
    exact ⟨not_not.mp hguard.1, not_le.mp hlast, by simpa using hfresh, rfl⟩
  · rintro ⟨hstatus, hlast, hfresh, rfl⟩
    simp [hstatus, hfresh, hlast]

theorem transition_eq_ok
    {status source target : OperationStatus} {lastTransitionSequence transitionSequence : Nat}
    {evidenceSequences : List Nat} :
    state.transition status source target lastTransitionSequence
        transitionSequence evidenceSequences = .ok next ↔
      status = source ∧ legalOperationEdge source target = true ∧
        isEvidenceList evidenceSequences = true ∧
        (∀ cited ∈ evidenceSequences, cited < transitionSequence) ∧
        (target.requiresTerminalEvidence = false ∧ next = state ∨
          target.requiresTerminalEvidence = true ∧ evidenceSequences ≠ [] ∧
            (∀ cited ∈ evidenceSequences, lastTransitionSequence < cited ∧
              state.recordedSequences.contains cited = true ∧
              cited ∉ state.consumedSequences) ∧
            next = { state with
              consumedSequences := state.consumedSequences ++ evidenceSequences }) := by
  have hcited : (¬ ∃ cited ∈ evidenceSequences, cited ≤ lastTransitionSequence ∨
        ¬ state.recordedSequences.contains cited = true ∨
        cited ∈ state.consumedSequences) ↔
      ∀ cited ∈ evidenceSequences, lastTransitionSequence < cited ∧
        state.recordedSequences.contains cited = true ∧
        cited ∉ state.consumedSequences := by
    simp only [not_exists, not_and, not_or, not_le, not_not]
  cases hterminal : target.requiresTerminalEvidence with
  | false =>
    simp [transition, bind_eq_ok, hterminal, and_assoc, @eq_comm OperationEvidenceState next]
  | true =>
    simp only [transition, ok_iff, hterminal, if_true, hcited]
    simp [and_assoc, @eq_comm OperationEvidenceState next]

end OperationEvidenceState

structure TaskBudget where
  maxWallTimeSeconds : Option Nat
  maxProviderRequests : Option Nat
  maxToolCalls : Option Nat
  softEpochSeconds : Nat
  softEpochToolCalls : Nat
  deriving DecidableEq, Repr

def TaskBudget.default : TaskBudget where
  maxWallTimeSeconds := none
  maxProviderRequests := none
  maxToolCalls := none
  softEpochSeconds := 15 * 60
  softEpochToolCalls := 40

def TaskBudget.validate (budget : TaskBudget) : Except TaskValidationErrorCode Unit :=
  rejectIf (budget.softEpochSeconds = 0 ∨ budget.softEpochToolCalls = 0) .invalidBudget

/-! ## Task events -/

inductive PathBuf where
  | utf8 (text : String)
  | nonUtf8
  deriving DecidableEq, Repr

inductive EffectClass where
  | observation
  | idempotentMutation
  | ambiguousConsequential
  deriving DecidableEq, Repr

inductive EpochInterruptReason where
  | permissionTightening
  deriving DecidableEq, Repr

inductive TaskControlKind where
  | resume
  | cancel
  deriving DecidableEq, Repr

inductive ProviderRequestPurpose where
  | contractPlanning
  | work
  | recovery
  deriving DecidableEq, Repr

inductive RecoveryStrategy where
  | reconstructFromEvidence
  | replaceApproach
  | freshContextDiagnosis
  | minimizeReproduction
  | declareBlocked
  deriving DecidableEq, Repr

inductive RecoveryAttemptOutcome where
  | succeeded
  | failed
  deriving DecidableEq, Repr

inductive NormalizedOperationEvidence where
  | command (completed : Bool) (exitCode : Option Int)
  | fileChange (completed : Bool) (artifactDigests : List String)
  deriving DecidableEq, Repr

structure Sha256Digest where
  bits : BitVec 256
  deriving DecidableEq, Repr

abbrev Sha256 := List UInt8 → Sha256Digest

def maxFilePostconditionEntries : Nat := 256
def maxFilePostconditionPathBytes : Nat := 4 * 1024

structure FilePostconditionEntry where
  relativePath : String
  regularFileDigest : Option Sha256Digest
  deriving DecidableEq, Repr

def FilePostconditionEntry.validate (entry : FilePostconditionEntry) :
    Except TaskValidationErrorCode Unit :=
  let path := entry.relativePath
  rejectIf (path.isEmpty ∨
    path.utf8ByteSize > maxFilePostconditionPathBytes ∨
    path.toList.any (fun c => c == '\\' || c == '\x00' || c == ':') ∨
    Text.hasControl path ∨
    (path.toList.splitOn '/').any (fun component =>
      component.isEmpty || component == ['.'] || component == ['.', '.']))
    .invalidFilePostcondition

def validateFilePostconditionEntries (entries : List FilePostconditionEntry) :
    Except TaskValidationErrorCode Unit := do
  rejectIf (entries = [] ∨ entries.length > maxFilePostconditionEntries ∨
    ∃ pair ∈ Text.neighbours entries,
      pair.2.relativePath ≤ pair.1.relativePath) .invalidFilePostcondition
  entries.forM FilePostconditionEntry.validate

/-- The constructor checks the entries, so every value passes its own check. -/
structure FilePostcondition where
  entries : List FilePostconditionEntry
  valid : validateFilePostconditionEntries entries = .ok ()
  deriving DecidableEq

inductive TaskEvent where
  | created (sessionId : SessionId) (workspace : PathBuf)
    (contract : CompletionContract) (budget : TaskBudget) (model : ModelId)
    (effort : ReasoningEffort) (permissionMode : PermissionMode)
  | stateTransitioned (source target : TaskStatus) (reason : String)
  | contractRevised (contract : CompletionContract)
  | epochStarted (epochId : EpochId) (objective : String)
  | epochFinished (epochId : EpochId) (reportDigest : String)
  | epochInterrupted (epochId : EpochId) (reason : EpochInterruptReason)
  | configurationQueued (controlId : String) (model : ModelId)
    (effort : ReasoningEffort) (permissionMode : PermissionMode)
  | configurationApplied (controlId : String)
  | controlRequested (controlId : String) (kind : TaskControlKind)
  | providerRequestRecorded (epochId : EpochId)
    (purpose : ProviderRequestPurpose) (requestSequence : Nat)
    (requestDigest : String)
  | providerEpochBound (epochId : EpochId) (providerEpochId : String)
  | operationIntentRecorded (operationId : OperationId) (epochId : EpochId)
    (itemId : String) (effectClass : EffectClass) (requestDigest : String)
  | operationPostconditionBound (operationId : OperationId) (postconditionDigest : Sha256Digest)
  | operationFilePostconditionBound (operationId : OperationId) (postcondition : FilePostcondition)
  | operationTransitioned (operationId : OperationId)
    (source target : OperationStatus) (evidenceSequences : List Nat)
  | operationEvidenceRecorded (operationId : OperationId) (resultDigest : String)
  | normalizedOperationEvidenceRecorded (operationId : OperationId)
    (evidence : NormalizedOperationEvidence)
  | usageObserved (epochId : EpochId) (totalTokens : Nat) (contextWindow : Option Nat)
  | progressAssessed (fingerprint : String) (stalled : Bool)
  | recoveryAttemptStarted (epochId : EpochId) (strategy : RecoveryStrategy)
    (strategyFingerprint : String)
  | recoveryAttemptRecorded (epochId : EpochId) (strategy : RecoveryStrategy)
    (strategyFingerprint : String) (outcome : RecoveryAttemptOutcome)
  | checkpointCommitted (checkpointId : CheckpointId) (digest : String)
  | compactionRequested (generation : Nat) (reason : String)
  | compactionCompleted (generation : Nat) (checkpointId : CheckpointId)
    (contextPackageId : ContextPackageId)
  | providerContextBound (contextId : String)
  | providerContextLost (contextId : String) (reason : String)
  | steeringQueued (steeringSequence : Nat) (textDigest : String)
  | backgroundProcessTerminationRecorded (processId : String) (itemId : String) (terminated : Bool)
  | cancellationRequested
  | blocked (reason : String)
  | completed
  deriving DecidableEq

/-! ## Field checks -/

def maxTaskEventTextBytes : Nat := 16 * 1024
def maxTaskEventIdentifierBytes : Nat := 128
def maxTaskEventEvidenceSequences : Nat := 256

def validateEventString (maxBytes : Nat) :
    Except TaskValidationErrorCode Unit := do
  rejectIf (Text.isBlank value) .emptyEventField
  rejectIf (value.utf8ByteSize > maxBytes) .textTooLong
  rejectIf (Text.hasControl value) .controlCharacter

def validateEventText : Except TaskValidationErrorCode Unit :=
  validateEventString value maxTaskEventTextBytes

def validateEventIdentifier : Except TaskValidationErrorCode Unit :=
  validateEventString value maxTaskEventIdentifierBytes

def validateControlId : Except TaskValidationErrorCode Unit :=
  rejectIf (¬ Text.isLowercaseSha256 value) .emptyEventField

def validateWorkspace : PathBuf → Except TaskValidationErrorCode Unit
  | .nonUtf8 => .error .invalidWorkspace
  | .utf8 text =>
    rejectIf (text.toList.head? ≠ some '/' ∨
      text.utf8ByteSize > maxTaskEventTextBytes ∨ Text.hasControl text) .invalidWorkspace

def validateEvidenceSequences (sequences : List Nat) :
    Except TaskValidationErrorCode Unit := do
  rejectIf (sequences.length > maxTaskEventEvidenceSequences) .tooManyEvidenceSequences
  rejectIf (¬ isEvidenceList sequences) .invalidEvidenceSequence

def NormalizedOperationEvidence.validate :
    NormalizedOperationEvidence → Except TaskValidationErrorCode Unit
  | .command _ _ => .ok ()
  | .fileChange _ artifactDigests =>
    rejectIf (artifactDigests.length > maxTaskEventEvidenceSequences ∨
      ∃ digest ∈ artifactDigests, ¬ Text.isLowercaseSha256 digest) .invalidEvidenceSequence

def validateRecovery (strategy : RecoveryStrategy)
    (strategyFingerprint : String) : Except TaskValidationErrorCode Unit :=
  rejectIf (strategy = .declareBlocked ∨
    ¬ Text.isLowercaseSha256 strategyFingerprint) .emptyEventField

def TaskEvent.validate : TaskEvent → Except TaskValidationErrorCode Unit
  | created _ workspace contract budget _ _ _ => do
    validateWorkspace workspace
    contract.validate
    budget.validate
  | stateTransitioned _ _ reason => validateEventText reason
  | compactionRequested _ reason => validateEventText reason
  | blocked reason => validateEventText reason
  | contractRevised contract => contract.validate
  | epochStarted _ objective => validateEventText objective
  | epochFinished _ reportDigest => validateEventIdentifier reportDigest
  | providerRequestRecorded _ _ _ requestDigest =>
    validateEventIdentifier requestDigest
  | configurationQueued controlId _ _ _ => validateControlId controlId
  | configurationApplied controlId => validateControlId controlId
  | controlRequested controlId _ => validateControlId controlId
  | providerEpochBound _ providerEpochId =>
    validateEventIdentifier providerEpochId
  | operationIntentRecorded _ _ itemId _ requestDigest => do
    validateEventIdentifier itemId
    validateEventIdentifier requestDigest
  | operationPostconditionBound _ _ => .ok ()
  | operationFilePostconditionBound _ postcondition =>
    validateFilePostconditionEntries postcondition.entries
  | operationTransitioned _ _ _ evidenceSequences =>
    validateEvidenceSequences evidenceSequences
  | operationEvidenceRecorded _ resultDigest =>
    validateEventIdentifier resultDigest
  | normalizedOperationEvidenceRecorded _ evidence => evidence.validate
  | progressAssessed fingerprint _ => validateEventIdentifier fingerprint
  | recoveryAttemptStarted _ strategy strategyFingerprint =>
    validateRecovery strategy strategyFingerprint
  | recoveryAttemptRecorded _ strategy strategyFingerprint _ =>
    validateRecovery strategy strategyFingerprint
  | checkpointCommitted _ digest => validateEventIdentifier digest
  | providerContextBound contextId => validateEventIdentifier contextId
  | providerContextLost contextId reason => do
    validateEventIdentifier contextId
    validateEventText reason
  | steeringQueued _ textDigest => validateEventIdentifier textDigest
  | backgroundProcessTerminationRecorded processId itemId _ => do
    validateEventIdentifier processId
    validateEventIdentifier itemId
  | usageObserved _ _ _ => .ok ()
  | epochInterrupted _ _ => .ok ()
  | compactionCompleted _ _ _ => .ok ()
  | cancellationRequested => .ok ()
  | completed => .ok ()

def TaskEvent.isCreated : TaskEvent → Bool
  | created _ _ _ _ _ _ _ => true
  | _ => false

/-- A journal event: a task's lifecycle event, or one of the other kinds. -/
inductive Event where
  | taskLifecycle (taskId : TaskId) (event : TaskEvent)
  | other
  deriving DecidableEq

structure EventEnvelope where
  sessionId : SessionId
  sequence : Nat
  event : Event
  deriving DecidableEq

def EventEnvelope.taskEvent? (envelope : EventEnvelope) : Option TaskEvent :=
  match envelope.event with
  | .taskLifecycle _ event => some event
  | .other => none

theorem EventEnvelope.taskEvent?_eq_some {envelope : EventEnvelope} {event : TaskEvent} :
    envelope.taskEvent? = some event ↔ ∃ taskId, envelope.event = .taskLifecycle taskId event := by
  unfold EventEnvelope.taskEvent?
  cases envelope.event <;> simp

end CarlAgent.Task
