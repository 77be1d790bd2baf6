import CarlAgent.Foundation.Sort
import CarlAgent.Task.Reducer

/-!
# Canonical checkpoints

The record of a task at a safe boundary and the functions that build it from
the previous checkpoint and the events after it.
-/

namespace CarlAgent.Task

open Foundation

structure WorkEvidence where
  summary : String
  eventSequences : List Nat
  artifactDigests : List String
  deriving DecidableEq, Repr

structure DecisionRecord where
  id : String
  decision : String
  rationale : String
  deriving DecidableEq, Repr

structure ExactIdentifier where
  kind : String
  value : String
  deriving DecidableEq, Repr

structure OperationCheckpoint where
  operationId : OperationId
  status : OperationStatus
  effectClass : EffectClass
  requestDigest : String
  evidenceSequences : List Nat
  deriving DecidableEq, Repr

structure RepositoryCheckpoint where
  workspaceDigest : String
  gitHead : Option String
  gitStatusDigest : Option String
  diffArtifactDigest : Option String
  fileHashes : OrderedMap String String
  deriving DecidableEq

structure ProcessCheckpoint where
  processId : String
  itemId : String
  commandDigest : String
  cwdDigest : String
  deriving DecidableEq, Repr

structure ProviderCheckpoint where
  provider : String
  model : String
  effort : String
  contextId : Option String
  observedTotalTokens : Option Nat
  observedContextWindow : Option Nat
  deriving DecidableEq, Repr

structure ClauseEvidence where
  clauseId : String
  evidence : List EvidenceRef
  deriving DecidableEq, Repr

structure CanonicalCheckpoint where
  schemaVersion : Nat
  checkpointId : CheckpointId
  taskId : TaskId
  contract : CompletionContract
  completedWork : List WorkEvidence
  decisions : List DecisionRecord
  exactIdentifiers : List ExactIdentifier
  operations : List OperationCheckpoint
  repository : RepositoryCheckpoint
  runningProcesses : List ProcessCheckpoint
  pendingApprovalDigests : List String
  pendingSteeringDigests : List String
  uncertainDeliveryDigests : List String
  verification : List ClauseEvidence
  nextObjective : String
  blockers : List String
  provider : ProviderCheckpoint
  compactionGeneration : Nat
  sourceSequenceStart : Nat
  sourceSequenceEnd : Nat
  previousDigest : Option String
  deriving DecidableEq

/-- A checkpoint of the first event with nothing recorded. -/
def CanonicalCheckpoint.blank (taskId : TaskId) (contract : CompletionContract)
    (workspaceDigest : String) : CanonicalCheckpoint where
  schemaVersion := 1
  checkpointId := ⟨5⟩
  taskId
  contract
  completedWork := []
  decisions := []
  exactIdentifiers := []
  operations := []
  repository := ⟨workspaceDigest, none, none, none, OrderedMap.empty⟩
  runningProcesses := []
  pendingApprovalDigests := []
  pendingSteeringDigests := []
  uncertainDeliveryDigests := []
  verification := []
  nextObjective := "next"
  blockers := []
  provider := ⟨"codex", "m1", "low", none, none, none⟩
  compactionGeneration := 0
  sourceSequenceStart := 1
  sourceSequenceEnd := 1
  previousDigest := none

inductive CheckpointError where
  | missingRequiredIdentifier
  | danglingOperation
  | unpairedOperation
  | duplicateOperation
  | invalidEvidenceRange
  | invalidArtifactDigest
  | artifactMissing
  | artifactDigestMismatch
  | nonUtf8Artifact
  | secretRejected
  | invalidSource
  | invalidSourceSequence
  | invalidGeneration
  | limitExceeded
  | serialization
  deriving DecidableEq, Repr

/-- One turn of the loop of `validateEventOrder`, with the sequence before. -/
def validateEventPosition (snapshot : TaskSnapshot) (previous : Option CanonicalCheckpoint)
    (prior : Option Nat) (envelope : EventEnvelope) : Except CheckpointError (Option Nat) := do
  rejectIf (envelope.sequence = 0 ∨ prior = some envelope.sequence) .invalidSourceSequence
  rejectIf (∃ checkpoint ∈ previous,
    envelope.sequence ≤ checkpoint.sourceSequenceEnd) .invalidSourceSequence
  match envelope.event with
  | .taskLifecycle taskId _ => do
    rejectIf (¬ (taskId = snapshot.taskId ∧ envelope.sessionId = snapshot.sessionId)) .invalidSource
    .ok (some envelope.sequence)
  | .other => .error .invalidSource

def validateEventOrder (events : List EventEnvelope) (snapshot : TaskSnapshot)
    (previous : Option CanonicalCheckpoint) : Except CheckpointError Unit := do
  let _ ← events.foldlM (validateEventPosition snapshot previous) none
  .ok ()

variable (previous : Option CanonicalCheckpoint)

def sourceRange (events : List EventEnvelope) : Except CheckpointError (Nat × Nat) := do
  let first ← requireSome ((previous.map (·.sourceSequenceStart)).or
      (events.head?.map (·.sequence))) .invalidSourceSequence
  let last ← requireSome ((events.getLast?.map (·.sequence)).or
      (previous.map (·.sourceSequenceEnd))) .invalidSourceSequence
  rejectIf (¬ first ≤ last) .invalidSourceSequence
  .ok (first, last)

def validateDigest (value : String) : Except CheckpointError Unit :=
  rejectIf (¬ Text.isLowercaseSha256 value) .invalidArtifactDigest

structure OperationBuildState where
  checkpoint : OperationCheckpoint
  lastTransitionSequence : Nat
  evidence : OperationEvidenceState
  deriving DecidableEq

abbrev OperationBuildMap := OrderedMap OperationId OperationBuildState

def checkpointOperationEvidenceError : OperationEvidenceError → CheckpointError
  | .illegalTransition => .unpairedOperation
  | .missing => .unpairedOperation
  | .invalid => .invalidEvidenceRange

def OperationBuildState.carried (sourceSequenceEnd : Nat)
    (operation : OperationCheckpoint) : OperationBuildState where
  checkpoint := operation
  lastTransitionSequence := sourceSequenceEnd
  evidence := .fromConsumed operation.evidenceSequences

def carriedOperations : Option CanonicalCheckpoint → OperationBuildMap
  | none => OrderedMap.empty
  | some checkpoint =>
    OrderedMap.ofList (checkpoint.operations.map fun operation =>
      (operation.operationId, .carried checkpoint.sourceSequenceEnd operation))

def buildOperation (sourceSequenceStart sourceSequenceEnd : Nat) (operations : OperationBuildMap)
    (envelope : EventEnvelope) : Except CheckpointError OperationBuildMap :=
  match envelope.event with
  | .other => .error .invalidSource
  | .taskLifecycle _ (.operationIntentRecorded operationId _ _ effectClass
    requestDigest) => do
    rejectIf ((operations.find? operationId).isSome) .duplicateOperation
    .ok (operations.insert operationId
      { checkpoint :=
          { operationId, status := .intentRecorded, effectClass, requestDigest,
            evidenceSequences := [] }
        lastTransitionSequence := envelope.sequence
        evidence := .default })
  | .taskLifecycle _ (.operationTransitioned operationId source target
    evidenceSequences) => do
    let operation ← requireSome (operations.find? operationId) .danglingOperation
    rejectIf (∃ sequence ∈ evidenceSequences,
      sequence < sourceSequenceStart ∨ sequence > sourceSequenceEnd ∨
        sequence ≥ envelope.sequence) .invalidEvidenceRange
    let evidence ← (operation.evidence.transition
      operation.checkpoint.status source target operation.lastTransitionSequence envelope.sequence
      evidenceSequences).mapError checkpointOperationEvidenceError
    .ok (operations.insert operationId
      { checkpoint :=
          { operation.checkpoint with
            status := target, evidenceSequences := evidence.consumedSequences }
        lastTransitionSequence := envelope.sequence
        evidence := evidence })
  | .taskLifecycle _ (.operationEvidenceRecorded operationId resultDigest) => do
    validateDigest resultDigest
    let operation ← requireSome (operations.find? operationId) .danglingOperation
    let evidence ← (operation.evidence.record operation.checkpoint.status
      operation.lastTransitionSequence envelope.sequence).mapError checkpointOperationEvidenceError
    .ok (operations.insert operationId { operation with evidence })
  | .taskLifecycle _ _ => .ok operations

def buildOperations (events : List EventEnvelope) (sourceSequenceStart sourceSequenceEnd : Nat) :
    Except CheckpointError (List OperationCheckpoint) := do
  let operations ← events.foldlM (buildOperation sourceSequenceStart sourceSequenceEnd)
    (carriedOperations previous)
  rejectIf (∃ operation ∈ operations.values,
    ¬ operation.checkpoint.status.isResolved) .unpairedOperation
  .ok (operations.values.map (·.checkpoint))

/-- The operations of a checkpoint over the events after the previous one. -/
def buildSourceOperations (events : List EventEnvelope) :
    Except CheckpointError (List OperationCheckpoint) := do
  let range ← sourceRange previous events
  buildOperations previous events range.1 range.2

/-! ## Provider metadata -/

structure ExpectedProvider where
  model : Option String
  effort : Option String
  totalTokens : Option Nat
  contextWindow : Option Nat
  deriving DecidableEq, Repr

def ExpectedProvider.initial : ExpectedProvider where
  model := previous.map (·.provider.model)
  effort := previous.map (·.provider.effort)
  totalTokens := previous.bind (·.provider.observedTotalTokens)
  contextWindow := previous.bind (·.provider.observedContextWindow)

def ExpectedProvider.observe (expected : ExpectedProvider)
    (envelope : EventEnvelope) : Except CheckpointError ExpectedProvider :=
  match envelope.event with
  | .other => .error .invalidSource
  | .taskLifecycle _ (.created _ _ _ _ model effort _) =>
    .ok { expected with model := some model.asStr, effort := some effort.asCodexValue }
  | .taskLifecycle _ (.usageObserved _ totalTokens contextWindow) =>
    .ok { expected with
      totalTokens := some totalTokens, contextWindow := contextWindow.or expected.contextWindow }
  | .taskLifecycle _ _ => .ok expected

def validateProviderMetadata (provider : ProviderCheckpoint)
    (snapshot : TaskSnapshot) (previous : Option CanonicalCheckpoint)
    (events : List EventEnvelope) : Except CheckpointError Unit := do
  rejectIf (∃ checkpoint ∈ previous,
    checkpoint.provider.provider ≠ provider.provider) .invalidSource
  let expected ← events.foldlM ExpectedProvider.observe (ExpectedProvider.initial previous)
  rejectIf (expected.model ≠ some provider.model ∨
    expected.effort ≠ some provider.effort ∨
    expected.totalTokens ≠ provider.observedTotalTokens ∨
    expected.contextWindow ≠ provider.observedContextWindow ∨
    snapshot.providerContext ≠ provider.contextId) .invalidSource

end CarlAgent.Task
