import CarlAgent.Storage.Replay

/-!
# The authority of a checkpoint

Before a checkpoint is committed it is compared with the journal.  The full
check replays the whole journal; the incremental one starts from the
authenticated checkpoint before it and replays the events after it.
-/

namespace CarlAgent.Storage

open Foundation CarlAgent.Task

structure NewCheckpoint where
  taskId : TaskId
  checkpoint : CanonicalCheckpoint
  checkpointDigest : String
  contextPackage : ContextPackage
  contextPackageDigest : String
  deriving DecidableEq

structure AuthenticatedCheckpointAuthority where
  checkpointId : CheckpointId
  taskId : TaskId
  sourceSequenceStart : Nat
  sourceSequenceEnd : Nat
  compactionGeneration : Nat
  operations : List OperationCheckpoint
  observedTotalTokens : Option Nat
  observedContextWindow : Option Nat
  taskSnapshot : TaskSnapshot
  configuration : TaskConfigurationRecord
  digest : String
  dataVersion : Nat
  deriving DecidableEq

structure ValidatedCheckpointAuthority where
  taskSnapshot : TaskSnapshot
  configuration : TaskConfigurationRecord
  deriving DecidableEq

section

variable (sha256 : Sha256)

def validateCheckpointInput (input : NewCheckpoint) : Except CarlError Unit := do
  rejectIf (input.checkpoint.taskId ≠ input.taskId ∨
    input.contextPackage.checkpointId ≠ input.checkpoint.checkpointId ∨
    input.contextPackage.sourceSequenceStart ≠ input.checkpoint.sourceSequenceStart ∨
    input.contextPackage.sourceSequenceEnd ≠ input.checkpoint.sourceSequenceEnd)
    (.validation "checkpoint and context package metadata do not match")
  let checkpointDigest ← (input.checkpoint.digest sha256).mapError fun _ =>
    .validation "canonical checkpoint is invalid"
  rejectIf (checkpointDigest ≠ input.checkpointDigest)
    (.validation "canonical checkpoint digest does not match")
  let packageDigest ← (input.contextPackage.digest sha256).mapError fun _ =>
    .validation "canonical context package is invalid"
  rejectIf (packageDigest ≠ input.contextPackageDigest)
    (.validation "canonical context package digest does not match")

def authenticatedCheckpointMatchesDatabase (db : Db) (current : TaskRecord)
    (authority : AuthenticatedCheckpointAuthority) : Bool :=
  match current.snapshot.latestCheckpoint with
  | none => false
  | some checkpointId =>
    if checkpointId ≠ authority.checkpointId ∨ current.snapshot.taskId ≠ authority.taskId then false
    else
      match (db.children.taskCheckpoints.find? checkpointId).filter
          fun row => decide (row.taskId = current.snapshot.taskId) with
      | none => false
      | some row =>
        match row.checkpoint with
        | none => false
        | some checkpoint =>
          decide (row.digest = authority.digest ∧
            (sha256 (Text.utf8 checkpoint.toJson.render)).text = authority.digest)

end

variable (db : Db) (current : TaskRecord) (configuration : TaskConfigurationRecord)
    (checkpoint : CanonicalCheckpoint) (anchor : Option AuthenticatedCheckpointAuthority)
    (replay : AuthorityReplay)

def validateCheckpointHistory (input : NewCheckpoint) : Except CarlError Unit := do
  let bounds ← requireSome (sequenceBounds db fun envelope =>
    decide (envelope.sessionId = current.snapshot.sessionId) && isTaskEvent input.taskId envelope)
    (.storage "checkpoint task has no authoritative journal")
  rejectIf (input.checkpoint.sourceSequenceStart ≠ bounds.1 ∨
    input.checkpoint.sourceSequenceEnd ≠ bounds.2)
    (.validation "checkpoint source range does not match the task journal")
  let expectedPrevious ← match current.snapshot.latestCheckpoint with
    | none => .ok none
    | some checkpointId => do
      let row ← requireSome ((db.children.taskCheckpoints.find? checkpointId).filter
          fun row => decide (row.taskId = input.taskId))
        (.storage "latest task checkpoint projection is missing")
      .ok (some row.digest)
  rejectIf (input.checkpoint.previousDigest ≠ expectedPrevious)
    (.validation "checkpoint previous digest does not match durable history")

structure JournalOperationState where
  status : OperationStatus
  effectClass : EffectClass
  requestDigest : String
  lastTransitionSequence : Nat
  evidence : OperationEvidenceState
  deriving DecidableEq

abbrev JournalOperations := OrderedMap OperationId JournalOperationState

def JournalOperationState.carried (sourceSequenceEnd : Nat)
    (operation : OperationCheckpoint) : JournalOperationState where
  status := operation.status
  effectClass := operation.effectClass
  requestDigest := operation.requestDigest
  lastTransitionSequence := sourceSequenceEnd
  evidence := .fromConsumed operation.evidenceSequences

def anchoredOperations : Option AuthenticatedCheckpointAuthority → JournalOperations
  | none => OrderedMap.empty
  | some authority =>
    OrderedMap.ofList (authority.operations.map fun operation =>
      (operation.operationId, .carried authority.sourceSequenceEnd operation))

def replayJournalOperation (operations : JournalOperations) (sequence : Nat) :
    TaskEvent → Except CarlError JournalOperations
  | .operationIntentRecorded operationId _ _ effectClass requestDigest => do
    rejectIf ((operations.find? operationId).isSome)
      (.storage "task journal contains a duplicate operation")
    .ok (operations.insert operationId
      { status := .intentRecorded, effectClass, requestDigest, lastTransitionSequence := sequence,
        evidence := .default })
  | .operationTransitioned operationId source target evidenceSequences => do
    let operation ← requireSome (operations.find? operationId)
      (.storage "task journal operation transition has no intent")
    let evidence ← (operation.evidence.transition operation.status source
      target operation.lastTransitionSequence sequence evidenceSequences).mapError fun _ =>
        .storage "task journal operation transition has invalid evidence"
    .ok (operations.insert operationId
      { operation with status := target, lastTransitionSequence := sequence, evidence })
  | .operationEvidenceRecorded operationId _ => do
    let operation ← requireSome (operations.find? operationId)
      (.storage "task journal operation evidence has no intent")
    let evidence ← (operation.evidence.record operation.status
      operation.lastTransitionSequence sequence).mapError fun _ =>
        .storage "task journal operation evidence is invalid"
    .ok (operations.insert operationId { operation with evidence })
  | _ => .ok operations

structure ObservedUsage where
  totalTokens : Option Nat
  contextWindow : Option Nat
  deriving DecidableEq

def ObservedUsage.observe (usage : ObservedUsage) : TaskEvent → ObservedUsage
  | .usageObserved _ totalTokens contextWindow =>
    ⟨some totalTokens, contextWindow.or usage.contextWindow⟩
  | _ => usage

structure AuthorityReplay where
  usage : ObservedUsage
  operations : JournalOperations
  snapshot : Option TaskSnapshot
  children : ChildReplay
  lastTailSequence : Option Nat
  deriving DecidableEq

def AuthorityReplay.initial : AuthorityReplay where
  usage := ⟨anchor.bind (·.observedTotalTokens), anchor.bind (·.observedContextWindow)⟩
  operations := anchoredOperations anchor
  snapshot := anchor.map (·.taskSnapshot)
  children := ⟨anchor.map (·.configuration), []⟩
  lastTailSequence := anchor.map (·.sourceSequenceEnd)

/-- Only an anchored replay carries a snapshot and a configuration along. -/
def AuthorityReplay.replayProjections
    (envelope : EventEnvelope) : Except CarlError AuthorityReplay :=
  match replay.snapshot with
  | none => .ok replay
  | some snapshot => do
    let snapshot ← (reduceTask (some snapshot) envelope).mapError taskReplayError
    let children ← replayTaskChildProjections replay.children envelope
    .ok { replay with snapshot := some snapshot, children }

def AuthorityReplay.step (envelope : EventEnvelope) : Except CarlError AuthorityReplay := do
  let replay ← replay.replayProjections envelope
  match envelope.event with
  | .other => .error (.storage "task event page returned a non-task event")
  | .taskLifecycle _ event => do
    let operations ← replayJournalOperation replay.operations envelope.sequence event
    .ok { replay with
      usage := replay.usage.observe event, operations, lastTailSequence := some envelope.sequence }

def readAuthorityPage (taskId : TaskId) (anchor : Option AuthenticatedCheckpointAuthority)
    (afterSequence : Option Nat) : Except CarlError (List EventEnvelope) :=
  match anchor with
  | some authority =>
    readTaskEventPageForKnownSession db authority.taskSnapshot.sessionId taskId afterSequence 512
  | none => readTaskEventPage db taskId afterSequence 512

def replayAuthorityTail (taskId : TaskId)
    (anchor : Option AuthenticatedCheckpointAuthority) : Except CarlError AuthorityReplay :=
  foldPages (readAuthorityPage db taskId anchor) (·.sequence)
    AuthorityReplay.step (db.events.rows.length + 1)
    (anchor.map (·.sourceSequenceEnd)) (AuthorityReplay.initial anchor)

/-! ## The authority check -/

abbrev OperationTuple :=
  OperationId × OperationStatus × EffectClass × String × List Nat

def OperationCheckpoint.tuple (operation : OperationCheckpoint) : OperationTuple :=
  (operation.operationId, operation.status, operation.effectClass,
    operation.requestDigest, operation.evidenceSequences)

def JournalOperationState.tuple (entry : OperationId × JournalOperationState) : OperationTuple :=
  (entry.1, entry.2.status, entry.2.effectClass, entry.2.requestDigest,
    entry.2.evidence.consumedSequences)

def nextGeneration (generation : Nat) : Except CarlError Nat := do
  rejectIf (generation + 1 > maxU32) (.validation "checkpoint generation overflowed")
  .ok (generation + 1)

def expectedGeneration : Except CarlError Nat :=
  match anchor with
  | some authority => nextGeneration authority.compactionGeneration
  | none =>
    match current.snapshot.latestCheckpoint with
    | none => .ok 0
    | some checkpointId => do
      let row ← requireSome ((db.children.taskCheckpoints.find? checkpointId).filter
          fun row => decide (row.taskId = checkpoint.taskId))
        (.sqlite .queryReturnedNoRows)
      let previous ← requireSome row.checkpoint
        (.validation "previous checkpoint has no canonical payload")
      nextGeneration previous.compactionGeneration

def authoritativeState : Except CarlError ValidatedCheckpointAuthority :=
  match replay.snapshot with
  | none => .ok ⟨current.snapshot, configuration⟩
  | some snapshot => do
    let replayed ← requireSome replay.children.configuration
      (.storage "incremental task configuration is missing")
    rejectIf (snapshot ≠ current.snapshot) (.storage
      "task projection disagrees with authenticated journal tail replay")
    let stored ← requireSome (loadTaskConfigurationRecord db checkpoint.taskId)
      (.storage "task configuration projection is missing")
    rejectIf (replayed ≠ stored) (.storage
      "task configuration projection disagrees with authenticated journal tail replay")
    .ok ⟨snapshot, replayed⟩

def compareWithAuthority (authority : ValidatedCheckpointAuthority) (replay : AuthorityReplay) :
    Except CarlError Unit := do
  rejectIf (authority.taskSnapshot.activeEpoch.isSome ∨
    authority.taskSnapshot.hasUnresolvedOperations)
    (.validation "checkpoint requires an authoritative safe boundary")
  rejectIf (checkpoint.contract ≠ authority.taskSnapshot.contract ∨
    checkpoint.provider.contextId ≠ authority.taskSnapshot.providerContext)
    (.validation "checkpoint contract or provider context does not match the authoritative journal")
  rejectIf (checkpoint.provider.provider ≠ "codex" ∨
    checkpoint.provider.model ≠ authority.configuration.activeModel.asStr ∨
    checkpoint.provider.effort ≠ authority.configuration.activeEffort.asCodexValue)
    (.validation "checkpoint provider metadata does not match the authoritative journal")
  rejectIf (checkpoint.provider.observedTotalTokens ≠ replay.usage.totalTokens ∨
    checkpoint.provider.observedContextWindow ≠ replay.usage.contextWindow)
    (.validation "checkpoint usage metadata does not match the task journal")
  rejectIf (sortByKey (·.1) (checkpoint.operations.map OperationCheckpoint.tuple) ≠
    replay.operations.entries.map JournalOperationState.tuple)
    (.validation "checkpoint operations do not match the authoritative projection")

def validateCheckpointAuthorityFromAnchor : Except CarlError ValidatedCheckpointAuthority := do
  let replay ← replayAuthorityTail db checkpoint.taskId anchor
  rejectIf (replay.lastTailSequence ≠ some checkpoint.sourceSequenceEnd)
    (.validation "checkpoint authority tail is incomplete")
  let authority ← authoritativeState db current configuration checkpoint replay
  compareWithAuthority checkpoint authority replay
  let generation ← expectedGeneration db current checkpoint anchor
  rejectIf (checkpoint.compactionGeneration ≠ generation)
    (.validation "checkpoint generation does not match durable history")
  .ok authority

def validateCheckpointAuthority : Except CarlError ValidatedCheckpointAuthority :=
  validateCheckpointAuthorityFromAnchor db current configuration checkpoint none

def validateCheckpointAuthorityIncremental (authority : AuthenticatedCheckpointAuthority) :
    Except CarlError ValidatedCheckpointAuthority := do
  rejectIf (checkpoint.previousDigest ≠ some authority.digest ∨
    checkpoint.sourceSequenceStart ≠ authority.sourceSequenceStart)
    (.validation "checkpoint does not extend its authenticated authority")
  validateCheckpointAuthorityFromAnchor db current authority.configuration
    checkpoint (some authority)

def checkpointFallbackAuthorityError : CarlError → CarlError
  | .storage detail =>
    if Text.endsWith "disagrees with journal replay".toList detail.toList then
      .validation detail
    else .storage detail
  | error => error

end CarlAgent.Storage
