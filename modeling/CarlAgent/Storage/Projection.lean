import CarlAgent.Foundation.Table
import CarlAgent.Task.Context

/-!
# The tables of the task store

One row type for each table the task functions touch.  A JSON column holds the
value whose compact text the column stores, and time stamps are left out.  The
constraints are checked where a statement writes a row; a CHECK that the
event's own field checks already imply is not repeated.
-/

namespace CarlAgent.Storage

open Foundation CarlAgent.Task

/-- What SQLite itself reports.  The store passes the message on. -/
inductive SqliteError where
  | unique (columns : String)
  | check (column : String)
  | notNull (column : String)
  | foreignKey
  | queryReturnedNoRows
  | integerOverflow
  deriving DecidableEq, Repr

inductive CarlError where
  | validation (detail : String)
  | policy (detail : String)
  | storage (detail : String)
  | sqlite (error : SqliteError)
  deriving DecidableEq, Repr

def taskReduceError (code : TaskReduceErrorCode) : CarlError :=
  .validation ("task event cannot be applied: " ++ code.asStr)

def taskReplayError (code : TaskReduceErrorCode) : CarlError :=
  .storage ("task journal replay failed: " ++ code.asStr)

def maxI64 : Nat := 2 ^ 63 - 1

def revisionToSql (value : Nat) : Except CarlError Unit :=
  rejectIf (value > maxI64) (.storage "subscription run sequence is too large")

def requireProjectionChange {α : Type} (changed : Option α) (detail : String) :
    Except CarlError α :=
  requireSome changed (.storage detail)

structure SessionRow where
  id : SessionId
  nextSequence : Nat
  deriving DecidableEq

structure AgentTaskRow where
  id : TaskId
  sessionId : SessionId
  status : TaskStatus
  contract : CompletionContract
  budget : TaskBudget
  snapshot : TaskSnapshot
  canonicalWorkspace : String
  model : ModelId
  effort : ReasoningEffort
  permissionMode : PermissionMode
  revision : Nat
  currentEpochId : Option EpochId
  latestCheckpointId : Option CheckpointId
  providerContext : Option String
  deriving DecidableEq

inductive EpochStatus where
  | active
  | finished
  | interrupted
  deriving DecidableEq, Repr

structure TaskEpochRow where
  id : EpochId
  taskId : TaskId
  objective : String
  status : EpochStatus
  startedSequence : Nat
  finishedSequence : Option Nat
  reportDigest : Option String
  deriving DecidableEq

structure TaskEpochInterruptionRow where
  taskId : TaskId
  epochId : EpochId
  reason : EpochInterruptReason
  eventSequence : Nat
  deriving DecidableEq

structure TaskConfigurationRecord where
  activeModel : ModelId
  activeEffort : ReasoningEffort
  activePermissionMode : PermissionMode
  effectivePermissionMode : PermissionMode
  pendingControlId : Option String
  pendingModel : Option ModelId
  pendingEffort : Option ReasoningEffort
  pendingPermissionMode : Option PermissionMode
  queuedSequence : Option Nat
  appliedSequence : Option Nat
  deriving DecidableEq

def TaskConfigurationRecord.initial (model : ModelId) (effort : ReasoningEffort)
    (permissionMode : PermissionMode) : TaskConfigurationRecord where
  activeModel := model
  activeEffort := effort
  activePermissionMode := permissionMode
  effectivePermissionMode := permissionMode
  pendingControlId := none
  pendingModel := none
  pendingEffort := none
  pendingPermissionMode := none
  queuedSequence := none
  appliedSequence := none

structure TaskConfigurationRow where
  taskId : TaskId
  record : TaskConfigurationRecord
  deriving DecidableEq

structure ServiceConfigurationControlRow where
  taskId : TaskId
  controlId : String
  eventSequence : Nat
  deriving DecidableEq

structure TaskControlMarkerRow where
  taskId : TaskId
  controlId : String
  kind : TaskControlKind
  eventSequence : Nat
  deriving DecidableEq

structure TaskOperationRow where
  id : OperationId
  taskId : TaskId
  epochId : EpochId
  itemId : String
  effectClass : EffectClass
  requestDigest : String
  status : OperationStatus
  intentSequence : Nat
  lastTransitionSequence : Nat
  evidenceSequences : List Nat
  deriving DecidableEq

structure TaskCheckpointRow where
  id : CheckpointId
  taskId : TaskId
  digest : String
  eventSequence : Nat
  checkpoint : Option CanonicalCheckpoint
  deriving DecidableEq

structure TaskContextPackageRow where
  id : ContextPackageId
  taskId : TaskId
  checkpointId : CheckpointId
  generation : Nat
  eventSequence : Nat
  package : Option ContextPackage
  deriving DecidableEq

structure TaskSteeringRow where
  taskId : TaskId
  steeringSequence : Nat
  textDigest : String
  eventSequence : Nat
  controlId : Option String
  deriving DecidableEq

structure ServiceTaskReceiptRow where
  idempotencyKey : String
  commandDigest : String
  taskId : TaskId
  deriving DecidableEq

structure ArtifactObjectRow where
  id : String
  byteLength : Nat
  deriving DecidableEq

structure ChildTables where
  taskEpochs : Table TaskEpochRow.id
  taskEpochInterruptions : Table fun row : TaskEpochInterruptionRow => (row.taskId, row.epochId)
  taskConfigurationState : Table TaskConfigurationRow.taskId
  serviceConfigurationControls :
    Table fun row : ServiceConfigurationControlRow =>
      (row.taskId, row.controlId)
  taskControlMarkers : Table fun row : TaskControlMarkerRow => (row.taskId, row.controlId)
  taskOperations : Table TaskOperationRow.id
  taskCheckpoints : Table TaskCheckpointRow.id
  taskContextPackages : Table TaskContextPackageRow.id
  taskSteering : Table fun row : TaskSteeringRow => (row.taskId, row.steeringSequence)

structure Db where
  sessions : Table SessionRow.id
  events : Table fun row : EventEnvelope => (row.sessionId, row.sequence)
  agentTasks : Table AgentTaskRow.id
  children : ChildTables
  serviceTaskReceipts : Table ServiceTaskReceiptRow.idempotencyKey
  artifactObjects : Table ArtifactObjectRow.id

def ChildTables.empty : ChildTables where
  taskEpochs := .empty
  taskEpochInterruptions := .empty
  taskConfigurationState := .empty
  serviceConfigurationControls := .empty
  taskControlMarkers := .empty
  taskOperations := .empty
  taskCheckpoints := .empty
  taskContextPackages := .empty
  taskSteering := .empty

def Db.empty : Db where
  sessions := .empty
  events := .empty
  agentTasks := .empty
  children := .empty
  serviceTaskReceipts := .empty
  artifactObjects := .empty

def insertRow {ρ κ : Type} [DecidableEq κ] {key : ρ → κ} (table : Table key)
    (row : ρ) (columns : String) : Except CarlError (Table key) :=
  requireSome (table.insert row) (.sqlite (.unique columns))

def requireUnique {ρ κ : Type} {key : ρ → κ} (table : Table key)
    (clash : ρ → Bool) (columns : String) : Except CarlError Unit :=
  rejectIf (table.rows.any clash) (.sqlite (.unique columns))

theorem insertRow_eq_ok {ρ κ : Type} [DecidableEq κ] {key : ρ → κ} {table next : Table key}
    {row : ρ} {columns : String} :
    insertRow table row columns = .ok next ↔ table.insert row = some next := by
  simp [insertRow]

/-! ## Writing the task projections -/

/-- The JSON writer refuses a path that is not UTF-8. -/
def isSerializable : Event → Bool
  | .taskLifecycle _ (.created _ .nonUtf8 _ _ _ _ _) => false
  | _ => true

def appendEventInTransaction (db : Db) (sessionId : SessionId) (event : Event) :
    Except CarlError (EventEnvelope × Db) := do
  let session ← requireSome (db.sessions.find? sessionId)
    (.storage ("session " ++ sessionId.text ++ " does not exist"))
  let sequence := session.nextSequence
  rejectIf (sequence + 1 > maxI64) (.sqlite .integerOverflow)
  let sessions ← requireProjectionChange (db.sessions.update sessionId (fun _ => true)
      (fun row => { row with nextSequence := row.nextSequence + 1 })
      (fun _ => rfl))
    ("session " ++ sessionId.text ++ " does not exist")
  rejectIf (¬ isSerializable event) (.storage "path contains invalid UTF-8 characters")
  revisionToSql sequence
  let envelope : EventEnvelope := ⟨sessionId, sequence, event⟩
  let events ← insertRow db.events envelope "events.session_id, events.sequence"
  .ok (envelope, { db with sessions, events })

def maxContractJsonBytes : Nat := 4194304
def maxSnapshotJsonBytes : Nat := 8388608

def isStoredModel (model : ModelId) : Bool :=
  model.asStr.toList.all fun c =>
    Text.isAsciiAlphanumeric c || c == '_' || c == '.' || c == ':' || c == '-'

def checkTaskColumns (snapshot : TaskSnapshot) : Except CarlError Unit := do
  rejectIf (snapshot.contract.toJson.size > maxContractJsonBytes)
    (.sqlite (.check "agent_tasks.contract_json"))
  rejectIf (snapshot.toJson.size > maxSnapshotJsonBytes)
    (.sqlite (.check "agent_tasks.snapshot_json"))

def storedPermissionMode : PermissionMode → PermissionMode
  | .fullAccess => .bypassPermissions
  | mode => mode

def insertTaskProjection (db : Db) (snapshot : TaskSnapshot)
    (workspace : PathBuf) (model : ModelId) (effort : ReasoningEffort)
    (permissionMode : PermissionMode) : Except CarlError Db := do
  let workspace ← match workspace with
    | .utf8 text => .ok text
    | .nonUtf8 => .error (.validation "task workspace is not UTF-8")
  revisionToSql snapshot.revision
  checkTaskColumns snapshot
  rejectIf (¬ isStoredModel model) (.sqlite (.check "agent_tasks.model"))
  let agentTasks ← insertRow db.agentTasks
    { id := snapshot.taskId, sessionId := snapshot.sessionId, status := snapshot.status,
      contract := snapshot.contract, budget := snapshot.budget, snapshot,
      canonicalWorkspace := workspace, model, effort,
      permissionMode := storedPermissionMode permissionMode, revision := snapshot.revision,
      currentEpochId := none, latestCheckpointId := none, providerContext := none } "agent_tasks.id"
  let taskConfigurationState ← insertRow db.children.taskConfigurationState
    { taskId := snapshot.taskId, record := .initial model effort permissionMode }
    "task_configuration_state.task_id"
  .ok { db with
    agentTasks := agentTasks
    children := { db.children with taskConfigurationState } }

/-- The columns of a task row that follow its snapshot. -/
def AgentTaskRow.withSnapshot (row : AgentTaskRow) (snapshot : TaskSnapshot) : AgentTaskRow :=
  { row with
    status := snapshot.status, contract := snapshot.contract, budget := snapshot.budget, snapshot,
    revision := snapshot.revision, currentEpochId := snapshot.activeEpoch,
    latestCheckpointId := snapshot.latestCheckpoint, providerContext := snapshot.providerContext }

def updateTaskProjection (db : Db) (snapshot : TaskSnapshot) : Except CarlError Db := do
  revisionToSql snapshot.revision
  let agentTasks ← requireProjectionChange
    (db.agentTasks.update snapshot.taskId (fun row => decide (row.revision = snapshot.revision - 1))
      (fun row => row.withSnapshot snapshot) (fun _ => rfl))
    "task projection revision changed during transactional append"
  checkTaskColumns snapshot
  rejectIf (∃ epochId ∈ snapshot.activeEpoch,
    db.children.taskEpochs.find? epochId = none) (.sqlite .foreignKey)
  rejectIf (∃ checkpointId ∈ snapshot.latestCheckpoint,
    db.children.taskCheckpoints.find? checkpointId = none) (.sqlite .foreignKey)
  .ok { db with agentTasks }

section Children

variable (children : ChildTables) (taskId : TaskId) (sequence : Nat)

def ChildTables.startEpoch (epochId : EpochId) (objective : String) :
    Except CarlError ChildTables := do
  let taskEpochs ← insertRow children.taskEpochs
    { id := epochId, taskId, objective, status := .active, startedSequence := sequence,
      finishedSequence := none, reportDigest := none } "task_epochs.id"
  requireUnique children.taskEpochs
    (fun row => decide (row.taskId = taskId ∧ row.startedSequence = sequence))
    "task_epochs.task_id, task_epochs.started_sequence"
  .ok { children with taskEpochs }

/-- The two statements that close an active epoch differ in its new status,
in the report and in the error text. -/
def ChildTables.closeEpoch (epochId : EpochId) (status : EpochStatus) (reportDigest : Option String)
    (missing : String) : Except CarlError ChildTables := do
  let taskEpochs ← requireProjectionChange (children.taskEpochs.update epochId
      (fun row => decide (row.taskId = taskId ∧ row.status = .active))
      (fun row =>
        { row with
          status, finishedSequence := some sequence, reportDigest }) (fun _ => rfl)) missing
  rejectIf (∃ row ∈ children.taskEpochs.find? epochId, sequence ≤ row.startedSequence)
    (.sqlite (.check "task_epochs.finished_sequence"))
  .ok { children with taskEpochs }

def ChildTables.interruptEpoch (epochId : EpochId)
    (reason : EpochInterruptReason) : Except CarlError ChildTables := do
  let children ← children.closeEpoch taskId sequence epochId .interrupted none
    "active interrupted task epoch projection is missing"
  let taskEpochInterruptions ← insertRow children.taskEpochInterruptions
    { taskId, epochId, reason, eventSequence := sequence }
    "task_epoch_interruptions.task_id, task_epoch_interruptions.epoch_id"
  .ok { children with taskEpochInterruptions }

def permissionStrength (mode : PermissionMode) : Nat :=
  match mode.profile with
  | .readOnly => 0
  | .approval => 1
  | .fullAccess => 2

def tightenedMode (effective queued : PermissionMode) : PermissionMode :=
  if permissionStrength queued < permissionStrength effective then queued
  else effective

def TaskConfigurationRecord.queue (record : TaskConfigurationRecord) (sequence : Nat)
    (controlId : String) (model : ModelId) (effort : ReasoningEffort)
    (permissionMode : PermissionMode) : TaskConfigurationRecord :=
  { record with
    pendingControlId := some controlId
    pendingModel := some model
    pendingEffort := some effort
    pendingPermissionMode := some permissionMode
    effectivePermissionMode := tightenedMode record.effectivePermissionMode permissionMode
    queuedSequence := some sequence }

def TaskConfigurationRecord.applied (sequence : Nat) (model : ModelId) (effort : ReasoningEffort)
    (permissionMode : PermissionMode) : TaskConfigurationRecord :=
  { TaskConfigurationRecord.initial model effort permissionMode with
    appliedSequence := some sequence }

def ChildTables.queueConfiguration (controlId : String) (model : ModelId) (effort : ReasoningEffort)
    (permissionMode : PermissionMode) : Except CarlError ChildTables := do
  let stored ← requireSome (children.taskConfigurationState.find? taskId)
    (.sqlite .queryReturnedNoRows)
  let effectiveMode := tightenedMode stored.record.effectivePermissionMode permissionMode
  rejectIf (¬ isStoredModel model) (.sqlite (.check "task_configuration_state.pending_model"))
  let taskConfigurationState ← requireProjectionChange
    (children.taskConfigurationState.update taskId (fun _ => true)
      (fun row =>
        { row with
          record :=
            { row.record with
              pendingControlId := some controlId, pendingModel := some model,
              pendingEffort := some effort, pendingPermissionMode := some permissionMode,
              effectivePermissionMode := effectiveMode,
              queuedSequence := some sequence } }) (fun _ => rfl))
    "task configuration projection is missing"
  let serviceConfigurationControls ← insertRow children.serviceConfigurationControls
      { taskId, controlId, eventSequence := sequence }
      "service_configuration_controls.task_id, service_configuration_controls.control_id"
  requireUnique children.serviceConfigurationControls
    (fun row => decide (row.taskId = taskId ∧ row.eventSequence = sequence))
    "service_configuration_controls.task_id, service_configuration_controls.event_sequence"
  .ok { children with taskConfigurationState, serviceConfigurationControls }

def ChildTables.applyConfiguration (controlId : String) : Except CarlError ChildTables := do
  let stored ← requireProjectionChange
    ((children.taskConfigurationState.find? taskId).filter fun row =>
      decide (row.record.pendingControlId = some controlId))
    "queued task configuration control identity is missing"
  let model ← requireSome stored.record.pendingModel
    (.sqlite (.notNull "task_configuration_state.active_model"))
  let effort ← requireSome stored.record.pendingEffort
    (.sqlite (.notNull "task_configuration_state.active_effort"))
  let permissionMode ← requireSome stored.record.pendingPermissionMode
    (.sqlite (.notNull "task_configuration_state.active_permission_mode"))
  let taskConfigurationState ← requireProjectionChange
    (children.taskConfigurationState.update taskId (fun _ => true)
      (fun row =>
        { row with record := .applied sequence model effort permissionMode }) (fun _ => rfl))
    "queued task configuration control identity is missing"
  .ok { children with taskConfigurationState }

def ChildTables.insertControlMarker (controlId : String)
    (kind : TaskControlKind) : Except CarlError ChildTables := do
  let taskControlMarkers ← insertRow children.taskControlMarkers
    { taskId, controlId, kind, eventSequence := sequence }
    "task_control_markers.task_id, task_control_markers.control_id"
  requireUnique children.taskControlMarkers
    (fun row => decide (row.taskId = taskId ∧ row.eventSequence = sequence))
    "task_control_markers.task_id, task_control_markers.event_sequence"
  .ok { children with taskControlMarkers }

def ChildTables.insertOperation (operationId : OperationId) (epochId : EpochId) (itemId : String)
    (effectClass : EffectClass) (requestDigest : String) : Except CarlError ChildTables := do
  let taskOperations ← insertRow children.taskOperations
    { id := operationId, taskId, epochId, itemId, effectClass, requestDigest,
      status := .intentRecorded, intentSequence := sequence, lastTransitionSequence := sequence,
      evidenceSequences := [] } "task_operations.id"
  requireUnique children.taskOperations
    (fun row => decide (row.taskId = taskId ∧ row.intentSequence = sequence))
    "task_operations.task_id, task_operations.intent_sequence"
  rejectIf (¬ (children.taskEpochs.find? epochId).any fun row =>
    decide (row.taskId = taskId)) (.sqlite .foreignKey)
  .ok { children with taskOperations }

def ChildTables.transitionOperation (operationId : OperationId) (source target : OperationStatus)
    (evidenceSequences : List Nat) : Except CarlError ChildTables := do
  let taskOperations ← requireProjectionChange (children.taskOperations.update operationId
      (fun row => decide (row.taskId = taskId ∧ row.status = source))
      (fun row =>
        { row with
          status := target, lastTransitionSequence := sequence, evidenceSequences }) (fun _ => rfl))
    "task operation projection is missing"
  rejectIf (∃ row ∈ children.taskOperations.find? operationId, sequence < row.intentSequence)
    (.sqlite (.check "task_operations.last_transition_sequence"))
  .ok { children with taskOperations }

def ChildTables.insertCheckpoint (checkpointId : CheckpointId) (digest : String)
    (checkpoint : Option CanonicalCheckpoint) : Except CarlError ChildTables := do
  let taskCheckpoints ← insertRow children.taskCheckpoints
    { id := checkpointId, taskId, digest, eventSequence := sequence,
      checkpoint } "task_checkpoints.id"
  requireUnique children.taskCheckpoints
    (fun row => decide (row.taskId = taskId ∧ row.eventSequence = sequence))
    "task_checkpoints.task_id, task_checkpoints.event_sequence"
  .ok { children with taskCheckpoints }

def ChildTables.insertContextPackage (contextPackageId : ContextPackageId)
    (checkpointId : CheckpointId) (generation : Nat)
    (package : Option ContextPackage) : Except CarlError ChildTables := do
  let taskContextPackages ← insertRow children.taskContextPackages
    { id := contextPackageId, taskId, checkpointId, generation, eventSequence := sequence,
      package } "task_context_packages.id"
  requireUnique children.taskContextPackages
    (fun row => decide (row.taskId = taskId ∧ row.generation = generation))
    "task_context_packages.task_id, task_context_packages.generation"
  requireUnique children.taskContextPackages
    (fun row => decide (row.taskId = taskId ∧ row.eventSequence = sequence))
    "task_context_packages.task_id, task_context_packages.event_sequence"
  rejectIf (¬ (children.taskCheckpoints.find? checkpointId).any fun row =>
    decide (row.taskId = taskId)) (.sqlite .foreignKey)
  .ok { children with taskContextPackages }

def ChildTables.completeCompaction (generation : Nat) (checkpointId : CheckpointId)
    (contextPackageId : ContextPackageId) : Except CarlError ChildTables :=
  match children.taskContextPackages.find? contextPackageId with
  | some stored => do
    rejectIf (stored.taskId ≠ taskId ∨ stored.checkpointId ≠ checkpointId ∨
      stored.generation ≠ generation ∨ stored.package = none)
      (.storage "completed compaction does not match its atomic context package")
    .ok children
  | none =>
    children.insertContextPackage taskId sequence contextPackageId checkpointId generation none

def ChildTables.insertSteering (steeringSequence : Nat) (textDigest : String) :
    Except CarlError ChildTables := do
  revisionToSql steeringSequence
  let taskSteering ← insertRow children.taskSteering
    { taskId, steeringSequence, textDigest, eventSequence := sequence, controlId := none }
    "task_steering.task_id, task_steering.steering_sequence"
  requireUnique children.taskSteering
    (fun row => decide (row.taskId = taskId ∧ row.eventSequence = sequence))
    "task_steering.task_id, task_steering.event_sequence"
  .ok { children with taskSteering }

end Children

def ChildTables.apply (children : ChildTables) (taskId : TaskId)
    (sequence : Nat) : TaskEvent → Except CarlError ChildTables
  | .epochStarted epochId objective =>
    children.startEpoch taskId sequence epochId objective
  | .epochFinished epochId reportDigest =>
    children.closeEpoch taskId sequence epochId .finished (some reportDigest)
      "active task epoch projection is missing"
  | .epochInterrupted epochId reason =>
    children.interruptEpoch taskId sequence epochId reason
  | .configurationQueued controlId model effort permissionMode =>
    children.queueConfiguration taskId sequence controlId model effort permissionMode
  | .configurationApplied controlId =>
    children.applyConfiguration taskId sequence controlId
  | .controlRequested controlId kind =>
    children.insertControlMarker taskId sequence controlId kind
  | .operationIntentRecorded operationId epochId itemId effectClass
    requestDigest =>
    children.insertOperation taskId sequence operationId epochId itemId effectClass requestDigest
  | .operationTransitioned operationId source target evidenceSequences =>
    children.transitionOperation taskId sequence operationId source target evidenceSequences
  | .checkpointCommitted checkpointId digest =>
    children.insertCheckpoint taskId sequence checkpointId digest none
  | .compactionCompleted generation checkpointId contextPackageId =>
    children.completeCompaction taskId sequence generation checkpointId contextPackageId
  | .steeringQueued steeringSequence textDigest =>
    children.insertSteering taskId sequence steeringSequence textDigest
  | .created _ _ _ _ _ _ _ => .ok children
  | .stateTransitioned _ _ _ => .ok children
  | .contractRevised _ => .ok children
  | .providerRequestRecorded _ _ _ _ => .ok children
  | .providerEpochBound _ _ => .ok children
  | .usageObserved _ _ _ => .ok children
  | .operationEvidenceRecorded _ _ => .ok children
  | .normalizedOperationEvidenceRecorded _ _ => .ok children
  | .operationPostconditionBound _ _ => .ok children
  | .operationFilePostconditionBound _ _ => .ok children
  | .progressAssessed _ _ => .ok children
  | .recoveryAttemptStarted _ _ _ => .ok children
  | .recoveryAttemptRecorded _ _ _ _ => .ok children
  | .compactionRequested _ _ => .ok children
  | .providerContextBound _ => .ok children
  | .providerContextLost _ _ => .ok children
  | .backgroundProcessTerminationRecorded _ _ _ => .ok children
  | .cancellationRequested => .ok children
  | .blocked _ => .ok children
  | .completed => .ok children

def applyTaskChildProjection (db : Db) (taskId : TaskId)
    (envelope : EventEnvelope) : Except CarlError Db :=
  match envelope.event with
  | .other => .error (.storage "task projection received a non-task event")
  | .taskLifecycle _ event => do
    revisionToSql envelope.sequence
    let children ← db.children.apply taskId envelope.sequence event
    .ok { db with children }

structure TaskRecord where
  snapshot : TaskSnapshot
  revision : Nat
  deriving DecidableEq

def loadTaskRecord (db : Db) (taskId : TaskId) : Except CarlError (Option TaskRecord) :=
  match db.agentTasks.find? taskId with
  | none => .ok none
  | some row => do
    rejectIf (row.snapshot.taskId ≠ taskId ∨
      row.snapshot.sessionId ≠ row.sessionId ∨
      row.snapshot.status ≠ row.status ∨ row.snapshot.contract ≠ row.contract ∨
      row.snapshot.budget ≠ row.budget ∨ row.snapshot.revision ≠ row.revision ∨
      row.snapshot.activeEpoch ≠ row.currentEpochId ∨
      row.snapshot.latestCheckpoint ≠ row.latestCheckpointId ∨
      row.snapshot.providerContext ≠ row.providerContext)
      (.storage "stored task projection is internally inconsistent")
    .ok (some ⟨row.snapshot, row.revision⟩)

def appendTaskEventInTransaction (db : Db) (current : TaskRecord)
    (event : TaskEvent) : Except CarlError (TaskRecord × Nat × Db) := do
  let taskId := current.snapshot.taskId
  let (envelope, db) ← appendEventInTransaction db current.snapshot.sessionId
    (.taskLifecycle taskId event)
  let snapshot ← (reduceTask (some current.snapshot) envelope).mapError taskReduceError
  let db ← applyTaskChildProjection db taskId envelope
  let db ← updateTaskProjection db snapshot
  .ok (⟨snapshot, snapshot.revision⟩, envelope.sequence, db)

end CarlAgent.Storage
