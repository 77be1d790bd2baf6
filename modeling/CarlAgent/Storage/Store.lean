import CarlAgent.Storage.Authority

/-!
# The calls of the store

Each function below is the body of one call inside its transaction: it yields
the database that the commit makes visible, or an error.  A `World` is the
database with the handles that callers hold on it, and `World.step` runs one
call: a transaction is atomic, so a call that fails changes nothing.
-/

namespace CarlAgent.Storage

open Foundation CarlAgent.Task

variable (db : Db)

def createSession (sessionId : SessionId) : Except CarlError Db := do
  let sessions ← insertRow db.sessions ⟨sessionId, 1⟩ "sessions.id"
  .ok { db with sessions }

def registerArtifactObject (id : String) (byteLength : Nat) : Except CarlError Db := do
  rejectIf (¬ Text.isLowercaseSha256 id) (.sqlite (.check "artifact_objects.id"))
  revisionToSql byteLength
  match db.artifactObjects.find? id with
  | some row => do
    rejectIf (row.byteLength ≠ byteLength)
      (.storage "content-addressed artifact length is inconsistent")
    .ok db
  | none => do
    let artifactObjects ← insertRow db.artifactObjects ⟨id, byteLength⟩ "artifact_objects.id"
    .ok { db with artifactObjects }

/-- What the file system says about the workspace of a new task. -/
inductive WorkspaceLookup where
  | unavailable
  | notDirectory
  | directory (path : PathBuf)
  deriving DecidableEq

structure NewTask where
  taskId : TaskId
  sessionId : SessionId
  workspace : WorkspaceLookup
  contract : CompletionContract
  model : ModelId
  effort : ReasoningEffort
  permissionMode : PermissionMode
  budget : TaskBudget
  deriving DecidableEq

def canonicalWorkspace : WorkspaceLookup → Except CarlError PathBuf
  | .unavailable => .error (.validation "task workspace is unavailable")
  | .notDirectory => .error (.validation "task workspace is not a directory")
  | .directory path => .ok path

def NewTask.event (input : NewTask) (workspace : PathBuf) : TaskEvent :=
  .created input.sessionId workspace input.contract input.budget input.model
    input.effort input.permissionMode

def insertTask (input : NewTask) : Except CarlError (TaskRecord × Db) := do
  let workspace ← canonicalWorkspace input.workspace
  let (envelope, db) ← appendEventInTransaction db input.sessionId
    (.taskLifecycle input.taskId (input.event workspace))
  let snapshot ← (reduceTask none envelope).mapError taskReduceError
  let db ← insertTaskProjection db snapshot workspace input.model input.effort input.permissionMode
  .ok (⟨snapshot, snapshot.revision⟩, db)

def createTask (input : NewTask) : Except CarlError (TaskRecord × Db) :=
  insertTask db input

/-- A creation under a receipt: the second use of a key returns the task of
the first, and no database to commit. -/
def createTaskIdempotent (input : NewTask) (idempotencyKey : String)
    (commandDigest : Sha256Digest) : Except CarlError (TaskRecord × Option Db) := do
  rejectIf (idempotencyKey.isEmpty ∨ idempotencyKey.utf8ByteSize > 128 ∨
    Text.hasControl idempotencyKey) (.policy "service task idempotency key is invalid")
  match db.serviceTaskReceipts.find? idempotencyKey with
  | some receipt => do
    rejectIf (receipt.commandDigest ≠ commandDigest.text)
      (.policy "service task idempotency key was rebound")
    let record ← requireSome (← loadTaskRecord db receipt.taskId)
      (.storage "service task receipt lost its task")
    .ok (record, none)
  | none => do
    let (record, db) ← insertTask db input
    let serviceTaskReceipts ← insertRow db.serviceTaskReceipts
      ⟨idempotencyKey, commandDigest.text, input.taskId⟩
      "service_task_receipts.idempotency_key"
    .ok (record, some { db with serviceTaskReceipts })

def append (sessionId : SessionId) (event : Event) : Except CarlError Db :=
  match event with
  | .taskLifecycle _ _ => .error
    (.validation "task lifecycle events require the transactional task API")
  | .other => do
    let (_, db) ← appendEventInTransaction db sessionId .other
    .ok db

variable (taskId : TaskId)

def currentRecord (expectedRevision : Nat) :
    Except CarlError (Option TaskRecord) := do
  let record ← loadTaskRecord db taskId
  .ok (record.filter fun current =>
    decide (current.revision = expectedRevision))

def appendTaskEvent (expectedRevision : Nat)
    (event : TaskEvent) : Except CarlError (Option (TaskRecord × Db)) := do
  match ← currentRecord db taskId expectedRevision with
  | none => .ok none
  | some current => do
    let (record, _, db) ← appendTaskEventInTransaction db current event
    .ok (some (record, db))

/-- The steering row of one event, while no control is bound to it. -/
def isUnboundSteering (eventSequence : Nat) (row : TaskSteeringRow) : Bool :=
  decide (row.taskId = taskId ∧ row.eventSequence = eventSequence ∧ row.controlId = none)

def bindSteeringControl (eventSequence : Nat)
    (controlId : String) : Except CarlError Db := do
  requireUnique db.children.taskSteering
    (fun row => decide (row.taskId = taskId ∧ row.controlId = some controlId))
    "task_steering.task_id, task_steering.control_id"
  rejectIf (¬ db.children.taskSteering.rows.any (isUnboundSteering taskId eventSequence))
    (.storage "task steering control binding was not applied")
  .ok { db with
    children := { db.children with
      taskSteering := db.children.taskSteering.mapRows
        (fun row => if isUnboundSteering taskId eventSequence row then
          { row with controlId := some controlId } else row)
        (by intro row; split <;> rfl) } }

def appendControlledTaskSteering
    (expectedRevision steeringSequence : Nat) (textDigest controlId : String) :
    Except CarlError (Option (TaskRecord × Db)) := do
  rejectIf (¬ Text.isLowercaseSha256 controlId) (.policy "task steering control ID is invalid")
  match ← currentRecord db taskId expectedRevision with
  | none => .ok none
  | some current => do
    let (record, eventSequence, db) ← appendTaskEventInTransaction db current
      (.steeringQueued steeringSequence textDigest)
    let db ← bindSteeringControl db taskId eventSequence controlId
    .ok (some (record, db))

structure CheckpointRecord where
  checkpoint : CanonicalCheckpoint
  checkpointDigest : String
  contextPackageDigest : String
  deriving DecidableEq

section

variable (sha256 : Sha256) (db : Db)

/-- The kept authority, when nobody else has written since and it is the one
of the stored checkpoint. -/
def incrementalAnchor (current : TaskRecord) (dataVersion : Nat)
    (cached : Option AuthenticatedCheckpointAuthority) : Option AuthenticatedCheckpointAuthority :=
  cached.filter fun authority =>
    decide (authority.dataVersion = dataVersion) &&
      authenticatedCheckpointMatchesDatabase sha256 db current authority

def validateNewCheckpoint (current : TaskRecord) (input : NewCheckpoint)
    (anchor : Option AuthenticatedCheckpointAuthority) :
    Except CarlError (TaskRecord × ValidatedCheckpointAuthority) :=
  match anchor with
  | some authority => do
    let validated ← validateCheckpointAuthorityIncremental db current input.checkpoint authority
    .ok (current, validated)
  | none => do
    let authoritative ← (validateTaskAuthorityFromJournal db
      input.taskId).mapError checkpointFallbackAuthorityError
    validateTaskCanonicalPayloadsFiltered sha256 db (some input.taskId)
    validateCheckpointHistory db authoritative.record input
    let validated ← validateCheckpointAuthority db authoritative.record
      authoritative.configuration input.checkpoint
    .ok (authoritative.record, validated)

def ChildTables.insertCanonical (children : ChildTables) (sequence : Nat)
    (input : NewCheckpoint) : Except CarlError ChildTables := do
  let children ← children.insertCheckpoint input.taskId sequence
    input.checkpoint.checkpointId input.checkpointDigest
    (some input.checkpoint.normalize)
  children.insertContextPackage input.taskId sequence
    input.contextPackage.packageId input.checkpoint.checkpointId
    input.checkpoint.compactionGeneration (some input.contextPackage)

def insertCheckpointInTransaction (current : TaskRecord)
    (input : NewCheckpoint) : Except CarlError Db := do
  let (envelope, db) ← appendEventInTransaction db current.snapshot.sessionId
    (.taskLifecycle input.taskId (.checkpointCommitted input.checkpoint.checkpointId
        input.checkpointDigest))
  let snapshot ← (reduceTask (some current.snapshot) envelope).mapError taskReduceError
  revisionToSql envelope.sequence
  let children ← db.children.insertCanonical envelope.sequence input
  updateTaskProjection { db with children } snapshot

def newAuthority (input : NewCheckpoint) (validated : ValidatedCheckpointAuthority)
    (dataVersion : Nat) :
    AuthenticatedCheckpointAuthority where
  checkpointId := input.checkpoint.checkpointId
  taskId := input.checkpoint.taskId
  sourceSequenceStart := input.checkpoint.sourceSequenceStart
  sourceSequenceEnd := input.checkpoint.sourceSequenceEnd
  compactionGeneration := input.checkpoint.compactionGeneration
  operations := input.checkpoint.operations
  observedTotalTokens := input.checkpoint.provider.observedTotalTokens
  observedContextWindow := input.checkpoint.provider.observedContextWindow
  taskSnapshot := validated.taskSnapshot
  configuration := validated.configuration
  digest := input.checkpointDigest
  dataVersion := dataVersion

def commitCheckpoint (cached : Option AuthenticatedCheckpointAuthority)
    (dataVersion : Nat) (input : NewCheckpoint) (expectedTaskRevision : Nat) :
    Except CarlError (Option (CheckpointRecord × AuthenticatedCheckpointAuthority × Db)) := do
  validateCheckpointInput sha256 input
  match ← currentRecord db input.taskId expectedTaskRevision with
  | none => .ok none
  | some current => do
    let (current, validated) ← validateNewCheckpoint sha256 db current input
      (incrementalAnchor sha256 db current dataVersion cached)
    validateCheckpointArtifacts db input.checkpoint
    let db ← insertCheckpointInTransaction db current input
    .ok (some (⟨input.checkpoint, input.checkpointDigest, input.contextPackageDigest⟩, newAuthority
      input validated dataVersion, db))

def getLatestTaskCheckpoint (taskId : TaskId) :
    Except CarlError (Option CanonicalCheckpoint) := do
  match ← loadTaskRecord db taskId with
  | none => .ok none
  | some record =>
    match record.snapshot.latestCheckpoint with
    | none => .ok none
    | some checkpointId => do
      let row ← requireSome ((db.children.taskCheckpoints.find? checkpointId).filter
          fun row => decide (row.taskId = taskId))
        (.storage "latest task checkpoint has no canonical payload")
      let checkpoint ← requireSome row.checkpoint
        (.storage "latest task checkpoint has no canonical payload")
      rejectIf (checkpoint.taskId ≠ taskId ∨ checkpoint.checkpointId ≠ checkpointId)
        (.storage "latest task checkpoint does not match its projection")
      let digest ← (checkpoint.digest sha256).mapError fun _ =>
        .storage "latest task checkpoint is invalid"
      rejectIf (digest ≠ row.digest)
        (.storage "latest task checkpoint does not match its projection")
      .ok (some checkpoint)

/-! ## Reconciliation at start -/

def addReferencedArtifacts (referenced : List String)
    (row : TaskCheckpointRow) : Except CarlError (List String) :=
  match row.checkpoint with
  | none => .ok referenced
  | some checkpoint => do
    let digest ← (checkpoint.digest sha256).mapError fun _ =>
      .storage "stored canonical checkpoint is invalid"
    rejectIf (digest ≠ row.digest) (.storage "stored canonical checkpoint digest does not match")
    .ok (referenced ++ checkpoint.artifactDigests)

def referencedArtifacts (runReferences : List String) : Except CarlError (List String) :=
  (sortByKey (fun row => toLex (row.taskId, row.eventSequence))
    db.children.taskCheckpoints.rows).foldlM (addReferencedArtifacts sha256) runReferences

/-- Artifacts that neither a run nor a canonical checkpoint refers to go. -/
def reconcileRuntimeArtifacts (runReferences : List String) : Except CarlError Db := do
  let referenced ← referencedArtifacts sha256 db runReferences
  .ok { db with
    artifactObjects := db.artifactObjects.deleteWhere fun row =>
      decide (row.id ∉ referenced) }

def asciiBytes (text : String) : List UInt8 :=
  Text.utf8 text.toList

/-- An operation that was running when the process ended becomes uncertain. -/
def abandonOperation (state : TaskRecord × Db) (operationId : OperationId) :
    Except CarlError (TaskRecord × Db) := do
  let resultDigest := (sha256 (asciiBytes "carl-startup-abandoned-operation-v1")).text
  let (record, evidenceSequence, db) ← appendTaskEventInTransaction state.2
    state.1 (.operationEvidenceRecorded operationId resultDigest)
  let (record, _, db) ← appendTaskEventInTransaction db record
    (.operationTransitioned operationId .started .uncertain [evidenceSequence])
  .ok (record, db)

def abandonTaskOperations (record : TaskRecord) : Except CarlError Db :=
  if record.snapshot.status.isTerminal then .ok db
  else do
    let (_, db) ← record.snapshot.startedOperationIds.foldlM (abandonOperation sha256) (record, db)
    .ok db

def reconcileAbandonedTaskOperations : Except CarlError Db := do
  let records ← validateTaskProjectionCompleteness db
  records.foldlM (abandonTaskOperations sha256) db

end

/-! ## Callers of the store -/

structure Handle where
  authorities : OrderedMap TaskId AuthenticatedCheckpointAuthority
  ownCommits : Nat

def Handle.opened : Handle := ⟨OrderedMap.empty, 0⟩

structure World where
  db : Db
  commits : Nat
  handles : OrderedMap Nat Handle

namespace World

def initial : World := ⟨.empty, 0, OrderedMap.empty⟩

variable (world : World)

def handle (h : Nat) : Handle :=
  (world.handles.find? h).getD .opened

def authority (h : Nat) (taskId : TaskId) : Option AuthenticatedCheckpointAuthority :=
  (world.handle h).authorities.find? taskId

def dataVersion (h : Nat) : Nat :=
  world.commits - (world.handle h).ownCommits

def setHandle (h : Nat) (handle : Handle) : World :=
  { world with handles := world.handles.insert h handle }

def commit (h : Nat) (db : Db) : World :=
  { world with db, commits := world.commits + 1 }.setHandle h
    { world.handle h with ownCommits := (world.handle h).ownCommits + 1 }

/-- A transaction that wrote nothing does not move the data version. -/
def commitChanges (h : Nat) (db : Db) : World :=
  if db.events.rows = world.db.events.rows ∧
      db.artifactObjects.rows = world.db.artifactObjects.rows then world
  else world.commit h db

def keepAuthority (h : Nat) (taskId : TaskId)
    (authority : AuthenticatedCheckpointAuthority) : World :=
  world.setHandle h { world.handle h with
    authorities := (world.handle h).authorities.insert taskId authority }

@[simp] theorem setHandle_db (h : Nat) (handle : Handle) :
    (world.setHandle h handle).db = world.db := rfl

@[simp] theorem commit_db (h : Nat) (db : Db) : (world.commit h db).db = db := rfl

theorem commitChanges_db (h : Nat) (db : Db) :
    (world.commitChanges h db).db = world.db ∨ (world.commitChanges h db).db = db := by
  unfold commitChanges
  split
  · exact .inl rfl
  · exact .inr rfl

end World

inductive Call where
  | openStore (h : Nat)
  | createSession (h : Nat) (sessionId : SessionId)
  | append (h : Nat) (sessionId : SessionId) (event : Event)
  | registerArtifact (h : Nat) (id : String) (byteLength : Nat)
  | createTask (h : Nat) (input : NewTask)
  | createTaskIdempotent (h : Nat) (input : NewTask) (idempotencyKey : String)
    (commandDigest : Sha256Digest)
  | appendTaskEvent (h : Nat) (taskId : TaskId) (expectedRevision : Nat) (event : TaskEvent)
  | appendControlledTaskSteering (h : Nat) (taskId : TaskId)
    (expectedRevision steeringSequence : Nat) (textDigest controlId : String)
  | commitCheckpoint (h : Nat) (input : NewCheckpoint) (expectedTaskRevision : Nat)
  | reconcileRuntimeArtifacts (h : Nat) (runReferences : List String)
  | reconcileAbandonedTaskOperations (h : Nat)
  /-- A commit of a call outside the task tables. -/
  | otherCommit (h : Nat)
  deriving DecidableEq

inductive Response where
  | done
  | stale
  | opened (records : List TaskRecord)
  | task (record : TaskRecord)
  | checkpoint (record : CheckpointRecord)
  deriving DecidableEq

variable (sha256 : Sha256)

def World.settle (world : World) (h : Nat) : Option (TaskRecord × Db) → World × Response
  | none => (world, .stale)
  | some (record, db) => (world.commit h db, .task record)

def Call.run (world : World) : Call → Except CarlError (World × Response)
  | openStore h => do
    let records ← validateTasksOnOpen sha256 world.db
    .ok (world.setHandle h .opened, .opened records)
  | createSession h sessionId => do
    let db ← Storage.createSession world.db sessionId
    .ok (world.commit h db, .done)
  | append h sessionId event => do
    let db ← Storage.append world.db sessionId event
    .ok (world.commit h db, .done)
  | registerArtifact h id byteLength => do
    let db ← registerArtifactObject world.db id byteLength
    .ok (world.commit h db, .done)
  | createTask h input => do
    let (record, db) ← Storage.createTask world.db input
    .ok (world.commit h db, .task record)
  | createTaskIdempotent h input idempotencyKey commandDigest => do
    let (record, db) ← Storage.createTaskIdempotent world.db input idempotencyKey commandDigest
    match db with
    | none => .ok (world, .task record)
    | some db => .ok (world.commit h db, .task record)
  | appendTaskEvent h taskId expectedRevision event => do
    let appended ← Storage.appendTaskEvent world.db taskId expectedRevision event
    .ok (world.settle h appended)
  | appendControlledTaskSteering h taskId expectedRevision steeringSequence
    textDigest controlId => do
    let appended ← Storage.appendControlledTaskSteering world.db taskId
      expectedRevision steeringSequence textDigest controlId
    .ok (world.settle h appended)
  | commitCheckpoint h input expectedTaskRevision => do
    let committed ← Storage.commitCheckpoint sha256 world.db
      (world.authority h input.taskId) (world.dataVersion h) input
      expectedTaskRevision
    match committed with
    | none => .ok (world, .stale)
    | some (record, authority, db) =>
      .ok ((world.commit h db).keepAuthority h input.taskId authority, .checkpoint record)
  | reconcileRuntimeArtifacts h runReferences => do
    let db ← Storage.reconcileRuntimeArtifacts sha256 world.db runReferences
    .ok (world.commitChanges h db, .done)
  | reconcileAbandonedTaskOperations h => do
    let db ← Storage.reconcileAbandonedTaskOperations sha256 world.db
    .ok (world.commitChanges h db, .done)
  | otherCommit h => .ok (world.commit h world.db, .done)

def World.step (world : World) (call : Call) : World :=
  match call.run sha256 world with
  | .ok (next, _) => next
  | .error _ => world

def World.run (calls : List Call) : World :=
  calls.foldl (World.step sha256) World.initial

end CarlAgent.Storage
