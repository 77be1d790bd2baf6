import CarlAgent.Foundation.Paging
import CarlAgent.Storage.Projection

/-!
# Reading the journal back

The paged reads of a task's events, the replay of its configuration and
control markers, and the comparison of every projection with the journal.
-/

namespace CarlAgent.Storage

open Foundation CarlAgent.Task

def isTaskEvent (taskId : TaskId) (envelope : EventEnvelope) : Bool :=
  match envelope.event with
  | .taskLifecycle eventTask _ => decide (eventTask = taskId)
  | .other => false

variable (db : Db)

/-- The sessions in which a task's events stand; the query stops at two. -/
def journalSessions (taskId : TaskId) : List SessionId :=
  (sortDedup id ((db.events.rows.filter (isTaskEvent taskId)).map (·.sessionId))).take 2

def checkPageRequest (afterSequence : Option Nat) (limit : Nat) : Except CarlError Nat := do
  rejectIf (¬ (1 ≤ limit ∧ limit ≤ 512))
    (.validation "task event page limit must be between 1 and 512")
  match afterSequence with
  | none => .ok 0
  | some sequence => do
    rejectIf (sequence > maxI64) (.validation "task event page cursor is too large")
    .ok sequence

def readTaskEventPageForKnownSession (sessionId : SessionId) (taskId : TaskId)
    (afterSequence : Option Nat) (limit : Nat) : Except CarlError (List EventEnvelope) := do
  let after ← checkPageRequest afterSequence limit
  .ok ((sortByKey (·.sequence) (db.events.rows.filter fun envelope =>
    decide (envelope.sessionId = sessionId ∧ after < envelope.sequence) &&
      isTaskEvent taskId envelope)).take limit)

def readTaskEventPage (taskId : TaskId) (afterSequence : Option Nat) (limit : Nat) :
    Except CarlError (List EventEnvelope) := do
  let after ← checkPageRequest afterSequence limit
  match journalSessions db taskId with
  | [] => .ok []
  | [sessionId] =>
    readTaskEventPageForKnownSession db sessionId taskId (some after) limit
  | _ =>
    .error (.storage "task journal identifier appears in multiple sessions")

/-- The loop over the pages of a task's journal.  It ends at an empty page,
and every page before it holds a row, so the number of rows bounds it. -/
def foldTaskJournal {σ : Type} (taskId : TaskId) (step : σ → EventEnvelope → Except CarlError σ)
    (afterSequence : Option Nat) (state : σ) : Except CarlError σ :=
  foldPages (fun after => readTaskEventPage db taskId after 512)
    (·.sequence) step (db.events.rows.length + 1) afterSequence state

def readTaskEventsAfter (taskId : TaskId)
    (exclusiveSequence : Nat) : Except CarlError (List EventEnvelope) :=
  foldTaskJournal db taskId (fun events envelope => .ok (events ++ [envelope]))
    (some exclusiveSequence) []

def replayConfiguration (configuration : Option TaskConfigurationRecord) (sequence : Nat) :
    TaskEvent → Except CarlError (Option TaskConfigurationRecord)
  | .created _ _ _ _ model effort permissionMode => do
    rejectIf (configuration.isSome)
      (.storage "task configuration journal contains duplicate creation")
    .ok (some (.initial model effort permissionMode))
  | .configurationQueued controlId model effort permissionMode => do
    let record ← requireSome configuration
      (.storage "task configuration was queued before task creation")
    .ok (some (record.queue sequence controlId model effort permissionMode))
  | .configurationApplied controlId => do
    let record ← requireSome configuration
      (.storage "task configuration was applied before task creation")
    rejectIf (record.pendingControlId ≠ some controlId)
      (.storage "applied task configuration control identity disagrees with its queue")
    let model ← requireSome record.pendingModel (.storage "queued task model is missing")
    let effort ← requireSome record.pendingEffort (.storage "queued task effort is missing")
    let permissionMode ← requireSome record.pendingPermissionMode
      (.storage "queued task permission is missing")
    .ok (some (.applied sequence model effort permissionMode))
  | _ => .ok configuration

abbrev ControlMarker := String × TaskControlKind × Nat

def replayControlMarkers (controlMarkers : List ControlMarker)
    (sequence : Nat) : TaskEvent → Except CarlError (List ControlMarker)
  | .controlRequested controlId kind => do
    rejectIf (controlMarkers.any fun marker => decide (marker.1 = controlId))
      (.storage "task control marker identity is duplicated in the journal")
    .ok (controlMarkers ++ [(controlId, kind, sequence)])
  | _ => .ok controlMarkers

structure ChildReplay where
  configuration : Option TaskConfigurationRecord
  controlMarkers : List ControlMarker
  deriving DecidableEq

def replayTaskChildProjections (replay : ChildReplay)
    (envelope : EventEnvelope) : Except CarlError ChildReplay :=
  match envelope.event with
  | .other =>
    .error (.storage "task journal contains a non-task lifecycle event")
  | .taskLifecycle _ event => do
    let configuration ← replayConfiguration replay.configuration envelope.sequence event
    let controlMarkers ← replayControlMarkers replay.controlMarkers envelope.sequence event
    .ok ⟨configuration, controlMarkers⟩

def loadTaskConfigurationRecord (taskId : TaskId) : Option TaskConfigurationRecord :=
  (db.children.taskConfigurationState.find? taskId).map (·.record)

def loadTaskControlMarkerProjections (taskId : TaskId) : List ControlMarker :=
  (sortByKey (·.eventSequence) (db.children.taskControlMarkers.rows.filter
    fun row => decide (row.taskId = taskId))).map fun row =>
      (row.controlId, row.kind, row.eventSequence)

/-! ## Comparison with the journal -/

structure JournalReplay where
  snapshot : Option TaskSnapshot
  children : ChildReplay
  deriving DecidableEq

def JournalReplay.initial : JournalReplay := ⟨none, ⟨none, []⟩⟩

def JournalReplay.step (replay : JournalReplay) (envelope : EventEnvelope) :
    Except CarlError JournalReplay := do
  let children ← replayTaskChildProjections replay.children envelope
  let snapshot ← (reduceTask replay.snapshot envelope).mapError taskReplayError
  .ok ⟨some snapshot, children⟩

structure ValidatedTaskAuthority where
  record : TaskRecord
  configuration : TaskConfigurationRecord
  deriving DecidableEq

def validateTaskAuthorityFromJournal (taskId : TaskId) :
    Except CarlError ValidatedTaskAuthority := do
  let projection ← requireSome (← loadTaskRecord db taskId)
    (.storage "task journal has no matching task projection")
  let replay ← foldTaskJournal db taskId JournalReplay.step none JournalReplay.initial
  let replayed ← requireSome replay.snapshot
    (.storage "task projection has no authoritative journal")
  rejectIf (replayed.revision ≠ projection.revision ∨
    replayed ≠ projection.snapshot) (.storage "task projection disagrees with journal replay")
  let expectedConfiguration ← requireSome replay.children.configuration
    (.storage "task configuration journal is missing")
  let storedConfiguration ← requireSome (loadTaskConfigurationRecord db taskId)
    (.storage "task configuration projection is missing")
  rejectIf (storedConfiguration ≠ expectedConfiguration)
    (.storage "task configuration projection disagrees with journal replay")
  rejectIf (loadTaskControlMarkerProjections db taskId ≠ replay.children.controlMarkers)
    (.storage "task control marker projection disagrees with journal replay")
  .ok ⟨⟨replayed, projection.revision⟩, expectedConfiguration⟩

def journalTaskIds : List TaskId :=
  sortDedup id (db.events.rows.filterMap fun envelope =>
    match envelope.event with
    | .taskLifecycle taskId _ => some taskId
    | .other => none)

def readJournalTaskIdPage (afterTaskId : Option TaskId) : Except CarlError (List TaskId) :=
  .ok ((afterCursor id afterTaskId (journalTaskIds db)).take 512)

def validateTaskProjectionCompleteness : Except CarlError (List TaskRecord) := do
  let records ← foldPages (readJournalTaskIdPage db) id
    (fun records taskId => do
      let authority ← validateTaskAuthorityFromJournal db taskId
      .ok (records ++ [authority.record]))
    (db.events.rows.length + 1) none []
  rejectIf (db.agentTasks.rows.any fun row =>
    !db.events.rows.any (isTaskEvent row.id))
    (.storage "task projection has no authoritative journal")
  .ok records

/-!
## The scan of the canonical payloads

Every canonical checkpoint is compared with its context package, with its own
canonical bytes, with the journal before it and with the checkpoint before it.
-/

def maxU32 : Nat := 2 ^ 32 - 1

variable (checkpoint : CanonicalCheckpoint)

def validateCheckpointArtifacts : Except CarlError Unit :=
  checkpoint.artifactDigests.forM fun digest =>
    rejectIf (db.artifactObjects.find? digest = none)
      (.validation "checkpoint references an unknown artifact")

/-- MIN and MAX of the sequences of the events that satisfy `p`. -/
def sequenceBounds (p : EventEnvelope → Bool) : Option (Nat × Nat) :=
  let sequences := (db.events.rows.filter p).map (·.sequence)
  match sequences.min?, sequences.max? with
  | some first, some last => some (first, last)
  | _, _ => none

def isCheckpointEvent
    (canonicalDigest : String) (envelope : EventEnvelope) : Bool :=
  match envelope.event with
  | .taskLifecycle taskId (.checkpointCommitted checkpointId digest) =>
    decide (taskId = checkpoint.taskId ∧
      checkpointId = checkpoint.checkpointId ∧ digest = canonicalDigest)
  | _ => false

def validateCanonicalSourceBounds (checkpointEventSequence : Nat)
    (canonicalDigest : String) : Except CarlError Unit := do
  let bounds ← requireSome (sequenceBounds db fun envelope =>
    isTaskEvent checkpoint.taskId envelope && decide (envelope.sequence < checkpointEventSequence))
    (.storage "stored canonical checkpoint has no source journal")
  rejectIf (checkpoint.sourceSequenceStart ≠ bounds.1 ∨ checkpoint.sourceSequenceEnd ≠ bounds.2)
    (.storage "stored canonical checkpoint source range does not match the journal")
  rejectIf (¬ db.events.rows.any fun envelope =>
    decide (envelope.sequence = checkpointEventSequence) &&
      isCheckpointEvent checkpoint canonicalDigest envelope)
    (.storage "stored canonical checkpoint has no matching journal event")

def previousCheckpointDigest (taskId : TaskId) (sequence : Nat) : Option String :=
  ((sortByKey (·.eventSequence) (db.children.taskCheckpoints.rows.filter
    fun row => decide (row.taskId = taskId ∧
      row.eventSequence < sequence))).getLast?).map (·.digest)

abbrev PayloadRow := TaskCheckpointRow × Option TaskContextPackageRow

def joinedPackages (checkpoint : TaskCheckpointRow) : List PayloadRow :=
  match db.children.taskContextPackages.rows.filter (fun package =>
    decide (package.taskId = checkpoint.taskId ∧
      package.checkpointId = checkpoint.id)) with
  | [] => [(checkpoint, none)]
  | packages => packages.map fun package => (checkpoint, some package)

def payloadKey (row : PayloadRow) : TaskId ×ₗ Nat ×ₗ WithBot Nat :=
  toLex (row.1.taskId, toLex (row.1.eventSequence, optionKey (row.2.map (·.generation))))

def isPayloadRow (row : PayloadRow) : Bool :=
  row.1.checkpoint.isSome || (row.2.bind (·.package)).isSome

def payloadRows (taskId : Option TaskId) : List PayloadRow :=
  sortByKey payloadKey
    (((db.children.taskCheckpoints.rows.filter fun row =>
      taskId.all fun id => decide (row.taskId = id)).flatMap
        (joinedPackages db)).filter isPayloadRow)

section

variable (sha256 : Sha256)

def validatePayload (db : Db) (row : TaskCheckpointRow) (packageRow : TaskContextPackageRow)
    (checkpoint : CanonicalCheckpoint) (package : ContextPackage) : Except CarlError Unit := do
  rejectIf (packageRow.generation > maxU32)
    (.storage "stored context package generation is too large")
  rejectIf (checkpoint.taskId ≠ row.taskId ∨
    checkpoint.checkpointId ≠ row.id ∨ package.packageId ≠ packageRow.id ∨
    package.checkpointId ≠ row.id ∨
    checkpoint.compactionGeneration ≠ packageRow.generation ∨
    packageRow.eventSequence ≠ row.eventSequence ∨
    package.sourceSequenceStart ≠ checkpoint.sourceSequenceStart ∨
    package.sourceSequenceEnd ≠ checkpoint.sourceSequenceEnd)
    (.storage "stored canonical checkpoint metadata is inconsistent")
  let checkpointBytes ← checkpoint.canonicalBytes.mapError fun _ =>
    .storage "stored canonical checkpoint is invalid"
  let canonicalDigest := (sha256 checkpointBytes).text
  rejectIf (checkpointBytes ≠ Text.utf8 checkpoint.toJson.render ∨ canonicalDigest ≠ row.digest)
    (.storage "stored canonical checkpoint bytes or digest do not match")
  let packageBytes ← (package.canonicalBytes sha256).mapError fun _ =>
    .storage "stored canonical context package is invalid"
  rejectIf (packageBytes ≠ Text.utf8 package.toJson.render)
    (.storage "stored canonical context package bytes do not match")
  validateCanonicalSourceBounds db checkpoint row.eventSequence canonicalDigest
  rejectIf (checkpoint.previousDigest ≠ previousCheckpointDigest db row.taskId row.eventSequence)
    (.storage "stored canonical checkpoint previous digest does not match")
  (validateCheckpointArtifacts db checkpoint).mapError fun _ =>
    .storage "stored canonical checkpoint references an unknown artifact"

def validatePayloadRow (db : Db) (row : PayloadRow) : Except CarlError Unit :=
  match row.1.checkpoint, row.2 with
  | some checkpoint, some packageRow =>
    match packageRow.package with
    | some package => validatePayload sha256 db row.1 packageRow checkpoint package
    | none => .error (.storage "canonical checkpoint and context package are not atomic")
  | _, _ => .error (.storage "canonical checkpoint and context package are not atomic")

def validateTaskCanonicalPayloadsFiltered (db : Db) (taskId : Option TaskId) :
    Except CarlError Unit :=
  (payloadRows db taskId).forM (validatePayloadRow sha256 db)

def validateTasksOnOpen (db : Db) : Except CarlError (List TaskRecord) := do
  let records ← validateTaskProjectionCompleteness db
  validateTaskCanonicalPayloadsFiltered sha256 db none
  .ok records

end

end CarlAgent.Storage
