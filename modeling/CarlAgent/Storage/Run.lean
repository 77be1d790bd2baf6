import CarlAgent.Storage.Step

/-!
# Runs of calls

Every committed call is a chain of `DbStep`s, and a failed call is no step at
all.  `World.run_invariant` and `World.run_db_invariant` are the inductions
that the invariants of the store use.
-/

namespace CarlAgent.Storage

open Foundation CarlAgent.Task World List

variable {db db' : Db} {records : List TaskRecord} {expectedRevision : Nat}
  {world : World}
variable {call : Call} {P : Db → Prop} {h : Nat} {current : TaskRecord}
  {guard : World → Call → Prop}

inductive Action where
  | session (sessionId : SessionId)
  | otherEvent (sessionId : SessionId)
  | artifact (id : String)
  | sweep
  | receipt (idempotencyKey : String)
  | steering (taskId : TaskId) (controlId : String)
  | created (input : NewTask)
  | event (taskId : TaskId) (event : TaskEvent)
  | checkpoint (input : NewCheckpoint) (anchor : Option AuthenticatedCheckpointAuthority)

/-- A committed checkpoint: what was checked and what was written. -/
structure CheckpointCommitted (sha256 : Sha256) (db : Db)
    (anchor : Option AuthenticatedCheckpointAuthority) (input : NewCheckpoint)
    (row : AgentTaskRow) (session : SessionRow) (next : TaskSnapshot)
    (validated : ValidatedCheckpointAuthority) (db' : Db) : Prop where
  inputOk : validateCheckpointInput sha256 input = .ok ()
  validates : validateNewCheckpoint sha256 db ⟨row.snapshot, row.revision⟩
    input anchor = .ok (⟨row.snapshot, row.revision⟩, validated)
  artifacts : validateCheckpointArtifacts db input.checkpoint = .ok ()
  append : TaskAppend db input.taskId
    (.checkpointCommitted input.checkpoint.checkpointId input.checkpointDigest) row session next db'
  children : db.children.insertCanonical session.nextSequence input = .ok db'.children

variable (sha256 : Sha256)

/-- The changes that committed transactions are made of. -/
inductive DbStep : Db → Action → Db → Prop
  | session {db : Db} {id : SessionId} {sessions : Table SessionRow.id}
    (h : db.sessions.insert ⟨id, 1⟩ = some sessions) :
    DbStep db (.session id) { db with sessions }
  | otherEvent {db db' : Db} {session : SessionRow} (h : Appended db session .other db') :
    DbStep db (.otherEvent session.id) db'
  | artifact {db : Db} {row : ArtifactObjectRow} {artifactObjects : Table ArtifactObjectRow.id}
    (h : db.artifactObjects.insert row = some artifactObjects) :
    DbStep db (.artifact row.id) { db with artifactObjects }
  | sweep {db : Db} {referenced : List String}
    (h : ∀ row ∈ db.children.taskCheckpoints.rows, ∀ checkpoint, row.checkpoint = some checkpoint →
        ∀ digest ∈ checkpoint.artifactDigests, digest ∈ referenced) :
    DbStep db .sweep
      { db with
        artifactObjects := db.artifactObjects.deleteWhere fun row =>
          decide (row.id ∉ referenced) }
  | receipt {db : Db} {row : ServiceTaskReceiptRow}
    {receipts : Table ServiceTaskReceiptRow.idempotencyKey}
    (h : db.serviceTaskReceipts.insert row = some receipts) :
    DbStep db (.receipt row.idempotencyKey) { db with serviceTaskReceipts := receipts }
  | steering {db db' : Db} {taskId : TaskId} {sequence : Nat} {controlId : String}
    (h : bindSteeringControl db taskId sequence controlId = .ok db') :
    DbStep db (.steering taskId controlId) db'
  | created {db db' : Db} {input : NewTask} {workspace : String} {session : SessionRow}
    (h : TaskCreate db input workspace session db') :
    DbStep db (.created input) db'
  | event {db db' : Db} {taskId : TaskId} {event : TaskEvent}
    {row : AgentTaskRow} {session : SessionRow} {next : TaskSnapshot}
    (h : TaskAppend db taskId event row session next db')
    (hchildren : db.children.apply taskId session.nextSequence event = .ok db'.children) :
    DbStep db (.event taskId event) db'
  | checkpoint {db db' : Db} {input : NewCheckpoint} {row : AgentTaskRow}
    {session : SessionRow} {next : TaskSnapshot}
    {anchor : Option AuthenticatedCheckpointAuthority}
    {validated : ValidatedCheckpointAuthority}
    (h : CheckpointCommitted sha256 db anchor input row session next validated db') :
    DbStep db (.checkpoint input anchor) db'

/-- A chain of steps, each of which meets a condition on the database before
it. -/
inductive DbRun (allowed : Db → Action → Prop) : Db → Db → Prop
  | refl (db : Db) : DbRun allowed db db
  | tail {db mid db' : Db} {action : Action}
    (hrun : DbRun allowed db mid) (hallowed : allowed mid action)
    (hstep : DbStep sha256 mid action db') : DbRun allowed db db'

variable {sha256 : Sha256} {allowed : Db → Action → Prop}

theorem DbRun.single {action : Action} (hstep : DbStep sha256 db action db')
    (hallowed : allowed db action) : DbRun sha256 allowed db db' :=
  .tail (.refl db) hallowed hstep

theorem DbRun.trans {mid : Db} (h₁ : DbRun sha256 allowed db mid)
    (h₂ : DbRun sha256 allowed mid db') : DbRun sha256 allowed db db' := by
  induction h₂ with
  | refl => exact h₁
  | tail _ hallowed hstep ih => exact .tail ih hallowed hstep

theorem DbRun.mono {weaker : Db → Action → Prop}
    (himp : ∀ db action, allowed db action → weaker db action)
    (h : DbRun sha256 allowed db db') : DbRun sha256 weaker db db' := by
  induction h with
  | refl => exact .refl _
  | tail _ hallowed hstep ih => exact .tail ih (himp _ _ hallowed) hstep

theorem DbRun.invariant
    (hstep : ∀ db action db', P db → allowed db action → DbStep sha256 db action db' → P db')
    (h : DbRun sha256 allowed db db') (hP : P db) : P db' := by
  induction h with
  | refl => exact hP
  | tail _ hallowed hnext ih => exact hstep _ _ _ ih hallowed hnext

/-! ## Which steps a call takes -/

/-- The events that the store appends of its own accord. -/
def isRoutineEvent : TaskEvent → Bool
  | .steeringQueued _ _ => true
  | .operationEvidenceRecorded _ _ => true
  | .operationTransitioned _ .started .uncertain _ => true
  | _ => false

/-- Those events and the event of a committed checkpoint. -/
def isStoreEvent : TaskEvent → Bool
  | .checkpointCommitted _ _ => true
  | event => isRoutineEvent event

def Call.Permits (sha256 : Sha256) (call : Call)
    (world : World) (db : Db) : Action → Prop
  | .event taskId event =>
    (∃ h expectedRevision, call = .appendTaskEvent h taskId expectedRevision event ∧
        db = world.db) ∨ isRoutineEvent event = true
  | .checkpoint input anchor =>
    ∃ h expectedRevision current,
      call = .commitCheckpoint h input expectedRevision ∧ db = world.db ∧
        loadTaskRecord db input.taskId = .ok (some current) ∧
        anchor = incrementalAnchor sha256 db current (world.dataVersion h)
          (world.authority h input.taskId)
  | _ => True

variable {taskId : TaskId} {record : TaskRecord}

theorem validateTaskAuthorityFromJournal_load {authority : ValidatedTaskAuthority}
    (h : validateTaskAuthorityFromJournal db taskId = .ok authority) :
    loadTaskRecord db taskId = .ok (some authority.record) := by
  simp only [validateTaskAuthorityFromJournal, ok_iff, not_or, ne_eq, not_not] at h
  obtain ⟨_, hload, projection, rfl, replay, -, replayed, -,
    ⟨-, rfl⟩, configuration, -, stored, -, -, -, rfl⟩ := h
  exact hload

theorem journalTaskIds_length (db : Db) : (journalTaskIds db).length < db.events.rows.length + 1 :=
  Nat.lt_succ_of_le ((length_sortDedup_le _ _).trans (length_filterMap_le _ _))

theorem validateTaskProjectionCompleteness_eq_ok :
    validateTaskProjectionCompleteness db = .ok records ↔
      Forall₂ (fun taskId record => ∃ authority, validateTaskAuthorityFromJournal db taskId =
          .ok authority ∧ record = authority.record) (journalTaskIds db) records ∧
      ∀ row ∈ db.agentTasks.rows, ∃ envelope ∈ db.events.rows,
        isTaskEvent row.id envelope = true := by
  have hpages := @foldPages_eq _ _ _ _ _ (readJournalTaskIdPage db) id
    (fun records taskId => do
      let authority ← validateTaskAuthorityFromJournal db taskId
      .ok (records ++ [authority.record])) (journalTaskIds db) 512
    (fun _ => True) (by omega) (sortDedup_id_strict _) (fun _ _ => rfl)
    (fun _ _ => trivial) (db.events.rows.length + 1) none
    ([] : List TaskRecord) (by simp)
    (by simpa using journalTaskIds_length db)
  have hpush : (fun (records : List TaskRecord) taskId => do
      let authority ← validateTaskAuthorityFromJournal db taskId
      .ok (records ++ [authority.record])) =
      (fun records taskId => do
        let record ← (validateTaskAuthorityFromJournal db taskId).map (·.record)
        .ok (records ++ [record])) := by
    funext records taskId
    cases validateTaskAuthorityFromJournal db taskId <;> rfl
  simp only [validateTaskProjectionCompleteness, bind_eq_ok]
  rw [hpages, afterCursor_none, hpush]
  simp only [foldlM_push_eq_ok, map_eq_ok_iff, nil_append, ok_iff, @eq_comm TaskRecord]
  constructor
  · rintro ⟨_, ⟨values, rfl, hvalues⟩, horphan, rfl⟩
    exact ⟨hvalues, by simpa using horphan⟩
  · rintro ⟨hvalues, horphan⟩
    exact ⟨records, ⟨records, rfl, hvalues⟩, by simpa using horphan, rfl⟩

theorem loadTaskRecord_congr (h : db'.agentTasks.find? taskId = db.agentTasks.find? taskId) :
    loadTaskRecord db' taskId = loadTaskRecord db taskId := by
  unfold loadTaskRecord
  rw [h]

theorem loadTaskRecord_taskId (h : loadTaskRecord db taskId = .ok (some record)) :
    record.snapshot.taskId = taskId := by
  obtain ⟨row, hrow, hcoherent, rfl⟩ := loadTaskRecord_eq_some.mp h
  exact hcoherent.taskId.trans (Table.key_of_find? hrow)

def RoutineStep (_ : Db) : Action → Prop
  | .event _ event => isRoutineEvent event = true
  | _ => False

/-- One task's record follows its row while only that task's row changes. -/
structure FollowsTask (sha256 : Sha256) (taskId : TaskId)
    (start : Db) (state : TaskRecord × Db) : Prop where
  run : DbRun sha256 RoutineStep start state.2
  load : loadTaskRecord state.2 taskId = .ok (some state.1)
  others : ∀ id, id ≠ taskId → state.2.agentTasks.find? id = start.agentTasks.find? id

variable {input : NewCheckpoint} {response : Response} {event : TaskEvent} {calls : List Call}
  {next : World}

theorem FollowsTask.append {start : Db} {state : TaskRecord × Db}
    {sequence : Nat} (hfollows : FollowsTask sha256 taskId start state)
    (hroutine : isRoutineEvent event = true)
    (h : appendTaskEventInTransaction state.2 state.1 event = .ok (record, sequence, db')) :
    FollowsTask sha256 taskId start (record, db') := by
  obtain ⟨row, session, next, happend, hchildren, -, rfl, -⟩ :=
    appendTaskEventInTransaction_appends hfollows.load h
  refine ⟨.tail hfollows.run ?_ (.event happend hchildren), happend.load, ?_⟩
  · exact hroutine
  · intro id hid
    rw [happend.tasks, if_neg hid, hfollows.others id hid]

theorem abandonTaskOperations_follows
    (hload : loadTaskRecord db record.snapshot.taskId = .ok (some record))
    (h : abandonTaskOperations sha256 db record = .ok db') : DbRun sha256 RoutineStep db db' ∧
      ∀ id, id ≠ record.snapshot.taskId → db'.agentTasks.find? id = db.agentTasks.find? id := by
  unfold abandonTaskOperations at h
  split at h
  · cases h
    exact ⟨.refl db, fun _ _ => rfl⟩
  · simp only [ok_iff, Prod.exists] at h
    obtain ⟨last, _, hfold, rfl⟩ := h
    have hfollows : FollowsTask sha256 record.snapshot.taskId db (last, _) := foldlM_invariant (by
        intro state operationId state' _ hstate hstep
        simp only [abandonOperation, ok_iff, Prod.exists] at hstep
        obtain ⟨_, _, _, hevidence, _, _, _, htransition, rfl⟩ := hstep
        exact (hstate.append rfl hevidence).append rfl htransition)
        ⟨.refl db, hload, fun _ _ => rfl⟩ hfold
    exact ⟨hfollows.run, hfollows.others⟩

theorem foldlM_abandon_run
    (hload : ∀ record ∈ records, loadTaskRecord db record.snapshot.taskId = .ok (some record))
    (hnodup : (records.map (·.snapshot.taskId)).Nodup)
    (h : records.foldlM (abandonTaskOperations sha256) db = .ok db') :
    DbRun sha256 RoutineStep db db' := by
  induction records generalizing db with
  | nil =>
    cases h
    exact .refl _
  | cons record records ih =>
    obtain ⟨mid, hrecord, hrest⟩ := foldlM_cons_eq_ok.mp h
    obtain ⟨hrun, hothers⟩ := abandonTaskOperations_follows (hload record (by simp)) hrecord
    obtain ⟨hnotin, hnodup⟩ := nodup_cons.mp hnodup
    refine hrun.trans (ih ?_ hnodup hrest)
    intro other hother
    have hne : other.snapshot.taskId ≠ record.snapshot.taskId := by
      intro heq
      exact hnotin (mem_map.mpr ⟨other, hother, heq⟩)
    rw [loadTaskRecord_congr (hothers _ hne)]
    exact hload other (by simp [hother])

theorem loaded_records {taskIds : List TaskId} (h : Forall₂ (fun taskId record =>
      loadTaskRecord db taskId = .ok (some record)) taskIds records) :
    records.map (·.snapshot.taskId) = taskIds ∧ ∀ record ∈ records,
      loadTaskRecord db record.snapshot.taskId = .ok (some record) := by
  induction h with
  | nil => simp
  | @cons taskId record _ _ hload _ ih =>
    have htask := loadTaskRecord_taskId hload
    simp only [map_cons, htask, ih.1, mem_cons, forall_eq_or_imp]
    exact ⟨trivial, hload, ih.2⟩

theorem scanned_records (h : validateTaskProjectionCompleteness db = .ok records) :
    records.map (·.snapshot.taskId) = journalTaskIds db ∧
      (records.map (·.snapshot.taskId)).Nodup ∧
      ∀ record ∈ records, loadTaskRecord db record.snapshot.taskId = .ok (some record) := by
  obtain ⟨hrecords, -⟩ := validateTaskProjectionCompleteness_eq_ok.mp h
  have hpairs : Forall₂ (fun taskId record =>
      loadTaskRecord db taskId = .ok (some record))
      (journalTaskIds db) records := by
    refine hrecords.imp ?_
    rintro taskId _ ⟨authority, hauthority, rfl⟩
    exact validateTaskAuthorityFromJournal_load hauthority
  obtain ⟨hids, hload⟩ := loaded_records hpairs
  refine ⟨hids, ?_, hload⟩
  rw [hids]
  exact (sortDedup_id_strict _).imp fun hlt => ne_of_lt hlt

theorem reconcileAbandonedTaskOperations_run
    (h : reconcileAbandonedTaskOperations sha256 db = .ok db') :
    DbRun sha256 RoutineStep db db' := by
  simp only [reconcileAbandonedTaskOperations, bind_eq_ok] at h
  obtain ⟨records, hcomplete, hfold⟩ := h
  obtain ⟨-, hnodup, hload⟩ := scanned_records hcomplete
  exact foldlM_abandon_run hload hnodup hfold

/-! ## Artifacts -/

theorem foldlM_addReferencedArtifacts {rows : List TaskCheckpointRow} {referenced all : List String}
    (h : rows.foldlM (addReferencedArtifacts sha256) referenced = .ok all) :
    (∀ digest ∈ referenced, digest ∈ all) ∧
      ∀ row ∈ rows, ∀ checkpoint, row.checkpoint = some checkpoint →
        ∀ digest ∈ checkpoint.artifactDigests, digest ∈ all := by
  induction rows generalizing referenced with
  | nil =>
    cases h
    simp
  | cons row rows ih =>
    obtain ⟨mid, hrow, hrest⟩ := foldlM_cons_eq_ok.mp h
    obtain ⟨hkeep, hrows⟩ := ih hrest
    have hmid : (∀ digest ∈ referenced, digest ∈ mid) ∧
        ∀ checkpoint, row.checkpoint = some checkpoint →
          ∀ digest ∈ checkpoint.artifactDigests, digest ∈ mid := by
      unfold addReferencedArtifacts at hrow
      cases hcheckpoint : row.checkpoint with
      | none =>
        rw [hcheckpoint] at hrow
        cases hrow
        simp
      | some checkpoint =>
        simp only [hcheckpoint, ok_iff] at hrow
        obtain ⟨digest, -, -, rfl⟩ := hrow
        constructor
        · intro digest hdigest
          simp [hdigest]
        · intro other hother digest hdigest
          cases hother
          simp [hdigest]
    refine ⟨fun digest hdigest => hkeep _ (hmid.1 _ hdigest), ?_⟩
    intro other hother checkpoint hcheckpoint digest hdigest
    rcases mem_cons.mp hother with rfl | hother
    · exact hkeep _ (hmid.2 checkpoint hcheckpoint digest hdigest)
    · exact hrows other hother checkpoint hcheckpoint digest hdigest

theorem reconcileRuntimeArtifacts_step {runReferences : List String}
    (h : reconcileRuntimeArtifacts sha256 db runReferences = .ok db') :
    DbStep sha256 db .sweep db' := by
  simp only [reconcileRuntimeArtifacts, ok_iff] at h
  obtain ⟨referenced, hreferenced, rfl⟩ := h
  have hkept := (foldlM_addReferencedArtifacts hreferenced).2
  exact .sweep fun row hrow => hkept row (mem_sortByKey.mpr hrow)

theorem currentRecord_eq_some : currentRecord db taskId expectedRevision = .ok (some current) ↔
      loadTaskRecord db taskId = .ok (some current) ∧ current.revision = expectedRevision := by
  simp only [currentRecord, ok_iff]
  constructor
  · rintro ⟨record, hload, hfilter⟩
    obtain ⟨rfl, hrevision⟩ := Option.filter_eq_some_iff.mp hfilter
    exact ⟨hload, by simpa using hrevision⟩
  · rintro ⟨hload, hrevision⟩
    exact ⟨some current, hload, by simp [Option.filter, hrevision]⟩

theorem appendTaskEvent_eq_some
    (h : appendTaskEvent db taskId expectedRevision event = .ok (some (record, db'))) :
    ∃ row session next, TaskAppend db taskId event row session next db' ∧
      db.children.apply taskId session.nextSequence event = .ok db'.children ∧
      row.revision = expectedRevision ∧ record = ⟨next, next.revision⟩ := by
  simp only [appendTaskEvent, bind_eq_ok] at h
  obtain ⟨current, hcurrent, hevent⟩ := h
  cases current with
  | none => simp at hevent
  | some current =>
    obtain ⟨hload, hrevision⟩ := currentRecord_eq_some.mp hcurrent
    simp only [ok_iff, Prod.exists, Option.some.injEq, Prod.mk.injEq] at hevent
    obtain ⟨_, sequence, _, happend, rfl, rfl⟩ := hevent
    obtain ⟨row, session, next, htask, hchildren, rfl, rfl, -⟩ :=
      appendTaskEventInTransaction_appends hload happend
    exact ⟨row, session, next, htask, hchildren, hrevision, rfl⟩

theorem appendControlledTaskSteering_run {steeringSequence : Nat} {textDigest controlId : String}
    (hallowed : ∀ db, allowed db (.event taskId (.steeringQueued steeringSequence textDigest)))
    (hbind : ∀ db, allowed db (.steering taskId controlId))
    (h : appendControlledTaskSteering db taskId expectedRevision
      steeringSequence textDigest controlId = .ok (some (record, db'))) :
    DbRun sha256 allowed db db' := by
  simp only [appendControlledTaskSteering, ok_iff] at h
  obtain ⟨-, current, hcurrent, hevent⟩ := h
  cases current with
  | none => simp at hevent
  | some current =>
    obtain ⟨hload, -⟩ := currentRecord_eq_some.mp hcurrent
    simp only [ok_iff, Prod.exists, Option.some.injEq, Prod.mk.injEq] at hevent
    obtain ⟨_, sequence, mid, happend, bound, hsteering, rfl, rfl⟩ := hevent
    obtain ⟨row, session, next, htask, hchildren, -, -, -⟩ :=
      appendTaskEventInTransaction_appends hload happend
    exact .tail (.single (.event htask hchildren) (hallowed db)) (hbind mid) (.steering hsteering)

theorem validateNewCheckpoint_record {anchor : Option AuthenticatedCheckpointAuthority}
    {validated : ValidatedCheckpointAuthority}
    (hload : loadTaskRecord db input.taskId = .ok (some current))
    (h : validateNewCheckpoint sha256 db current input anchor = .ok (record, validated)) :
    record = current := by
  cases anchor with
  | some authority =>
    simp only [validateNewCheckpoint, ok_iff, Prod.mk.injEq] at h
    obtain ⟨_, -, rfl, -⟩ := h
    rfl
  | none =>
    simp only [validateNewCheckpoint, ok_iff, Prod.mk.injEq] at h
    obtain ⟨authoritative, hjournal, _, -, _, -, _, -, rfl, -⟩ := h
    have hauthority := validateTaskAuthorityFromJournal_load hjournal
    rw [hload] at hauthority
    simpa using hauthority.symm

theorem commitCheckpoint_eq_some {cached : Option AuthenticatedCheckpointAuthority}
    {dataVersion : Nat} {expectedTaskRevision : Nat} {record : CheckpointRecord}
    {authority : AuthenticatedCheckpointAuthority}
    (h : commitCheckpoint sha256 db cached dataVersion input
      expectedTaskRevision = .ok (some (record, authority, db'))) :
    ∃ row session next validated, CheckpointCommitted sha256 db
        (incrementalAnchor sha256 db ⟨row.snapshot, row.revision⟩ dataVersion
          cached) input row session next validated db' ∧
      row.revision = expectedTaskRevision ∧
      authority = newAuthority input validated dataVersion ∧
      record = ⟨input.checkpoint, input.checkpointDigest, input.contextPackageDigest⟩ := by
  simp only [commitCheckpoint, bind_eq_ok] at h
  obtain ⟨_, hinput, current, hcurrent, hcommit⟩ := h
  cases current with
  | none => simp at hcommit
  | some current =>
    obtain ⟨hload, hrevision⟩ := currentRecord_eq_some.mp hcurrent
    simp only [ok_iff, Prod.exists, Option.some.injEq, Prod.mk.injEq] at hcommit
    obtain ⟨_, validated, hvalidated, _, hartifacts, _, hinsert, rfl, rfl, rfl⟩ := hcommit
    have hrecord := validateNewCheckpoint_record hload hvalidated
    subst hrecord
    obtain ⟨row, session, next, happend, hchildren, rfl⟩ :=
      insertCheckpointInTransaction_appends hload hinsert
    exact ⟨row, session, next, validated,
      ⟨hinput, hvalidated, hartifacts, happend, hchildren⟩, hrevision, rfl, rfl⟩

theorem createTaskIdempotent_run {result : Option Db} {input : NewTask} {idempotencyKey : String}
    {commandDigest : Sha256Digest} (hcreated : ∀ db, allowed db (.created input))
    (hreceipt : ∀ db, allowed db (.receipt idempotencyKey))
    (h : createTaskIdempotent db input idempotencyKey commandDigest = .ok (record, result)) :
    ∀ db', result = some db' → DbRun sha256 allowed db db' := by
  rintro db' rfl
  simp only [createTaskIdempotent, ok_iff] at h
  obtain ⟨-, h⟩ := h
  cases hfound : db.serviceTaskReceipts.find? idempotencyKey with
  | some receipt =>
    rw [hfound] at h
    simp [bind_eq_ok] at h
  | none =>
    simp only [hfound, ok_iff, Prod.exists, insertRow_eq_ok, Prod.mk.injEq, Option.some.injEq] at h
    obtain ⟨_, mid, hinsert, receipts, hreceipts, -, rfl⟩ := h
    obtain ⟨workspace, session, hcreate, -⟩ := insertTask_creates hinsert
    exact .tail (.single (.created hcreate) (hcreated db)) (hreceipt mid) (.receipt hreceipts)

theorem World.settle_run {appended : Option (TaskRecord × Db)}
    (hrun : ∀ record db', appended = some (record, db') → DbRun sha256 allowed world.db db')
    (hsettle : world.settle h appended = (next, response)) :
    DbRun sha256 allowed world.db next.db := by
  cases appended with
  | none =>
    cases hsettle
    exact .refl _
  | some result =>
    cases hsettle
    exact hrun result.1 result.2 rfl

theorem World.commitChanges_run (hrun : DbRun sha256 allowed world.db db) :
    DbRun sha256 allowed world.db (world.commitChanges h db).db := by
  rcases world.commitChanges_db h db with hdb | hdb
  · rw [hdb]
    exact .refl _
  · rw [hdb]
    exact hrun

theorem registerArtifactObject_run {id : String} {byteLength : Nat}
    (hallowed : ∀ db, allowed db (.artifact id))
    (h : registerArtifactObject db id byteLength = .ok db') : DbRun sha256 allowed db db' := by
  simp only [registerArtifactObject, ok_iff, revisionToSql_eq_ok] at h
  obtain ⟨-, -, h⟩ := h
  cases hfound : db.artifactObjects.find? id with
  | some row =>
    simp only [hfound, ok_iff] at h
    obtain ⟨-, rfl⟩ := h
    exact .refl _
  | none =>
    simp only [hfound, ok_iff, insertRow_eq_ok] at h
    obtain ⟨artifactObjects, hinsert, rfl⟩ := h
    exact .single (.artifact hinsert) (hallowed db)

/-- A call that succeeds is a chain of the steps it is permitted to take. -/
theorem Call.run_steps (h : call.run sha256 world = .ok (next, response)) :
    DbRun sha256 (call.Permits sha256 world) world.db next.db := by
  cases call <;> simp only [Call.run, ok_iff, Prod.exists, Prod.mk.injEq] at h
  case openStore h =>
    obtain ⟨_, -, rfl, -⟩ := h
    exact .refl _
  case createSession h sessionId =>
    simp only [Storage.createSession, ok_iff, insertRow_eq_ok] at h
    obtain ⟨_, ⟨sessions, hinsert, rfl⟩, rfl, -⟩ := h
    exact .single (.session hinsert) trivial
  case append h sessionId event =>
    obtain ⟨db, happend, rfl, -⟩ := h
    cases event with
    | taskLifecycle taskId event => simp [Storage.append] at happend
    | other =>
      simp only [Storage.append, ok_iff, Prod.exists] at happend
      obtain ⟨_, _, happend, rfl⟩ := happend
      obtain ⟨session, -, happended, -⟩ := appendEventInTransaction_appended happend
      exact .single (.otherEvent happended) trivial
  case registerArtifact h id byteLength =>
    obtain ⟨db, hregister, rfl, -⟩ := h
    exact registerArtifactObject_run (fun _ => trivial) hregister
  case createTask h input =>
    obtain ⟨_, db, hinsert, rfl, -⟩ := h
    obtain ⟨workspace, session, hcreate, -⟩ := insertTask_creates hinsert
    exact .single (.created hcreate) trivial
  case createTaskIdempotent h input idempotencyKey commandDigest =>
    obtain ⟨record, result, hcreate, h⟩ := h
    cases result with
    | none =>
      cases h
      exact .refl _
    | some db =>
      cases h
      exact createTaskIdempotent_run (fun _ => trivial) (fun _ => trivial) hcreate db rfl
  case appendTaskEvent h taskId expectedRevision event =>
    obtain ⟨appended, happend, hsettle⟩ := h
    refine settle_run ?_ hsettle
    rintro record db' rfl
    obtain ⟨row, session, next, htask, hchildren, -⟩ := appendTaskEvent_eq_some happend
    exact .single (.event htask hchildren) (.inl ⟨_, _, rfl, rfl⟩)
  case appendControlledTaskSteering h taskId expectedRevision steeringSequence
    textDigest controlId =>
    obtain ⟨appended, happend, hsettle⟩ := h
    refine settle_run ?_ hsettle
    rintro record db' rfl
    exact appendControlledTaskSteering_run (fun _ => .inr rfl) (fun _ => trivial) happend
  case commitCheckpoint h input expectedTaskRevision =>
    obtain ⟨committed, hcommit, h⟩ := h
    cases committed with
    | none =>
      cases h
      exact .refl _
    | some result =>
      cases h
      obtain ⟨record, authority, db'⟩ := result
      obtain ⟨row, session, next, validated, hcommitted, -⟩ := commitCheckpoint_eq_some hcommit
      have hload : loadTaskRecord world.db input.taskId = .ok (some ⟨row.snapshot, row.revision⟩) :=
        loadTaskRecord_eq_some.mpr ⟨row, hcommitted.append.found, hcommitted.append.coherent, rfl⟩
      exact .single (.checkpoint hcommitted) ⟨_, _, _, rfl, rfl, hload, rfl⟩
  case reconcileRuntimeArtifacts h runReferences =>
    obtain ⟨db, hsweep, rfl, -⟩ := h
    exact commitChanges_run (.single (reconcileRuntimeArtifacts_step hsweep) trivial)
  case reconcileAbandonedTaskOperations h =>
    obtain ⟨db, habandon, rfl, -⟩ := h
    refine commitChanges_run ((reconcileAbandonedTaskOperations_run habandon).mono ?_)
    intro db action hroutine
    cases action with
    | event taskId event => exact .inr hroutine
    | _ => exact hroutine.elim
  case otherCommit h =>
    obtain ⟨rfl, -⟩ := h
    exact .refl _

/-! ## Whole runs -/

variable (sha256) in
/-- Every call of a run meets a condition on the world it is made in. -/
def World.CallsMeet (guard : World → Call → Prop) : World → List Call → Prop
  | _, [] => True
  | world, call :: calls =>
    guard world call ∧ CallsMeet guard (World.step sha256 world call) calls

instance World.decidableCallsMeet {guard : World → Call → Prop}
    [∀ world call, Decidable (guard world call)] (world : World)
    (calls : List Call) : Decidable (world.CallsMeet sha256 guard calls) :=
  match calls with
  | [] => isTrue trivial
  | call :: calls =>
    @instDecidableAnd _ _ inferInstance (decidableCallsMeet (World.step sha256 world call) calls)

def Call.requestedEvent : Call → Option (TaskId × TaskEvent)
  | .appendTaskEvent _ taskId _ event => some (taskId, event)
  | _ => none

def Call.EventMeets (guard : Db → TaskId → TaskEvent → Prop) (world : World) (call : Call) : Prop :=
  ∀ request ∈ call.requestedEvent, guard world.db request.1 request.2

instance Call.decidableEventMeets {guard : Db → TaskId → TaskEvent → Prop}
    [∀ db taskId event, Decidable (guard db taskId event)] (world : World)
    (call : Call) : Decidable (call.EventMeets guard world) :=
  inferInstanceAs (Decidable (∀ request ∈ call.requestedEvent, guard world.db request.1 request.2))

theorem World.run_invariant {P : World → Prop} (hinitial : P .initial)
    (hstep : ∀ world call next response, P world → guard world call →
      call.run sha256 world = .ok (next, response) → P next)
    (hmeet : initial.CallsMeet sha256 guard calls) : P (run sha256 calls) := by
  have hfold : ∀ (calls : List Call) (world : World), P world →
      world.CallsMeet sha256 guard calls →
        P (calls.foldl (step sha256) world) := by
    intro calls
    induction calls with
    | nil => exact fun world hworld _ => hworld
    | cons call calls ih =>
      intro world hworld hmeet
      refine ih _ ?_ hmeet.2
      unfold step
      split
      next next response hrun => exact hstep _ _ _ _ hworld hmeet.1 hrun
      next => exact hworld
  exact hfold calls .initial hinitial hmeet

theorem World.callsMeet_true (world : World) (calls : List Call) :
    world.CallsMeet sha256 (fun _ _ => True) calls := by
  induction calls generalizing world with
  | nil => trivial
  | cons call calls ih => exact ⟨trivial, ih _⟩

theorem World.callsMeet_concat : initial.CallsMeet sha256 guard (calls ++ [call]) ↔
      initial.CallsMeet sha256 guard calls ∧ guard (run sha256 calls) call := by
  have hconcat : ∀ (calls : List Call) (world : World),
      world.CallsMeet sha256 guard (calls ++ [call]) ↔ world.CallsMeet sha256 guard calls ∧
          guard (calls.foldl (step sha256) world) call := by
    intro calls
    induction calls with
    | nil => simp [World.CallsMeet]
    | cons first rest ih =>
      intro world
      simp only [cons_append, World.CallsMeet, ih, foldl_cons, and_assoc]
  exact hconcat calls .initial

theorem World.run_db_invariant (hempty : P .empty)
    (hstep : ∀ db action db', P db → DbStep sha256 db action db' → P db')
    (calls : List Call) : P (run sha256 calls).db := by
  refine run_invariant (P := fun world => P world.db) hempty ?_ (callsMeet_true _ calls)
  intro world call next response hworld _ hrun
  exact (Call.run_steps hrun).invariant (fun db action db' hdb _ => hstep db action db' hdb) hworld

end CarlAgent.Storage
