import CarlAgent.Storage.Store
import CarlAgent.Task.Effect

/-!
# What a transaction changes

One lemma inverts each write of the store.  `DbStep` lists the changes a
committed call is made of; the invariants of the store are proved over it and
lifted to whole runs of calls once.
-/

namespace CarlAgent.Storage

open Foundation CarlAgent.Task Table

def Db.journal (db : Db) (taskId : TaskId) : List EventEnvelope :=
  db.events.rows.filter (isTaskEvent taskId)

variable {db db' : Db} {session : SessionRow} {event : TaskEvent} {envelope : EventEnvelope}
  {sessionId : SessionId} {next : TaskSnapshot} {sequence : Nat} {u : Unit} {taskId : TaskId}

@[simp] theorem isTaskEvent_iff :
    isTaskEvent taskId envelope = true ↔ ∃ event, envelope.event = .taskLifecycle taskId event := by
  unfold isTaskEvent
  cases envelope.event <;> simp [eq_comm]

structure Appended (db : Db) (session : SessionRow) (event : Event) (db' : Db) : Prop where
  found : db.sessions.find? session.id = some session
  bound : session.nextSequence + 1 ≤ maxI64
  serializable : isSerializable event = true
  sessions : ∀ id, db'.sessions.find? id =
    if id = session.id then some ⟨id, session.nextSequence + 1⟩
    else db.sessions.find? id
  events : db.events.insert ⟨session.id, session.nextSequence, event⟩ = some db'.events
  rest : db' = { db with sessions := db'.sessions, events := db'.events }

theorem Appended.rows {event : Event} (h : Appended db session event db') :
    db'.events.rows = db.events.rows ++ [⟨session.id, session.nextSequence, event⟩] :=
  (insert_eq_some.mp h.events).2

theorem revisionToSql_eq_ok {value : Nat} : revisionToSql value = .ok u ↔ value ≤ maxI64 := by
  simp [revisionToSql]

theorem requireProjectionChange_eq_ok {α : Type} {changed : Option α} {detail : String} {a : α} :
    requireProjectionChange changed detail = .ok a ↔ changed = some a := by
  simp [requireProjectionChange]

theorem requireUnique_eq_ok {ρ κ : Type} {key : ρ → κ} {table : Table key} {clash : ρ → Bool}
    {columns : String} :
    requireUnique table clash columns = .ok u ↔ ∀ row ∈ table.rows, clash row = false := by
  simp [requireUnique]

theorem appendEventInTransaction_appended {event : Event}
    (h : appendEventInTransaction db sessionId event = .ok (envelope, db')) :
    ∃ session, session.id = sessionId ∧ Appended db session event db' ∧
      envelope = ⟨sessionId, session.nextSequence, event⟩ := by
  simp only [appendEventInTransaction, ok_iff, requireProjectionChange_eq_ok, revisionToSql_eq_ok,
    insertRow_eq_ok, Prod.mk.injEq, not_not, not_lt] at h
  obtain ⟨session, hsession, hbound, sessions, hsessions, hserial, -, events,
    hevents, rfl, rfl⟩ := h
  have hid : session.id = sessionId := key_of_find? hsession
  subst hid
  refine ⟨session, rfl, ⟨hsession, hbound, hserial, ?_, hevents, rfl⟩, rfl⟩
  intro id
  rw [find?_update hsessions id, hsession]
  by_cases hcase : id = session.id
  · subst hcase
    simp
  · simp [hcase]

theorem appendEventInTransaction_accepts {db : Db} {event : Event}
    (hsession : db.sessions.find? session.id = some session)
    (hbound : session.nextSequence + 1 ≤ maxI64) (hserial : isSerializable event = true)
    (hfresh : db.events.find? (session.id, session.nextSequence) = none) :
    ∃ db', appendEventInTransaction db session.id event =
      .ok (⟨session.id, session.nextSequence, event⟩, db') := by
  obtain ⟨sessions, hsessions⟩ := @exists_update _ _ _ _ db.sessions
    session.id (fun _ => true)
    (fun row => { row with nextSequence := row.nextSequence + 1 })
    (fun _ => rfl) session hsession rfl
  obtain ⟨events, hevents⟩ := @exists_insert _ _ _ _ db.events
    ⟨session.id, session.nextSequence, event⟩ hfresh
  refine ⟨{ db with sessions, events }, ?_⟩
  simp only [appendEventInTransaction, ok_iff, requireProjectionChange_eq_ok, revisionToSql_eq_ok,
    insertRow_eq_ok, not_not, not_lt]
  exact ⟨session, hsession, hbound, sessions, hsessions, hserial, by omega, events, hevents, rfl⟩

structure AgentTaskRow.Coherent (row : AgentTaskRow) : Prop where
  taskId : row.snapshot.taskId = row.id
  sessionId : row.snapshot.sessionId = row.sessionId
  status : row.snapshot.status = row.status
  contract : row.snapshot.contract = row.contract
  budget : row.snapshot.budget = row.budget
  revision : row.snapshot.revision = row.revision
  activeEpoch : row.snapshot.activeEpoch = row.currentEpochId
  latestCheckpoint : row.snapshot.latestCheckpoint = row.latestCheckpointId
  providerContext : row.snapshot.providerContext = row.providerContext

theorem loadTaskRecord_eq_some {db : Db} {record : TaskRecord} :
    loadTaskRecord db taskId = .ok (some record) ↔
      ∃ row, db.agentTasks.find? taskId = some row ∧ row.Coherent ∧
        record = ⟨row.snapshot, row.revision⟩ := by
  unfold loadTaskRecord
  cases hrow : db.agentTasks.find? taskId with
  | none => simp
  | some row =>
    have hid : row.id = taskId := key_of_find? hrow
    simp only [ok_iff, Option.some.injEq, not_or, ne_eq, not_not, exists_eq_left']
    constructor
    · rintro ⟨⟨h₁, h₂, h₃, h₄, h₅, h₆, h₇, h₈, h₉⟩, rfl⟩
      exact ⟨⟨h₁.trans hid.symm, h₂, h₃, h₄, h₅, h₆, h₇, h₈, h₉⟩, rfl⟩
    · rintro ⟨⟨h₁, h₂, h₃, h₄, h₅, h₆, h₇, h₈, h₉⟩, rfl⟩
      exact ⟨⟨h₁.trans hid, h₂, h₃, h₄, h₅, h₆, h₇, h₈, h₉⟩, rfl⟩

structure TaskRowUpdated (db : Db) (row : AgentTaskRow)
    (snapshot : TaskSnapshot) (db' : Db) : Prop where
  found : db.agentTasks.find? snapshot.taskId = some row
  expected : row.revision = snapshot.revision - 1
  bound : snapshot.revision ≤ maxI64
  columns : checkTaskColumns snapshot = .ok ()
  epoch : ∀ epochId, snapshot.activeEpoch = some epochId →
    db.children.taskEpochs.find? epochId ≠ none
  checkpoint : ∀ checkpointId, snapshot.latestCheckpoint = some checkpointId →
    db.children.taskCheckpoints.find? checkpointId ≠ none
  tasks : ∀ id, db'.agentTasks.find? id =
    if id = snapshot.taskId then some (row.withSnapshot snapshot)
    else db.agentTasks.find? id
  rest : db' = { db with agentTasks := db'.agentTasks }

theorem updateTaskProjection_updated {snapshot : TaskSnapshot}
    (h : updateTaskProjection db snapshot = .ok db') :
    ∃ row, TaskRowUpdated db row snapshot db' := by
  simp only [updateTaskProjection, ok_iff, revisionToSql_eq_ok, requireProjectionChange_eq_ok,
    not_exists, not_and, Option.mem_def] at h
  obtain ⟨hbound, agentTasks, hupdate, u, hcolumns, hepoch, hcheckpoint, rfl⟩ := h
  obtain ⟨⟨row, hrow, hguard⟩, -⟩ := update_eq_some.mp hupdate
  refine ⟨row, hrow, by simpa using hguard, hbound, hcolumns, hepoch, hcheckpoint, ?_, rfl⟩
  intro id
  rw [find?_update hupdate id, hrow]
  rfl

theorem updateTaskProjection_accepts {db : Db} {row : AgentTaskRow} {snapshot : TaskSnapshot}
    (hrow : db.agentTasks.find? snapshot.taskId = some row)
    (hexpected : row.revision = snapshot.revision - 1) (hbound : snapshot.revision ≤ maxI64)
    (hcolumns : checkTaskColumns snapshot = .ok ())
    (hepoch : ∀ epochId, snapshot.activeEpoch = some epochId →
      db.children.taskEpochs.find? epochId ≠ none)
    (hcheckpoint : ∀ checkpointId, snapshot.latestCheckpoint = some checkpointId →
        db.children.taskCheckpoints.find? checkpointId ≠ none) :
    ∃ db', updateTaskProjection db snapshot = .ok db' := by
  obtain ⟨agentTasks, hupdate⟩ := @exists_update _ _ _ _ db.agentTasks
    snapshot.taskId (fun row => decide (row.revision = snapshot.revision - 1))
    (fun row => row.withSnapshot snapshot) (fun _ => rfl) row hrow
    (by simpa using hexpected)
  refine ⟨{ db with agentTasks }, ?_⟩
  simp only [updateTaskProjection, ok_iff, revisionToSql_eq_ok, requireProjectionChange_eq_ok,
    not_exists, not_and, Option.mem_def]
  exact ⟨hbound, agentTasks, hupdate, (), hcolumns, hepoch, hcheckpoint, rfl⟩

/-! ## One event of an existing task -/

/-- What an accepted event of a task changes outside the child tables. -/
structure TaskAppend (db : Db) (taskId : TaskId) (event : TaskEvent)
    (row : AgentTaskRow) (session : SessionRow) (next : TaskSnapshot)
    (db' : Db) : Prop where
  found : db.agentTasks.find? taskId = some row
  coherent : row.Coherent
  inSession : db.sessions.find? row.sessionId = some session
  bound : session.nextSequence + 1 ≤ maxI64
  step : TaskStep row.snapshot session.nextSequence event next
  revision : next.revision ≤ maxI64
  columns : checkTaskColumns next = .ok ()
  epoch : ∀ epochId, next.activeEpoch = some epochId → db'.children.taskEpochs.find? epochId ≠ none
  checkpoint : ∀ checkpointId, next.latestCheckpoint = some checkpointId →
    db'.children.taskCheckpoints.find? checkpointId ≠ none
  sessions : ∀ id, db'.sessions.find? id =
    if id = row.sessionId then some ⟨id, session.nextSequence + 1⟩
    else db.sessions.find? id
  events : db'.events.rows = db.events.rows ++
    [⟨row.sessionId, session.nextSequence, .taskLifecycle taskId event⟩]
  tasks : ∀ id, db'.agentTasks.find? id =
    if id = taskId then some (row.withSnapshot next)
    else db.agentTasks.find? id
  receipts : db'.serviceTaskReceipts = db.serviceTaskReceipts
  artifacts : db'.artifactObjects = db.artifactObjects

/-- Journal append, reducer and row update fit together, whatever is written
to the child tables between them. -/
theorem taskAppend_of_parts {db mid db' : Db} {row : AgentTaskRow}
    {children : ChildTables} (hrow : db.agentTasks.find? taskId = some row)
    (hcoherent : row.Coherent) (hsession : session.id = row.snapshot.sessionId)
    (happended : Appended db session (.taskLifecycle taskId event) mid)
    (hreduce : reduceTask (some row.snapshot) ⟨row.snapshot.sessionId, session.nextSequence,
        .taskLifecycle taskId event⟩ = .ok next)
    (hupdate : updateTaskProjection { mid with children } next = .ok db') :
    TaskAppend db taskId event row session next db' ∧ db'.children = children := by
  obtain ⟨reduced, hevent, -, hstep⟩ := reduceTask_some_iff.mp hreduce
  have hreduced : reduced = event := (Event.taskLifecycle.inj hevent).2.symm
  subst hreduced
  have hid : row.id = taskId := key_of_find? hrow
  obtain ⟨updatedRow, hupdated⟩ := updateTaskProjection_updated hupdate
  have hnext : next.taskId = taskId := hstep.frame.1.trans (hcoherent.taskId.trans hid)
  have hmid : mid.agentTasks = db.agentTasks := by
    rw [happended.rest]
  have hsame : updatedRow = row := by
    have := hupdated.found
    simp only [hmid, hnext, hrow, Option.some.injEq] at this
    exact this.symm
  subst hsame
  have hsessionId : session.id = updatedRow.sessionId := hsession.trans hcoherent.sessionId
  have hchildren : db'.children = children := by
    rw [hupdated.rest]
  have hevents := happended.rows
  rw [hsessionId] at hevents
  refine ⟨⟨hrow, hcoherent, ?_, happended.bound, hstep, hupdated.bound,
    hupdated.columns, ?_, ?_, ?_, ?_, ?_, ?_, ?_⟩, hchildren⟩
  · rw [← hsessionId]
    exact happended.found
  · rw [hchildren]
    exact hupdated.epoch
  · rw [hchildren]
    exact hupdated.checkpoint
  · intro id
    rw [hupdated.rest, ← hsessionId]
    exact happended.sessions id
  · rw [hupdated.rest]
    exact hevents
  · intro id
    have := hupdated.tasks id
    rw [hnext] at this
    rw [this]
    simp only [hmid]
  · rw [hupdated.rest, happended.rest]
  · rw [hupdated.rest, happended.rest]

theorem applyTaskChildProjection_eq_ok : applyTaskChildProjection db taskId
        ⟨sessionId, sequence, .taskLifecycle taskId event⟩ = .ok db' ↔
      sequence ≤ maxI64 ∧ ∃ children, db.children.apply taskId sequence event = .ok children ∧
          db' = { db with children } := by
  simp only [applyTaskChildProjection, ok_iff, revisionToSql_eq_ok, @eq_comm Db db']

theorem appendTaskEventInTransaction_appends {current record : TaskRecord}
    (hload : loadTaskRecord db taskId = .ok (some current))
    (h : appendTaskEventInTransaction db current event = .ok (record, sequence, db')) :
    ∃ row session next, TaskAppend db taskId event row session next db' ∧
      db.children.apply taskId session.nextSequence event = .ok db'.children ∧
      current = ⟨row.snapshot, row.revision⟩ ∧
      record = ⟨next, next.revision⟩ ∧ sequence = session.nextSequence := by
  obtain ⟨row, hrow, hcoherent, rfl⟩ := loadTaskRecord_eq_some.mp hload
  have hid : row.snapshot.taskId = taskId := hcoherent.taskId.trans (key_of_find? hrow)
  simp only [appendTaskEventInTransaction, hid, ok_iff, Prod.exists, Prod.mk.injEq] at h
  obtain ⟨envelope, mid, happend, next, hreduce, projected, hchild, updated,
    hupdate, rfl, rfl, rfl⟩ := h
  obtain ⟨session, hsession, happended, rfl⟩ := appendEventInTransaction_appended happend
  obtain ⟨-, children, happly, rfl⟩ := applyTaskChildProjection_eq_ok.mp hchild
  have hmid : mid.children = db.children := by
    rw [happended.rest]
  rw [hmid] at happly
  obtain ⟨hparts, hchildren⟩ := taskAppend_of_parts hrow hcoherent hsession
    happended hreduce hupdate
  refine ⟨row, session, next, hparts, ?_, rfl, rfl, rfl⟩
  rw [hchildren]
  exact happly

theorem insertCheckpointInTransaction_appends {current : TaskRecord}
    {input : NewCheckpoint} (hload : loadTaskRecord db input.taskId = .ok (some current))
    (h : insertCheckpointInTransaction db current input = .ok db') :
    ∃ row session next, TaskAppend db input.taskId
        (.checkpointCommitted input.checkpoint.checkpointId
          input.checkpointDigest) row session next db' ∧
      db.children.insertCanonical session.nextSequence input = .ok db'.children ∧
      current = ⟨row.snapshot, row.revision⟩ := by
  obtain ⟨row, hrow, hcoherent, rfl⟩ := loadTaskRecord_eq_some.mp hload
  simp only [insertCheckpointInTransaction, ok_iff, Prod.exists, revisionToSql_eq_ok] at h
  obtain ⟨envelope, mid, happend, next, hreduce, -, children, hcanonical, hupdate⟩ := h
  obtain ⟨session, hsession, happended, rfl⟩ := appendEventInTransaction_appended happend
  have hmid : mid.children = db.children := by
    rw [happended.rest]
  rw [hmid] at hcanonical
  obtain ⟨hparts, hchildren⟩ := taskAppend_of_parts hrow hcoherent hsession
    happended hreduce hupdate
  refine ⟨row, session, next, hparts, ?_, rfl⟩
  rw [hchildren]
  exact hcanonical

theorem AgentTaskRow.withSnapshot_coherent {row : AgentTaskRow}
    (htask : next.taskId = row.id) (hsession : next.sessionId = row.sessionId) :
    (row.withSnapshot next).Coherent where
  taskId := htask
  sessionId := hsession
  status := rfl
  contract := rfl
  budget := rfl
  revision := rfl
  activeEpoch := rfl
  latestCheckpoint := rfl
  providerContext := rfl

section TaskAppend

variable {db db' : Db} {taskId : TaskId} {event : TaskEvent}
  {row : AgentTaskRow} {session : SessionRow} {next : TaskSnapshot}

section

variable (h : TaskAppend db taskId event row session next db')
include h

theorem TaskAppend.row_id : row.id = taskId :=
  key_of_find? h.found

theorem TaskAppend.snapshot_taskId : row.snapshot.taskId = taskId :=
  h.coherent.taskId.trans h.row_id

theorem TaskAppend.coherent_next : (row.withSnapshot next).Coherent :=
  AgentTaskRow.withSnapshot_coherent (h.step.frame.1.trans h.coherent.taskId)
    (h.step.frame.2.1.trans h.coherent.sessionId)

theorem TaskAppend.load : loadTaskRecord db' taskId = .ok (some ⟨next, next.revision⟩) := by
  rw [loadTaskRecord_eq_some]
  exact ⟨row.withSnapshot next, by rw [h.tasks, if_pos rfl], h.coherent_next, rfl⟩

end

end TaskAppend

/-! ## Creation of a task -/

def NewTask.snapshot (input : NewTask) : TaskSnapshot :=
  .created input.taskId input.sessionId input.contract input.budget

def NewTask.row (input : NewTask) (workspace : String) : AgentTaskRow where
  id := input.taskId
  sessionId := input.sessionId
  status := .queued
  contract := input.contract
  budget := input.budget
  snapshot := input.snapshot
  canonicalWorkspace := workspace
  model := input.model
  effort := input.effort
  permissionMode := storedPermissionMode input.permissionMode
  revision := 1
  currentEpochId := none
  latestCheckpointId := none
  providerContext := none

structure TaskCreate (db : Db) (input : NewTask) (workspace : String)
    (session : SessionRow) (db' : Db) : Prop where
  lookup : input.workspace = .directory (.utf8 workspace)
  fresh : db.agentTasks.find? input.taskId = none
  inSession : db.sessions.find? input.sessionId = some session
  bound : session.nextSequence + 1 ≤ maxI64
  valid : (input.event (.utf8 workspace)).validate = .ok ()
  columns : checkTaskColumns input.snapshot = .ok ()
  model : isStoredModel input.model = true
  sessions : ∀ id, db'.sessions.find? id =
    if id = input.sessionId then some ⟨id, session.nextSequence + 1⟩
    else db.sessions.find? id
  events : db'.events.rows = db.events.rows ++ [⟨input.sessionId, session.nextSequence,
      .taskLifecycle input.taskId (input.event (.utf8 workspace))⟩]
  tasks : ∀ id, db'.agentTasks.find? id =
    if id = input.taskId then some (input.row workspace)
    else db.agentTasks.find? id
  configuration : db.children.taskConfigurationState.insert
      ⟨input.taskId, .initial input.model input.effort input.permissionMode⟩ =
    some db'.children.taskConfigurationState
  children : db'.children = { db.children with
    taskConfigurationState := db'.children.taskConfigurationState }
  receipts : db'.serviceTaskReceipts = db.serviceTaskReceipts
  artifacts : db'.artifactObjects = db.artifactObjects

theorem canonicalWorkspace_eq_ok {lookup : WorkspaceLookup} {path : PathBuf} :
    canonicalWorkspace lookup = .ok path ↔ lookup = .directory path := by
  cases lookup <;> simp [canonicalWorkspace]

theorem insertTask_creates {input : NewTask} {record : TaskRecord}
    (h : insertTask db input = .ok (record, db')) :
    ∃ workspace session, TaskCreate db input workspace session db' ∧
      record = ⟨input.snapshot, 1⟩ := by
  simp only [insertTask, ok_iff, canonicalWorkspace_eq_ok, Prod.exists, Prod.mk.injEq] at h
  obtain ⟨path, hlookup, envelope, mid, happend, snapshot, hreduce, inserted,
    hinsert, rfl, rfl⟩ := h
  obtain ⟨session, hsession, happended, rfl⟩ := appendEventInTransaction_appended happend
  obtain ⟨taskId, workspace, contract, budget, model, effort, mode, hevent,
    hvalid, hsnapshot⟩ := reduceTask_none_iff.mp hreduce
  have hcreated : snapshot = input.snapshot := by
    simp only [NewTask.event, Event.taskLifecycle.injEq, TaskEvent.created.injEq] at hevent
    obtain ⟨rfl, -, -, rfl, rfl, -⟩ := hevent
    exact hsnapshot
  subst hcreated
  obtain ⟨text, rfl⟩ : ∃ text, path = .utf8 text := by
    cases path with
    | nonUtf8 => simp [insertTaskProjection, bind, Except.bind] at hinsert
    | utf8 text => exact ⟨text, rfl⟩
  simp only [insertTaskProjection, ok_iff, insertRow_eq_ok, not_not, exists_eq_left'] at hinsert
  obtain ⟨_, -, _, hcolumns, hmodel, agentTasks, htasks, configurations,
    hconfiguration, rfl⟩ := hinsert
  have htask : mid.agentTasks = db.agentTasks := by
    rw [happended.rest]
  have hchildren : mid.children = db.children := by
    rw [happended.rest]
  rw [htask] at htasks
  rw [hchildren] at hconfiguration
  have hrows := happended.rows
  have hfound := happended.found
  have hsessions := happended.sessions
  rw [hsession] at hrows hfound hsessions
  refine ⟨text, session, ⟨hlookup, (insert_eq_some.mp htasks).1, hfound, happended.bound, ?_,
    hcolumns, hmodel, hsessions, hrows, ?_, hconfiguration, ?_, ?_, ?_⟩, rfl⟩
  · simp only [Event.taskLifecycle.injEq] at hevent
    rw [hevent.2]
    exact hvalid
  · intro id
    exact find?_insert htasks id
  · simp only [hchildren]
  · rw [happended.rest]
  · rw [happended.rest]

end CarlAgent.Storage
