import CarlAgent.Storage.Run

/-!
# The task rows follow the journal

The events of a session are numbered in the order in which they were appended,
every event of a task stands in one session, and the row of a task is the fold
of the reducer over its events.
-/

namespace CarlAgent.Storage

open Foundation CarlAgent.Task List

variable {sha256 : Sha256}
variable {action : Action} {db db' : Db} {workspace : String}

structure Idle (db db' : Db) : Prop where
  tasks : db'.agentTasks = db.agentTasks
  journal : ∀ taskId, db'.journal taskId = db.journal taskId
  children : db'.children = { db.children with taskSteering := db'.children.taskSteering }
  sessions : ∀ id session, db.sessions.find? id = some session →
    ∃ later, db'.sessions.find? id = some later ∧ session.nextSequence ≤ later.nextSequence

/-- The child rows that an accepted event writes: those of the event, or the
two canonical rows of a checkpoint. -/
inductive ChildrenChange (children : ChildTables) (taskId : TaskId)
    (sequence : Nat) (event : TaskEvent) (children' : ChildTables) : Prop
  | event (h : children.apply taskId sequence event = .ok children')
  | canonical (input : NewCheckpoint) (htask : input.taskId = taskId)
    (hevent : event = .checkpointCommitted input.checkpoint.checkpointId input.checkpointDigest)
    (h : children.insertCanonical sequence input = .ok children')

inductive StepKind (db db' : Db) : Prop
  | idle (h : Idle db db')
  | created {input : NewTask} {workspace : String} {session : SessionRow}
    (h : TaskCreate db input workspace session db')
  | append {taskId : TaskId} {event : TaskEvent} {row : AgentTaskRow}
    {session : SessionRow} {next : TaskSnapshot}
    (h : TaskAppend db taskId event row session next db')
    (hchildren : ChildrenChange db.children taskId session.nextSequence event db'.children)

theorem idle_of_tables (htasks : db'.agentTasks = db.agentTasks) (hevents : db'.events = db.events)
    (hsessions : db'.sessions = db.sessions)
    (hchildren : db'.children = { db.children with taskSteering := db'.children.taskSteering }) :
    Idle db db' where
  tasks := htasks
  journal := by
    intro taskId
    unfold Db.journal
    rw [hevents]
  children := hchildren
  sessions := by
    intro id session hsession
    exact ⟨session, by rw [hsessions, hsession], le_refl _⟩

theorem Db.journal_append {envelope : EventEnvelope}
    (h : db'.events.rows = db.events.rows ++ [envelope]) (taskId : TaskId) :
    db'.journal taskId = db.journal taskId ++
      if isTaskEvent taskId envelope then [envelope] else [] := by
  unfold Db.journal
  rw [h, filter_append, filter_singleton, cond_eq_ite]

variable {session : SessionRow} {event : TaskEvent} {row : AgentTaskRow}
  {next : TaskSnapshot}

theorem Appended.idle (h : Appended db session .other db') : Idle db db' where
  tasks := by rw [h.rest]
  journal := by
    intro taskId
    rw [Db.journal_append h.rows]
    simp [isTaskEvent]
  children := by rw [h.rest]
  sessions := by
    intro id row hrow
    rw [h.sessions id]
    by_cases hid : id = session.id
    · subst hid
      rw [h.found] at hrow
      cases hrow
      exact ⟨_, if_pos rfl, Nat.le_succ _⟩
    · exact ⟨row, by rw [if_neg hid, hrow], le_refl _⟩

theorem bindSteeringControl_idle {taskId : TaskId} {sequence : Nat} {controlId : String}
    (h : bindSteeringControl db taskId sequence controlId = .ok db') : Idle db db' := by
  simp only [bindSteeringControl, ok_iff] at h
  obtain ⟨-, -, -, -, rfl⟩ := h
  exact idle_of_tables rfl rfl rfl rfl

/-- A step of the database, with the event of the task it appends. -/
theorem DbStep.task_cases (h : DbStep sha256 db action db') : Idle db db' ∨
      (∃ input workspace session, TaskCreate db input workspace session db') ∨
      ∃ taskId event row session next, TaskAppend db taskId event row session next db' ∧
        ChildrenChange db.children taskId session.nextSequence event db'.children ∧
        (action = .event taskId event ∨ isStoreEvent event = true) := by
  cases h with
  | @session created _ h =>
    refine .inl ⟨rfl, fun _ => rfl, rfl, ?_⟩
    intro id session hsession
    have hne : id ≠ created := by
      rintro rfl
      rw [(Table.insert_eq_some.mp h).1] at hsession
      cases hsession
    exact ⟨session, by rw [Table.find?_insert h, if_neg hne, hsession], le_refl _⟩
  | otherEvent h => exact .inl h.idle
  | artifact h | sweep h | receipt h => exact .inl (idle_of_tables rfl rfl rfl rfl)
  | steering h => exact .inl (bindSteeringControl_idle h)
  | created h => exact .inr (.inl ⟨_, _, _, h⟩)
  | event h hchildren =>
    exact .inr (.inr ⟨_, _, _, _, _, h, .event hchildren, .inl rfl⟩)
  | checkpoint h =>
    exact .inr (.inr ⟨_, _, _, _, _, h.append, .canonical _ rfl rfl h.children, .inr rfl⟩)

theorem DbStep.kind (h : DbStep sha256 db action db') : StepKind db db' := by
  rcases h.task_cases with hidle | ⟨_, _, _, hcreate⟩ | ⟨_, _, _, _, _, happend, hchildren, -⟩
  · exact .idle hidle
  · exact .created hcreate
  · exact .append happend hchildren

/-! ## The order of the journal -/

structure Db.Ordered (db : Db) : Prop where
  counter : ∀ id session, db.sessions.find? id = some session →
    1 ≤ session.nextSequence ∧ session.nextSequence ≤ maxI64
  numbered : ∀ envelope ∈ db.events.rows, ∃ session,
    db.sessions.find? envelope.sessionId = some session ∧
      1 ≤ envelope.sequence ∧ envelope.sequence < session.nextSequence
  increasing : db.events.rows.Pairwise fun a b =>
    a.sessionId = b.sessionId → a.sequence < b.sequence

theorem Db.Ordered.append {sessionId : SessionId} {event : Event} (hordered : db.Ordered)
    (hfound : db.sessions.find? sessionId = some session)
    (hbound : session.nextSequence + 1 ≤ maxI64)
    (hsessions : ∀ id, db'.sessions.find? id =
      if id = sessionId then some ⟨id, session.nextSequence + 1⟩
      else db.sessions.find? id)
    (hevents : db'.events.rows = db.events.rows ++ [⟨sessionId, session.nextSequence, event⟩]) :
    db'.Ordered := by
  have hcounter := hordered.counter sessionId session hfound
  have hnumbered : ∀ envelope ∈ db.events.rows, ∃ row,
      db'.sessions.find? envelope.sessionId = some row ∧
        1 ≤ envelope.sequence ∧ envelope.sequence < row.nextSequence := by
    intro envelope henvelope
    obtain ⟨row, hrow, hpositive, hbelow⟩ := hordered.numbered _ henvelope
    rw [hsessions]
    by_cases hid : envelope.sessionId = sessionId
    · rw [hid, hfound] at hrow
      cases hrow
      exact ⟨_, if_pos hid, hpositive, Nat.lt_succ_of_lt hbelow⟩
    · exact ⟨row, by rw [if_neg hid, hrow], hpositive, hbelow⟩
  refine ⟨?_, ?_, ?_⟩
  · intro id row hrow
    rw [hsessions id] at hrow
    by_cases hid : id = sessionId
    · rw [if_pos hid] at hrow
      cases hrow
      exact ⟨Nat.le_add_left _ _, hbound⟩
    · rw [if_neg hid] at hrow
      exact hordered.counter id row hrow
  · rw [hevents, forall_mem_append, forall_mem_singleton]
    exact ⟨hnumbered, _, by rw [hsessions, if_pos rfl], hcounter.1, Nat.lt_succ_self _⟩
  · rw [hevents, pairwise_append]
    refine ⟨hordered.increasing, pairwise_singleton _ _, ?_⟩
    intro envelope henvelope last hlast hsame
    rw [mem_singleton.mp hlast] at hsame ⊢
    obtain ⟨row, hrow, -, hbelow⟩ := hordered.numbered envelope henvelope
    rw [show envelope.sessionId = sessionId from hsame, hfound] at hrow
    cases hrow
    exact hbelow

theorem Db.Ordered.of_same (hordered : db.Ordered) (hsessions : db'.sessions = db.sessions)
    (hevents : db'.events = db.events) : db'.Ordered := by
  refine ⟨?_, ?_, ?_⟩
  · rw [hsessions]
    exact hordered.counter
  · rw [hevents, hsessions]
    exact hordered.numbered
  · rw [hevents]
    exact hordered.increasing

theorem Db.Ordered.newSession {id : SessionId} {sessions : Table SessionRow.id}
    (hordered : db.Ordered) (h : db.sessions.insert ⟨id, 1⟩ = some sessions) :
    ({ db with sessions } : Db).Ordered := by
  have hfind := Table.find?_insert h
  refine ⟨?_, ?_, hordered.increasing⟩
  · intro other session hsession
    rw [hfind] at hsession
    split at hsession
    · cases hsession
      exact ⟨le_refl 1, show 1 ≤ maxI64 by decide⟩
    · exact hordered.counter other session hsession
  · intro envelope henvelope
    obtain ⟨session, hsession, hsequence⟩ := hordered.numbered envelope henvelope
    refine ⟨session, ?_, hsequence⟩
    rw [hfind, if_neg, hsession]
    intro hsame
    have hnone : db.sessions.find? id = none := (Table.insert_eq_some.mp h).1
    rw [show envelope.sessionId = id from hsame, hnone] at hsession
    cases hsession

theorem DbStep.ordered (hordered : db.Ordered) (h : DbStep sha256 db action db') : db'.Ordered := by
  cases h with
  | session h => exact hordered.newSession h
  | otherEvent h =>
    exact hordered.append h.found h.bound h.sessions h.rows
  | artifact h | sweep h | receipt h => exact hordered.of_same rfl rfl
  | steering h =>
    simp only [bindSteeringControl, ok_iff] at h
    obtain ⟨-, -, -, -, rfl⟩ := h
    exact hordered.of_same rfl rfl
  | created h | event h _ => exact hordered.append h.inSession h.bound h.sessions h.events
  | checkpoint h =>
    exact hordered.append h.append.inSession h.append.bound h.append.sessions h.append.events

theorem Db.ordered_empty : Db.empty.Ordered where
  counter := by
    intro id session h
    cases h
  numbered := by
    intro envelope h
    cases h
  increasing := .nil

structure AgentTaskRow.Replayed (row : AgentTaskRow) (journal : List EventEnvelope) : Prop where
  coherent : row.Coherent
  fold : reduceJournal journal = .ok (some row.snapshot)
  count : row.snapshot.revision = journal.length
  inSession : ∀ envelope ∈ journal, envelope.sessionId = row.sessionId

structure Db.Replayed (db : Db) : Prop where
  rows : ∀ taskId row, db.agentTasks.find? taskId = some row → row.Replayed (db.journal taskId)
  absent : ∀ taskId, db.agentTasks.find? taskId = none → db.journal taskId = []

theorem TaskAppend.journal {taskId : TaskId} (h : TaskAppend db taskId event row session next db')
    (id : TaskId) :
    db'.journal id = if id = taskId then db.journal taskId ++
      [⟨row.sessionId, session.nextSequence, .taskLifecycle taskId event⟩]
      else db.journal id := by
  rw [Db.journal_append h.events]
  by_cases hid : id = taskId
  · simp [isTaskEvent, hid]
  · simp [isTaskEvent, hid, Ne.symm hid]

variable {input : NewTask} {call : Call}

theorem TaskCreate.journal (h : TaskCreate db input workspace session db') (id : TaskId) :
    db'.journal id = if id = input.taskId then db.journal input.taskId ++
      [⟨input.sessionId, session.nextSequence,
        .taskLifecycle input.taskId (input.event (.utf8 workspace))⟩]
      else db.journal id := by
  rw [Db.journal_append h.events]
  by_cases hid : id = input.taskId
  · simp [isTaskEvent, hid]
  · simp [isTaskEvent, hid, Ne.symm hid]

theorem TaskAppend.replayed {taskId : TaskId} (h : TaskAppend db taskId event row session next db')
    (hrow : row.Replayed (db.journal taskId)) :
    (row.withSnapshot next).Replayed (db'.journal taskId) := by
  rw [h.journal, if_pos rfl]
  refine ⟨h.coherent_next, ?_, ?_, ?_⟩
  · rw [reduceJournal_concat]
    exact ⟨some row.snapshot, hrow.fold, reduceTask_some_iff.mpr ⟨event,
      by rw [h.snapshot_taskId], h.coherent.sessionId.symm, h.step⟩⟩
  · have hcount : next.revision = row.snapshot.revision + 1 := h.step.frame.2.2.2
    rw [length_append, ← hrow.count]
    exact hcount
  · exact forall_mem_append.mpr ⟨hrow.inSession, forall_mem_singleton.mpr rfl⟩

theorem NewTask.row_coherent (input : NewTask) (workspace : String) :
    (input.row workspace).Coherent :=
  ⟨rfl, rfl, rfl, rfl, rfl, rfl, rfl, rfl, rfl⟩

theorem TaskCreate.replayed (h : TaskCreate db input workspace session db')
    (habsent : db.journal input.taskId = []) :
    (input.row workspace).Replayed (db'.journal input.taskId) := by
  rw [h.journal, if_pos rfl, habsent, nil_append]
  refine ⟨input.row_coherent workspace, ?_, rfl, ?_⟩
  · have hcreate : reduceTask none ⟨input.sessionId, session.nextSequence,
        .taskLifecycle input.taskId (input.event (.utf8 workspace))⟩ = .ok input.snapshot :=
      reduceTask_none_iff.mpr ⟨_, _, _, _, _, _, _, rfl, h.valid, rfl⟩
    rw [← nil_append [_], reduceJournal_concat]
    exact ⟨none, rfl, hcreate⟩
  · intro envelope henvelope
    rw [mem_singleton.mp henvelope]
    rfl

theorem Db.Replayed.set {taskId : TaskId} (hreplayed : db.Replayed)
    (htasks : ∀ id, db'.agentTasks.find? id =
      if id = taskId then some row else db.agentTasks.find? id)
    (hjournal : ∀ id, id ≠ taskId → db'.journal id = db.journal id)
    (hrow : row.Replayed (db'.journal taskId)) : db'.Replayed := by
  refine ⟨?_, ?_⟩
  · intro id other hother
    rw [htasks] at hother
    by_cases hid : id = taskId
    · rw [if_pos hid] at hother
      cases hother
      rw [hid]
      exact hrow
    · rw [if_neg hid] at hother
      rw [hjournal id hid]
      exact hreplayed.rows id other hother
  · intro id hnone
    rw [htasks] at hnone
    by_cases hid : id = taskId
    · simp [hid] at hnone
    · rw [if_neg hid] at hnone
      rw [hjournal id hid]
      exact hreplayed.absent id hnone

theorem StepKind.replayed (hreplayed : db.Replayed) (h : StepKind db db') : db'.Replayed := by
  cases h with
  | idle h =>
    refine ⟨?_, ?_⟩
    · intro taskId row
      rw [h.tasks, h.journal]
      exact hreplayed.rows taskId row
    · intro taskId
      rw [h.tasks, h.journal]
      exact hreplayed.absent taskId
  | created h =>
    refine hreplayed.set h.tasks ?_ (h.replayed (hreplayed.absent _ h.fresh))
    intro id hid
    rw [h.journal, if_neg hid]
  | append h _ =>
    refine hreplayed.set h.tasks ?_ (h.replayed (hreplayed.rows _ _ h.found))
    intro id hid
    rw [h.journal, if_neg hid]

theorem Db.replayed_empty : Db.empty.Replayed where
  rows := by
    intro taskId row h
    cases h
  absent := fun _ _ => rfl

structure Db.Consistent (db : Db) : Prop where
  ordered : db.Ordered
  replayed : db.Replayed

theorem Db.consistent_empty : Db.empty.Consistent :=
  ⟨Db.ordered_empty, Db.replayed_empty⟩

theorem DbStep.consistent (hdb : db.Consistent)
    (h : DbStep sha256 db action db') : db'.Consistent :=
  ⟨h.ordered hdb.ordered, h.kind.replayed hdb.replayed⟩

theorem World.run_consistent (calls : List Call) : (World.run sha256 calls).db.Consistent :=
  World.run_db_invariant Db.consistent_empty (fun _ _ _ hdb hstep => hstep.consistent hdb) calls

theorem Db.Consistent.journal_increasing (hdb : db.Consistent) (taskId : TaskId) :
    (db.journal taskId).Pairwise fun a b => a.sequence < b.sequence := by
  have hincreasing : (db.journal taskId).Pairwise fun a b =>
      a.sessionId = b.sessionId → a.sequence < b.sequence :=
    hdb.ordered.increasing.sublist filter_sublist
  cases hrow : db.agentTasks.find? taskId with
  | none =>
    rw [hdb.replayed.absent taskId hrow]
    exact .nil
  | some row =>
    have hsession := (hdb.replayed.rows taskId row hrow).inSession
    refine hincreasing.imp_of_mem fun ha hb hab => hab ?_
    rw [hsession _ ha, hsession _ hb]

/-- The task whose journal a call extends when it returns a record. -/
def Call.target : Call → Option TaskId
  | .createTask _ input => some input.taskId
  | .appendTaskEvent _ taskId _ _ => some taskId
  | .commitCheckpoint _ input _ => some input.taskId
  | _ => none

def Response.isRecord : Response → Bool
  | .task _ => true
  | .checkpoint _ => true
  | _ => false

def AddsOneEvent (db db' : Db) (taskId : TaskId) : Prop :=
  (∃ envelope, db'.journal taskId = db.journal taskId ++ [envelope]) ∧
    ∀ other, other ≠ taskId → db'.journal other = db.journal other

theorem TaskAppend.addsOneEvent {taskId : TaskId}
    (h : TaskAppend db taskId event row session next db') : AddsOneEvent db db' taskId := by
  refine ⟨⟨_, by rw [h.journal, if_pos rfl]⟩, ?_⟩
  intro other hother
  rw [h.journal, if_neg hother]

theorem TaskCreate.addsOneEvent (h : TaskCreate db input workspace session db') :
    AddsOneEvent db db' input.taskId := by
  refine ⟨⟨_, by rw [h.journal, if_pos rfl]⟩, ?_⟩
  intro other hother
  rw [h.journal, if_neg hother]

theorem Call.run_addsOneEvent {world next : World} {taskId : TaskId}
    {response : Response} (htarget : call.target = some taskId) (hrecord : response.isRecord = true)
    (h : call.run sha256 world = .ok (next, response)) : AddsOneEvent world.db next.db taskId := by
  cases call with
  | createTask h input =>
    cases htarget
    simp only [Call.run, ok_iff, Prod.exists, Prod.mk.injEq] at h
    obtain ⟨_, db, hinsert, rfl, -⟩ := h
    obtain ⟨workspace, session, hcreate, -⟩ := insertTask_creates hinsert
    exact hcreate.addsOneEvent
  | appendTaskEvent h taskId expectedRevision event =>
    cases htarget
    simp only [Call.run, ok_iff] at h
    obtain ⟨appended, happend, hsettle⟩ := h
    cases appended with
    | none =>
      cases hsettle
      cases hrecord
    | some result =>
      cases hsettle
      obtain ⟨row, session, next, htask, -⟩ := appendTaskEvent_eq_some happend
      exact htask.addsOneEvent
  | commitCheckpoint h input expectedTaskRevision =>
    cases htarget
    simp only [Call.run, bind_eq_ok] at h
    obtain ⟨committed, hcommit, h⟩ := h
    cases committed with
    | none =>
      cases h
      cases hrecord
    | some result =>
      cases h
      obtain ⟨row, session, next, validated, hcommitted, -⟩ := commitCheckpoint_eq_some hcommit
      exact hcommitted.append.addsOneEvent
  | _ => cases htarget

theorem Call.run_stale {world next : World}
    (h : call.run sha256 world = .ok (next, .stale)) : next = world := by
  cases call with
  | createTaskIdempotent h input idempotencyKey commandDigest =>
    simp only [Call.run, bind_eq_ok, Prod.exists] at h
    obtain ⟨record, result, -, h⟩ := h
    cases result <;> cases h
  | appendTaskEvent h taskId expectedRevision event =>
    simp only [Call.run, ok_iff] at h
    obtain ⟨appended, -, hsettle⟩ := h
    cases appended <;> cases hsettle
    rfl
  | appendControlledTaskSteering h taskId expectedRevision steeringSequence
    textDigest controlId =>
    simp only [Call.run, ok_iff] at h
    obtain ⟨appended, -, hsettle⟩ := h
    cases appended <;> cases hsettle
    rfl
  | commitCheckpoint h input expectedTaskRevision =>
    simp only [Call.run, bind_eq_ok] at h
    obtain ⟨committed, -, h⟩ := h
    cases committed <;> cases h
    rfl
  | _ => simp [Call.run, bind_eq_ok] at h

/-- After every interleaving of calls, the rows are the fold of the journal,
and the next call either adds one event to its own task or changes nothing. -/
theorem store_follows_journal (sha256 : Sha256) (calls : List Call) :
    let world := World.run sha256 calls
    (∀ taskId row, world.db.agentTasks.find? taskId = some row →
      reduceJournal (world.db.journal taskId) = .ok (some row.snapshot) ∧
      (world.db.journal taskId).Pairwise (fun a b =>
        a.sequence < b.sequence) ∧
      row.snapshot.revision = (world.db.journal taskId).length ∧
      row.revision = row.snapshot.revision) ∧
    (∀ taskId, world.db.agentTasks.find? taskId = none →
      world.db.journal taskId = []) ∧
    (∀ (call : Call) taskId next response, call.target = some taskId →
      call.run sha256 world = .ok (next, response) →
      response.isRecord = true → AddsOneEvent world.db next.db taskId) ∧
    ∀ call : Call, (∃ error, call.run sha256 world = .error error) ∨
      (∃ next, call.run sha256 world = .ok (next, .stale)) →
      World.step sha256 world call = world := by
  intro world
  have hconsistent : world.db.Consistent := World.run_consistent calls
  refine ⟨?_, hconsistent.replayed.absent, ?_, ?_⟩
  · intro taskId row hrow
    have hreplayed := hconsistent.replayed.rows taskId row hrow
    exact ⟨hreplayed.fold, hconsistent.journal_increasing taskId,
      hreplayed.count, hreplayed.coherent.revision.symm⟩
  · intro call taskId next response htarget hrun hrecord
    exact Call.run_addsOneEvent htarget hrecord hrun
  · rintro call (⟨error, hrun⟩ | ⟨next, hrun⟩)
    · simp only [World.step, hrun]
    · have hsame := Call.run_stale hrun
      simp only [World.step, hrun, hsame]

namespace Sample

open CarlAgent.Task.Sample

def newTask : NewTask where
  taskId := taskId
  sessionId := sessionId
  workspace := .directory (.utf8 "/w")
  contract := contract .pending []
  model := model
  effort := .low
  permissionMode := .default
  budget := .default

def calls (events : List TaskEvent) : List Call :=
  .createSession 0 sessionId :: .createTask 0 newTask ::
    events.zipIdx.map fun entry =>
      .appendTaskEvent 0 taskId (entry.2 + 1) entry.1

def emptyDigest : Sha256Digest :=
  ⟨0xe3b0c44298fc1c149afbf4c8996fb92427ae41e4649b934ca495991b7852b855⟩

def activation : TaskEvent := .stateTransitioned .queued .active "go"

end Sample

theorem activated_sample_follows_journal :
    let world := World.run (fun _ => Sample.emptyDigest) (Sample.calls [Sample.activation])
    ∃ row, world.db.agentTasks.find? Task.Sample.taskId = some row ∧
      row.snapshot.status = .active ∧ row.revision = 2 ∧
      reduceJournal (world.db.journal Task.Sample.taskId) = .ok (some row.snapshot) := by
  have hstored : ((World.run (fun _ => Sample.emptyDigest)
      (Sample.calls [Sample.activation])).db.agentTasks.find?
        Task.Sample.taskId).map (fun row => (row.snapshot.status, row.revision)) =
          some (.active, 2) := by
    decide +kernel
  obtain ⟨row, hrow, hvalues⟩ := Option.map_eq_some_iff.mp hstored
  have hfollows := (store_follows_journal (fun _ => Sample.emptyDigest)
    (Sample.calls [Sample.activation])).1 _ row hrow
  exact ⟨row, hrow, congrArg Prod.fst hvalues, congrArg Prod.snd hvalues, hfollows.1⟩

end CarlAgent.Storage
