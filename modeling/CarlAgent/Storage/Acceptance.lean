import CarlAgent.Storage.WorkRows
import CarlAgent.Task.SnapshotSize

/-!
# Which events a task accepts

With room in the journal and in the columns, an event that the reducer accepts
and whose rows can be written is appended.  Evidence followed by a transition
settles an operation of the active epoch.
-/

namespace CarlAgent.Storage

open Foundation CarlAgent.Task

variable {sha256 : Sha256}

/-- Room for `n` more small events of a task. -/
@[mk_iff]
structure AgentTaskRow.Room (row : AgentTaskRow) (session : SessionRow) (n : Nat) : Prop where
  sequence : session.nextSequence + n ≤ maxI64
  revision : row.snapshot.revision + n ≤ maxI64
  snapshot : row.snapshot.toJson.size + eventBytes * n ≤ maxSnapshotJsonBytes

instance (row : AgentTaskRow) (session : SessionRow) (n : Nat) : Decidable (row.Room session n) :=
  decidable_of_iff' _ (AgentTaskRow.room_iff row session n)

/-- A task of a regular database with room for `n` more small events. -/
structure TaskAt (db : Db) (taskId : TaskId) (row : AgentTaskRow)
    (session : SessionRow) (n : Nat) : Prop where
  regular : db.Regular
  found : db.agentTasks.find? taskId = some row
  inSession : db.sessions.find? row.sessionId = some session
  room : row.Room session n

theorem isSmallEvent_frame {state next : TaskSnapshot} {sequence : Nat} {event : TaskEvent}
    (h : Effect state sequence event next) (hsmall : isSmallEvent event = true) :
    next.contract = state.contract ∧ next.latestCheckpoint = state.latestCheckpoint := by
  cases h with
  | contractRevised _ _ => cases hsmall
  | checkpointCommitted _ => cases hsmall
  | _ => exact ⟨rfl, rfl⟩

theorem checkTaskColumns_eq_ok {snapshot : TaskSnapshot} {u : Unit} :
    checkTaskColumns snapshot = .ok u ↔ snapshot.contract.toJson.size ≤ maxContractJsonBytes ∧
        snapshot.toJson.size ≤ maxSnapshotJsonBytes := by
  simp [checkTaskColumns, bind_eq_ok]

section

variable {db : Db} {taskId : TaskId} {row : AgentTaskRow}
  {session : SessionRow} {n : Nat}

theorem TaskAt.coherent (h : TaskAt db taskId row session n) : row.Coherent :=
  (h.regular.consistent.replayed.rows taskId row h.found).coherent

theorem TaskAt.past (h : TaskAt db taskId row session n) {sequence : Nat}
    (hpast : db.Happened taskId sequence) : sequence < session.nextSequence := by
  obtain ⟨found, hfound, hlt⟩ := h.regular.session h.found
  rw [h.inSession] at hfound
  cases hfound
  exact hlt sequence hpast

theorem TaskAt.fresh (h : TaskAt db taskId row session n) :
    db.events.find? (row.sessionId, session.nextSequence) = none := by
  rw [Table.find?_eq_none]
  intro envelope henvelope hkey
  obtain ⟨found, hfound, -, hlt⟩ := h.regular.consistent.ordered.numbered envelope henvelope
  simp only [Prod.mk.injEq] at hkey
  rw [hkey.1, h.inSession] at hfound
  cases hfound
  omega

theorem TaskAt.load (h : TaskAt db taskId row session n) :
    loadTaskRecord db taskId = .ok (some ⟨row.snapshot, row.revision⟩) :=
  loadTaskRecord_eq_some.mpr ⟨row, h.found, h.coherent, rfl⟩

def nextSnapshot (row : AgentTaskRow) (changed : TaskSnapshot) : TaskSnapshot :=
  { changed with revision := row.snapshot.revision + 1 }

structure Accepts (db : Db) (taskId : TaskId) (row : AgentTaskRow)
    (session : SessionRow) (event : TaskEvent) (next : TaskSnapshot)
    (db' : Db) : Prop where
  call : appendTaskEventInTransaction db ⟨row.snapshot, row.revision⟩ event =
    .ok (⟨next, next.revision⟩, session.nextSequence, db')
  append : TaskAppend db taskId event row session next db'
  children : db.children.apply taskId session.nextSequence event = .ok db'.children

variable {event : TaskEvent}

theorem TaskAt.accepts {changed : TaskSnapshot} {children : ChildTables}
    (h : TaskAt db taskId row session (n + 1)) (hrunning : row.snapshot.status.isTerminal = false)
    (hvalid : event.validate = .ok ()) (hsmall : isSmallEvent event = true)
    (heffect : Effect row.snapshot session.nextSequence event changed)
    (hchildren : db.children.apply taskId session.nextSequence event = .ok children) :
    ∃ db', Accepts db taskId row session event (nextSnapshot row changed) db' ∧
      TaskAt db' taskId (row.withSnapshot (nextSnapshot row changed))
        ⟨row.sessionId, session.nextSequence + 1⟩ n := by
  have hid : row.snapshot.taskId = taskId := h.coherent.taskId.trans (Table.key_of_find? h.found)
  have hsession : session.id = row.snapshot.sessionId :=
    (Table.key_of_find? h.inSession).trans h.coherent.sessionId.symm
  have hrevision := h.room.revision
  have hsequence := h.room.sequence
  have hmax : maxI64 < 10 ^ 19 := by decide
  have hstep : TaskStep row.snapshot session.nextSequence event (nextSnapshot row changed) := by
    refine ⟨hrunning, hvalid, ⟨changed, heffect, rfl⟩, ?_⟩
    have hmaxRevision : maxI64 ≤ maxRevision := by decide
    omega
  obtain ⟨hcontract, hlatest⟩ := isSmallEvent_frame heffect hsmall
  have hsize := hstep.size_le hsmall (by omega) (by omega)
  have hroom : (nextSnapshot row changed).toJson.size + eventBytes * n ≤ maxSnapshotJsonBytes := by
    have hbefore := h.room.snapshot
    rw [Nat.mul_succ] at hbefore
    omega
  have hcolumns : checkTaskColumns (nextSnapshot row changed) = .ok () := by
    have hfits := checkTaskColumns_eq_ok.mp (h.regular.fits taskId row h.found)
    refine checkTaskColumns_eq_ok.mpr ⟨?_, by omega⟩
    rw [show (nextSnapshot row changed).contract = row.snapshot.contract from hcontract]
    exact hfits.1
  -- The journal takes the event.
  have hfound : db.sessions.find? session.id = some session := by
    rw [hsession, h.coherent.sessionId]
    exact h.inSession
  have hfresh : db.events.find? (session.id, session.nextSequence) = none := by
    rw [hsession, h.coherent.sessionId]
    exact h.fresh
  have hserial : isSerializable (.taskLifecycle taskId event) = true := by
    have hcreated := heffect.not_created
    cases event <;> first | rfl | cases hcreated
  obtain ⟨mid, happend⟩ := appendEventInTransaction_accepts hfound (by omega)
    hserial hfresh
  obtain ⟨_, hsame, happended, -⟩ := appendEventInTransaction_appended happend
  have hmid : mid.children = db.children := by
    rw [happended.rest]
  have hmidTasks : mid.agentTasks = db.agentTasks := by
    rw [happended.rest]
  -- The rows that the new snapshot refers to are there.
  have htracks := (childTables_apply_write hchildren).tracks
    (h.regular.work.rows taskId row h.found)
  obtain ⟨added, hrows, -, -⟩ := (childTables_apply_write hchildren).checkpointRows row.sessionId
  have hnext : (nextSnapshot row changed).taskId = taskId := hstep.frame.1.trans hid
  obtain ⟨db', hupdate⟩ := @updateTaskProjection_accepts
    { mid with children } row (nextSnapshot row changed)
    (by rw [hnext, hmidTasks, h.found])
    (by rw [hstep.frame.2.2.2, h.coherent.revision, Nat.add_sub_cancel])
    (by rw [hstep.frame.2.2.2]; omega) hcolumns
    (by
      intro epochId hepoch
      rw [show (nextSnapshot row changed).activeEpoch = _ from heffect.activeEpoch_eq] at hepoch
      obtain ⟨found, hfound, -⟩ := htracks.epoch epochId hepoch
      simp [hfound])
    (by
      intro checkpointId hcheckpoint
      rw [show (nextSnapshot row changed).latestCheckpoint = _ from hlatest] at hcheckpoint
      have hold := h.regular.latestCheckpoint h.found hcheckpoint
      intro hnone
      apply hold
      rw [Table.find?_eq_none] at hnone ⊢
      intro stored hstored
      apply hnone stored
      rw [hrows]
      exact List.mem_append_left _ hstored)
  rw [hsession] at happend
  have hreduce : reduceTask (some row.snapshot) ⟨row.snapshot.sessionId,
      session.nextSequence, .taskLifecycle taskId event⟩ = .ok (nextSnapshot row changed) :=
    reduceTask_some_iff.mpr ⟨event, by rw [hid], rfl, hstep⟩
  rw [← hmid] at hchildren
  have hcall : appendTaskEventInTransaction db ⟨row.snapshot, row.revision⟩
      event = .ok (⟨nextSnapshot row changed,
        (nextSnapshot row changed).revision⟩, session.nextSequence, db') := by
    simp only [appendTaskEventInTransaction, hid, ok_iff, Prod.exists]
    exact ⟨_, mid, happend, _, hreduce, { mid with children },
      applyTaskChildProjection_eq_ok.mpr ⟨by omega, children, hchildren, rfl⟩, db', hupdate, rfl⟩
  obtain ⟨_, _, _, htask, hwritten, -, hafter, -⟩ :=
    appendTaskEventInTransaction_appends h.load hcall
  have hrow := htask.found
  rw [h.found] at hrow
  cases hrow
  have hwhere := htask.inSession
  rw [h.inSession] at hwhere
  cases hwhere
  cases hafter
  refine ⟨db', ⟨hcall, htask, hwritten⟩, ⟨htask.regular hwritten h.regular, ?_, ?_, ?_⟩⟩
  · rw [htask.tasks, if_pos rfl]
  · exact (htask.sessions row.sessionId).trans (if_pos rfl)
  · refine ⟨?_, ?_, hroom⟩
    · simp only
      omega
    · simp only [AgentTaskRow.withSnapshot, nextSnapshot]
      omega

theorem Accepts.call_eq {next : TaskSnapshot} {db' : Db}
    (h : Accepts db taskId row session event next db') :
    appendTaskEvent db taskId row.revision event = .ok (some (⟨next, next.revision⟩, db')) := by
  have hload : loadTaskRecord db taskId = .ok (some ⟨row.snapshot, row.revision⟩) :=
    loadTaskRecord_eq_some.mpr ⟨row, h.append.found, h.append.coherent, rfl⟩
  simp only [appendTaskEvent, bind_eq_ok]
  refine ⟨_, currentRecord_eq_some.mpr ⟨hload, rfl⟩, ?_⟩
  simp only [bind_eq_ok]
  exact ⟨_, h.call, rfl⟩

theorem Accepts.size_le {next : TaskSnapshot} {db' : Db}
    (h : Accepts db taskId row session event next db') (hsmall : isSmallEvent event = true) :
    next.toJson.size ≤ row.snapshot.toJson.size + eventBytes := by
  have hmax : maxI64 < 10 ^ 19 := by decide
  have hsequence := h.append.bound
  have hrevision := h.append.revision
  rw [h.append.step.frame.2.2.2] at hrevision
  exact h.append.step.size_le hsmall (by omega) (by omega)

/-! ## Events of an operation -/

section Operation

variable {operationId : OperationId} {operation : OperationSnapshot}

theorem TaskAt.record_eq_ok (h : TaskAt db taskId row session n)
    (hfind : row.snapshot.operations.find? operationId = some operation)
    (hstatus : operation.status = .started ∨ operation.status = .uncertain) :
    operation.evidence.record operation.status
        operation.lastTransitionSequence session.nextSequence =
      .ok { operation.evidence with
        recordedSequences := operation.evidence.recordedSequences.insert
          session.nextSequence () } := by
  obtain ⟨hlast, hrecorded, -⟩ := h.regular.operation h.found hfind
  refine OperationEvidenceState.record_eq_ok.mpr ⟨hstatus, h.past hlast, ?_, rfl⟩
  cases hcontains : operation.evidence.recordedSequences.contains
      session.nextSequence with
  | false => rfl
  | true =>
    have hlt := h.past (hrecorded _ hcontains)
    omega

theorem TaskAt.children_transition (h : TaskAt db taskId row session n)
    (hfind : row.snapshot.operations.find? operationId = some operation) (target : OperationStatus)
    (evidenceSequences : List Nat) : ∃ children, db.children.apply taskId session.nextSequence
      (.operationTransitioned operationId operation.status target
        evidenceSequences) = .ok children := by
  have htracks := h.regular.work.rows taskId row h.found
  obtain ⟨stored, hstored, htask, hstatus⟩ := htracks.operation operationId
    operation.status (by simp [TaskSnapshot.operationStatus, hfind])
  obtain ⟨operations, hupdate⟩ := @Table.exists_update _ _ _ _
    db.children.taskOperations operationId
    (fun row => decide (row.taskId = taskId ∧ row.status = operation.status))
    (fun row => { row with
      status := target, lastTransitionSequence := session.nextSequence,
      evidenceSequences }) (fun _ => rfl) stored hstored
    (by simp [htask, hstatus])
  have hintent := h.regular.work.recorded.operation stored (Table.mem_of_find? hstored)
  rw [htask] at hintent
  exact ⟨_, transitionOperation_eq_ok.mpr
    ⟨operations, stored, hupdate, hstored, (h.past hintent).le, rfl⟩⟩

theorem TaskAt.accepts_transition {target : OperationStatus}
    {evidenceSequences : List Nat} {evidence : OperationEvidenceState}
    (h : TaskAt db taskId row session (n + 1))
    (hrunning : row.snapshot.status.isTerminal = false)
    (hoperation : ActiveOperation row.snapshot operationId operation)
    (hcited : evidenceSequences.length ≤ 1)
    (hevidence : operation.evidence.transition operation.status operation.status target
      operation.lastTransitionSequence session.nextSequence evidenceSequences = .ok evidence) :
    ∃ db' next, Accepts db taskId row session
        (.operationTransitioned operationId operation.status target evidenceSequences) next db' ∧
      next = nextSnapshot row (row.snapshot.setOperation operationId
        { operation with
          status := target, lastTransitionSequence := session.nextSequence, evidence }) ∧
      TaskAt db' taskId (row.withSnapshot next)
        ⟨row.sessionId, session.nextSequence + 1⟩ n := by
  obtain ⟨children, hchildren⟩ := h.children_transition hoperation.1 target evidenceSequences
  obtain ⟨-, -, hlist, -⟩ := OperationEvidenceState.transition_eq_ok.mp hevidence
  have hvalid : (TaskEvent.operationTransitioned operationId operation.status
      target evidenceSequences).validate = .ok () := by
    simp only [TaskEvent.validate, validateEvidenceSequences, ok_iff, not_not]
    refine ⟨?_, hlist⟩
    unfold maxTaskEventEvidenceSequences
    omega
  obtain ⟨db', haccepts, hafter⟩ := h.accepts hrunning hvalid (by simpa [isSmallEvent] using hcited)
    (.operationTransitioned hoperation hevidence) hchildren
  exact ⟨db', _, haccepts, rfl, hafter⟩

end Operation

end

def settledOperation (operation : OperationSnapshot) (sequence : Nat)
    (target : OperationStatus) : OperationSnapshot :=
  { operation with
    status := target
    lastTransitionSequence := sequence + 1
    evidence := { recordedSequences := operation.evidence.recordedSequences.insert sequence (),
                  consumedSequences := operation.evidence.consumedSequences ++ [sequence] } }

def settledSnapshot (state : TaskSnapshot) (operationId : OperationId)
    (operation : OperationSnapshot) (sequence : Nat) (target : OperationStatus) : TaskSnapshot :=
  { state with
    operations := state.operations.insert operationId (settledOperation operation sequence target)
    revision := state.revision + 2 }

structure Settles (db : Db) (taskId : TaskId) (row : AgentTaskRow)
    (session : SessionRow) (operationId : OperationId)
    (operation : OperationSnapshot) (resultDigest : String)
    (target : OperationStatus) (mid : Db) (next : TaskSnapshot) (db' : Db) :
    Prop where
  first : Accepts db taskId row session
    (.operationEvidenceRecorded operationId resultDigest) next mid
  second : Accepts mid taskId (row.withSnapshot next)
    ⟨row.sessionId, session.nextSequence + 1⟩
    (.operationTransitioned operationId operation.status target [session.nextSequence])
    (settledSnapshot row.snapshot operationId operation session.nextSequence target) db'

section

variable {db : Db} {taskId : TaskId} {row : AgentTaskRow}
  {session : SessionRow} {n : Nat} {operationId : OperationId}
  {operation : OperationSnapshot} {resultDigest : String}
  {target : OperationStatus}

theorem TaskAt.settles (h : TaskAt db taskId row session (n + 2))
    (hrunning : row.snapshot.status.isTerminal = false)
    (hoperation : ActiveOperation row.snapshot operationId operation)
    (hstatus : operation.status = .started ∨ operation.status = .uncertain)
    (hedge : legalOperationEdge operation.status target = true)
    (hterminal : target.requiresTerminalEvidence = true)
    (hdigest : validateEventIdentifier resultDigest = .ok ()) :
    ∃ mid next db', Settles db taskId row session operationId operation
        resultDigest target mid next db' ∧
      TaskAt db' taskId (row.withSnapshot (settledSnapshot row.snapshot
          operationId operation session.nextSequence target))
        ⟨row.sessionId, session.nextSequence + 2⟩ n := by
  have hvalid : (TaskEvent.operationEvidenceRecorded operationId
      resultDigest).validate = .ok () := hdigest
  obtain ⟨mid, hfirst, hmid⟩ := h.accepts hrunning hvalid rfl
    (.operationEvidenceRecorded hoperation (h.record_eq_ok hoperation.1 hstatus))
    (childTables_apply_childless rfl)
  obtain ⟨hlast, -, hconsumed⟩ := h.regular.operation h.found hoperation.1
  have hlastPast := h.past hlast
  have hpositive := (h.regular.consistent.ordered.counter _ _ h.inSession).1
  have hunused : session.nextSequence ∉ operation.evidence.consumedSequences := by
    intro hmem
    have hlt := h.past (hconsumed _ hmem)
    omega
  have htransition : OperationEvidenceState.transition
      { operation.evidence with
        recordedSequences := operation.evidence.recordedSequences.insert
          session.nextSequence () } operation.status operation.status target
      operation.lastTransitionSequence (session.nextSequence + 1)
      [session.nextSequence] =
      .ok (settledOperation operation session.nextSequence target).evidence := by
    refine OperationEvidenceState.transition_eq_ok.mpr
      ⟨rfl, hedge, ?_, ?_, .inr ⟨hterminal, by simp, ?_, rfl⟩⟩
    · simp [isEvidenceList, Text.neighbours]
      omega
    · simp
    · simp only [List.mem_singleton, forall_eq]
      exact ⟨hlastPast, (OrderedMap.contains_insert _ _ _ _).mpr (.inl rfl), hunused⟩
  -- The operation with the new evidence, in the snapshot after it.
  obtain ⟨db', settled, hsecond, hsettled, hafter⟩ := hmid.accepts_transition hrunning
      ⟨OrderedMap.find?_insert_self _ _ _, hoperation.2⟩ (by simp) htransition
  have hsame : settled = settledSnapshot row.snapshot operationId operation
      session.nextSequence target := by
    rw [hsettled]
    simp [nextSnapshot, settledSnapshot, TaskSnapshot.setOperation,
      settledOperation, AgentTaskRow.withSnapshot, OrderedMap.insert_insert]
  rw [hsame] at hsecond hafter
  exact ⟨mid, _, db', ⟨hfirst, hsecond⟩, hafter⟩

/-! What the two events leave alone. -/

variable {mid db' : Db} {next : TaskSnapshot}
  (h : Settles db taskId row session operationId operation resultDigest target mid next db')
include h

theorem Settles.tasks (id : TaskId) : db'.agentTasks.find? id =
      if id = taskId then some (row.withSnapshot (settledSnapshot row.snapshot
        operationId operation session.nextSequence target))
      else db.agentTasks.find? id := by
  rw [h.second.append.tasks, h.first.append.tasks]
  split <;> rfl

theorem Settles.sessions (id : SessionId) : db'.sessions.find? id =
      if id = row.sessionId then some ⟨id, session.nextSequence + 2⟩
      else db.sessions.find? id := by
  rw [h.second.append.sessions, h.first.append.sessions]
  simp only [AgentTaskRow.withSnapshot]
  split <;> rfl

theorem Settles.journal (id : TaskId) : db'.journal id = if id = taskId then db.journal taskId ++
        [⟨row.sessionId, session.nextSequence, .taskLifecycle taskId
            (.operationEvidenceRecorded operationId resultDigest)⟩,
          ⟨row.sessionId, session.nextSequence + 1, .taskLifecycle taskId
            (.operationTransitioned operationId operation.status target [session.nextSequence])⟩]
      else db.journal id := by
  rw [h.second.append.journal, h.first.append.journal]
  split
  · rw [if_pos rfl, List.append_assoc]
    rfl
  · rw [h.first.append.journal]
    split <;> simp_all

theorem Settles.children : ∃ operations, db.children.taskOperations.update operationId
        (fun row => decide (row.taskId = taskId ∧ row.status = operation.status))
        (fun row => { row with
          status := target, lastTransitionSequence := session.nextSequence + 1,
          evidenceSequences := [session.nextSequence] }) (fun _ => rfl) =
          some operations ∧
      db'.children = { db.children with taskOperations := operations } := by
  have hmid : db.children = mid.children := by
    have hchildren := h.first.children
    rw [childTables_apply_childless rfl] at hchildren
    exact Except.ok.inj hchildren
  obtain ⟨operations, _, hupdate, -, -, hchildren⟩ := transitionOperation_eq_ok.mp h.second.children
  rw [← hmid] at hupdate hchildren
  exact ⟨operations, hupdate, hchildren⟩

theorem Settles.size_le : (settledSnapshot row.snapshot operationId operation session.nextSequence
      target).toJson.size ≤ row.snapshot.toJson.size + eventBytes * 2 := by
  have hfirst := h.first.size_le rfl
  have hsecond := h.second.size_le (by simp [isSmallEvent])
  simp only [AgentTaskRow.withSnapshot] at hsecond
  omega

end

end CarlAgent.Storage
