import CarlAgent.Storage.CheckpointRows
import CarlAgent.Task.EvidenceUse

/-!
# The rows of epochs and operations follow the snapshots

The active epoch of a task has an active row, every operation of a snapshot
has a row with its status, and no row is newer than the journal.  The store
updates these rows under exactly these conditions.
-/

namespace CarlAgent.Task

open Foundation TaskSnapshot

def epochAfter (event : TaskEvent) (current : Option EpochId) : Option EpochId :=
  match event with
  | .epochStarted epochId _ => some epochId
  | .epochFinished _ _ => none
  | .epochInterrupted _ _ => none
  | _ => current

def statusAfter (event : TaskEvent) (current : OperationId → Option OperationStatus) :
    OperationId → Option OperationStatus :=
  match event with
  | .operationIntentRecorded operationId _ _ _ _ =>
    Function.update current operationId (some .intentRecorded)
  | .operationTransitioned operationId _ target _ =>
    Function.update current operationId (some target)
  | _ => current

theorem TaskSnapshot.operationStatus_setOperation (state : TaskSnapshot) (operationId : OperationId)
    (operation : OperationSnapshot) : (state.setOperation operationId operation).operationStatus =
      Function.update state.operationStatus operationId (some operation.status) :=
  OrderedMap.map_find?_insert _ _ _ _

theorem TaskSnapshot.operationStatus_of_same_status {state : TaskSnapshot}
    {operationId : OperationId} {operation later : OperationSnapshot}
    (hfind : state.operations.find? operationId = some operation)
    (hstatus : later.status = operation.status) :
    (state.setOperation operationId later).operationStatus = state.operationStatus := by
  rw [operationStatus_setOperation, hstatus]
  apply Function.update_eq_self_iff.mpr
  simp [operationStatus, hfind]

variable {state next : TaskSnapshot} {event : TaskEvent} {sequence : Nat}

theorem Effect.activeEpoch_eq (h : Effect state sequence event next) :
    next.activeEpoch = epochAfter event state.activeEpoch := by
  cases h with
  | @epochClosed event _ hevent _ _ | @recordOnly event hevent | @observed event _ hevent _ =>
    cases event <;> first | rfl | cases hevent
  | _ => rfl

theorem Effect.operationStatus_eq (h : Effect state sequence event next) :
    next.operationStatus = statusAfter event state.operationStatus := by
  cases h with
  | @epochClosed event _ hevent _ _ | @recordOnly event hevent | @observed event _ hevent _ =>
    cases event <;> first | rfl | cases hevent
  | operationIntentRecorded _ _ | operationTransitioned _ _ =>
    exact operationStatus_setOperation _ _ _
  | operationPostconditionBound hoperation _ _ | operationFilePostconditionBound hoperation _ _
  | operationEvidenceRecorded hoperation _ =>
    exact operationStatus_of_same_status hoperation.1 rfl
  | _ => rfl

end CarlAgent.Task

namespace CarlAgent.Storage

open Foundation CarlAgent.Task Table List

variable {sha256 : Sha256}
variable {db' : Db} {happened later : TaskId → Nat → Prop}

/-- The rows of a task with this active epoch and these operations. -/
structure ChildTables.Tracks (children : ChildTables) (taskId : TaskId)
    (activeEpoch : Option EpochId)
    (status : OperationId → Option OperationStatus) : Prop where
  epoch : ∀ epochId, activeEpoch = some epochId →
    ∃ row, children.taskEpochs.find? epochId = some row ∧ row.taskId = taskId ∧ row.status = .active
  operation : ∀ operationId current, status operationId = some current →
    ∃ row, children.taskOperations.find? operationId = some row ∧
      row.taskId = taskId ∧ row.status = current

section Write

variable {children children' : ChildTables} {taskId other : TaskId}
  {sequence : Nat} {event : TaskEvent} {activeEpoch : Option EpochId}
  {status : OperationId → Option OperationStatus}

theorem ChildTables.Tracks.of_same (h : children.Tracks taskId activeEpoch status)
    (hepochs : children'.taskEpochs = children.taskEpochs)
    (hoperations : children'.taskOperations = children.taskOperations) :
    children'.Tracks taskId activeEpoch status := by
  refine ⟨?_, ?_⟩
  · rw [hepochs]
    exact h.epoch
  · rw [hoperations]
    exact h.operation

theorem ChildWrite.tracks (hwrite : ChildWrite children taskId sequence event children')
    (h : children.Tracks taskId activeEpoch status) :
    children'.Tracks taskId (epochAfter event activeEpoch) (statusAfter event status) := by
  cases hwrite with
  | childless hchildless =>
    cases event <;> first | exact h | cases hchildless
  | @epochStarted epochId objective taskEpochs hinsert =>
    refine ⟨?_, h.operation⟩
    rintro _ ⟨⟩
    exact ⟨_, by rw [find?_insert hinsert, if_pos rfl], rfl, rfl⟩
  | @epochClosed _ epochId _ _ _ closed _ hevent hclose hrest =>
    have hoperations : children'.taskOperations = children.taskOperations := by
      rw [hrest, closeEpoch_rest hclose]
    have hnone : epochAfter event activeEpoch = none := by
      cases event <;> first | rfl | cases hevent
    have hstatus : statusAfter event status = status := by
      cases event <;> first | rfl | cases hevent
    rw [hnone, hstatus]
    refine ⟨?_, ?_⟩
    · intro _ habsurd
      cases habsurd
    · rw [hoperations]
      exact h.operation
  | @operationIntentRecorded operationId _ _ _ _ _ hinsert =>
    refine ⟨h.epoch, ?_⟩
    intro id current hcurrent
    by_cases hid : id = operationId
    · subst hid
      rw [statusAfter, Function.update_self] at hcurrent
      cases hcurrent
      exact ⟨_, by rw [find?_insert hinsert, if_pos rfl], rfl, rfl⟩
    · rw [statusAfter, Function.update_of_ne hid] at hcurrent
      obtain ⟨row, hrow, hrest⟩ := h.operation id current hcurrent
      exact ⟨row, by rw [find?_insert hinsert, if_neg hid, hrow], hrest⟩
  | @operationTransitioned operationId _ _ _ _ hupdate =>
    refine ⟨h.epoch, ?_⟩
    intro id current hcurrent
    obtain ⟨⟨moved, hmoved, hguard⟩, -⟩ := update_eq_some.mp hupdate
    simp only [decide_eq_true_eq] at hguard
    by_cases hid : id = operationId
    · subst hid
      rw [statusAfter, Function.update_self] at hcurrent
      cases hcurrent
      have hfind := find?_update hupdate id
      rw [if_pos rfl, hmoved, Option.map_some] at hfind
      exact ⟨_, hfind, hguard.1, rfl⟩
    · rw [statusAfter, Function.update_of_ne hid] at hcurrent
      obtain ⟨row, hrow, hrest⟩ := h.operation id current hcurrent
      exact ⟨row, by rw [find?_update hupdate, if_neg hid, hrow], hrest⟩
  | configurationQueued _ _ hrest | configurationApplied _ _ _ _ _ _ hrest =>
    exact h.of_same (by rw [hrest]) (by rw [hrest])
  | steeringQueued hrest => exact h.of_same (by rw [hrest]) (by rw [hrest])
  | _ => exact h.of_same rfl rfl

theorem ChildWrite.tracks_other (hwrite : ChildWrite children taskId sequence event children')
    (hother : other ≠ taskId) (h : children.Tracks other activeEpoch status) :
    children'.Tracks other activeEpoch status := by
  cases hwrite with
  | epochStarted hinsert =>
    refine ⟨?_, h.operation⟩
    intro epochId hepoch
    obtain ⟨row, hrow, hrest⟩ := h.epoch epochId hepoch
    exact ⟨row, find?_insert_of_some hinsert hrow, hrest⟩
  | @epochClosed _ epochId _ _ _ closed _ hevent hclose hrest =>
    obtain ⟨taskEpochs, _, hupdate, -, -, rfl⟩ := closeEpoch_eq_ok.mp hclose
    rw [hrest]
    refine ⟨?_, h.operation⟩
    intro id hepoch
    obtain ⟨row, hrow, rfl, hstatus⟩ := h.epoch id hepoch
    exact ⟨row, find?_update_of_not_guard hupdate hrow (by simp [hother]), rfl, hstatus⟩
  | operationIntentRecorded hinsert =>
    refine ⟨h.epoch, ?_⟩
    intro id current hcurrent
    obtain ⟨row, hrow, hrest⟩ := h.operation id current hcurrent
    exact ⟨row, find?_insert_of_some hinsert hrow, hrest⟩
  | @operationTransitioned operationId _ _ _ _ hupdate =>
    refine ⟨h.epoch, ?_⟩
    intro id current hcurrent
    obtain ⟨row, hrow, rfl, hstatus⟩ := h.operation id current hcurrent
    exact ⟨row, find?_update_of_not_guard hupdate hrow (by simp [hother]), rfl, hstatus⟩
  | configurationQueued _ _ hrest | configurationApplied _ _ _ _ _ _ hrest =>
    exact h.of_same (by rw [hrest]) (by rw [hrest])
  | steeringQueued hrest => exact h.of_same (by rw [hrest]) (by rw [hrest])
  | _ => exact h.of_same rfl rfl

/-! ## Sequences of the rows -/

/-- Every epoch row was started by an event of its task, and every operation
row has its intent there. -/
structure ChildTables.Recorded (children : ChildTables)
    (happened : TaskId → Nat → Prop) : Prop where
  epoch : ∀ row ∈ children.taskEpochs.rows, happened row.taskId row.startedSequence
  operation : ∀ row ∈ children.taskOperations.rows, happened row.taskId row.intentSequence

theorem ChildTables.Recorded.of_same (h : children.Recorded happened)
    (hlater : ∀ id n, happened id n → later id n)
    (hepochs : children'.taskEpochs = children.taskEpochs)
    (hoperations : children'.taskOperations = children.taskOperations) :
    children'.Recorded later := by
  refine ⟨?_, ?_⟩
  · rw [hepochs]
    exact fun row hrow => hlater _ _ (h.epoch row hrow)
  · rw [hoperations]
    exact fun row hrow => hlater _ _ (h.operation row hrow)

theorem ChildWrite.recorded (hwrite : ChildWrite children taskId sequence event children')
    (h : children.Recorded happened) (hlater : ∀ id n, happened id n → later id n)
    (hnow : later taskId sequence) : children'.Recorded later := by
  have hkept : children.Recorded later := h.of_same hlater rfl rfl
  cases hwrite with
  | epochStarted hinsert =>
    exact ⟨(forall_insert hinsert).mpr ⟨hkept.epoch, hnow⟩, hkept.operation⟩
  | epochClosed hevent hclose hrest =>
    obtain ⟨taskEpochs, _, hupdate, -, -, rfl⟩ := closeEpoch_eq_ok.mp hclose
    rw [hrest]
    exact ⟨forall_update hupdate hkept.epoch fun _ => id, hkept.operation⟩
  | operationIntentRecorded hinsert =>
    exact ⟨hkept.epoch, (forall_insert hinsert).mpr ⟨hkept.operation, hnow⟩⟩
  | operationTransitioned hupdate =>
    exact ⟨hkept.epoch, forall_update hupdate hkept.operation fun _ => id⟩
  | configurationQueued _ _ hrest | configurationApplied _ _ _ _ _ _ hrest | steeringQueued hrest =>
    exact hkept.of_same (fun _ _ => id) (by rw [hrest]) (by rw [hrest])
  | _ => exact hkept.of_same (fun _ _ => id) rfl rfl

section

variable (hchange : ChildrenChange children taskId sequence event children')
include hchange

theorem ChildrenChange.tracks (h : children.Tracks taskId activeEpoch status) :
    children'.Tracks taskId (epochAfter event activeEpoch) (statusAfter event status) := by
  cases hchange with
  | event happly => exact (childTables_apply_write happly).tracks h
  | canonical input htask hevent hinsert =>
    obtain ⟨_, _, -, -, rfl⟩ := insertCanonical_writes hinsert
    subst hevent
    exact h.of_same rfl rfl

theorem ChildrenChange.tracks_other (hother : other ≠ taskId)
    (h : children.Tracks other activeEpoch status) : children'.Tracks other activeEpoch status := by
  cases hchange with
  | event happly => exact (childTables_apply_write happly).tracks_other hother h
  | canonical input htask hevent hinsert =>
    obtain ⟨_, _, -, -, rfl⟩ := insertCanonical_writes hinsert
    exact h.of_same rfl rfl

theorem ChildrenChange.recorded (h : children.Recorded happened)
    (hlater : ∀ id n, happened id n → later id n) (hnow : later taskId sequence) :
    children'.Recorded later := by
  cases hchange with
  | event happly =>
    exact (childTables_apply_write happly).recorded h hlater hnow
  | canonical input htask hevent hinsert =>
    obtain ⟨_, _, -, -, rfl⟩ := insertCanonical_writes hinsert
    exact h.of_same hlater rfl rfl

end

end Write

def Db.Happened (db : Db) (taskId : TaskId) (sequence : Nat) : Prop :=
  ∃ envelope ∈ db.journal taskId, envelope.sequence = sequence

variable {db : Db} {taskId : TaskId}

theorem Db.Happened.extend {sequence : Nat} (h : db.Happened taskId sequence)
    (hextends : Extends db db') : db'.Happened taskId sequence := by
  obtain ⟨envelope, henvelope, hsequence⟩ := h
  obtain ⟨more, hmore⟩ := hextends.journal taskId
  refine ⟨envelope, ?_, hsequence⟩
  rw [hmore]
  exact mem_append_left _ henvelope

structure Db.WorkTracked (db : Db) : Prop where
  rows : ∀ taskId row, db.agentTasks.find? taskId = some row →
    db.children.Tracks taskId row.snapshot.activeEpoch row.snapshot.operationStatus
  recorded : db.children.Recorded db.Happened

theorem Db.workTracked_empty : Db.empty.WorkTracked where
  rows := by
    intro taskId row hrow
    cases hrow
  recorded := by
    refine ⟨?_, ?_⟩ <;>
    · intro row hrow
      cases hrow

theorem StepKind.workTracked (hdb : db.WorkTracked) (h : StepKind db db') : db'.WorkTracked := by
  have hlater : ∀ id n, db.Happened id n → db'.Happened id n :=
    fun id n hpast => hpast.extend h.extends
  cases h with
  | idle h =>
    refine ⟨?_, hdb.recorded.of_same hlater (by rw [h.children]) (by rw [h.children])⟩
    intro taskId row hrow
    rw [h.tasks] at hrow
    exact (hdb.rows taskId row hrow).of_same (by rw [h.children]) (by rw [h.children])
  | @created input workspace session h =>
    refine ⟨?_, hdb.recorded.of_same hlater (by rw [h.children]) (by rw [h.children])⟩
    intro taskId row hrow
    rw [h.tasks] at hrow
    split at hrow
    · cases hrow
      refine ⟨?_, ?_⟩
      · intro epochId hepoch
        cases hepoch
      · intro operationId current hcurrent
        cases hcurrent
    · exact (hdb.rows taskId row hrow).of_same (by rw [h.children]) (by rw [h.children])
  | @append taskId event row session next h hchildren =>
    refine ⟨?_, ?_⟩
    · intro id found hfound
      rw [h.tasks] at hfound
      split at hfound
      · rename_i hid
        subst hid
        cases hfound
        obtain ⟨changed, heffect, rfl⟩ := h.step.effect
        have hnew := hchildren.tracks (hdb.rows id row h.found)
        rw [← heffect.activeEpoch_eq, ← heffect.operationStatus_eq] at hnew
        exact hnew
      · rename_i hid
        exact hchildren.tracks_other hid (hdb.rows id found hfound)
    · apply hchildren.recorded hdb.recorded hlater
      refine ⟨⟨row.sessionId, session.nextSequence, .taskLifecycle taskId event⟩, ?_, rfl⟩
      rw [h.journal, if_pos rfl]
      exact mem_append_right _ (mem_singleton_self _)

/-! ## Columns within their limits -/

def Db.Fits (db : Db) : Prop :=
  ∀ taskId row, db.agentTasks.find? taskId = some row → checkTaskColumns row.snapshot = .ok ()

theorem StepKind.fits (hdb : db.Fits) (h : StepKind db db') : db'.Fits := by
  intro taskId row hrow
  cases h with
  | idle h =>
    rw [h.tasks] at hrow
    exact hdb taskId row hrow
  | created h | append h hchildren =>
    rw [h.tasks] at hrow
    split at hrow
    · cases hrow
      exact h.columns
    · exact hdb taskId row hrow

structure Db.Regular (db : Db) : Prop where
  consistent : db.Consistent
  work : db.WorkTracked
  fits : db.Fits
  checkpoints : db.CheckpointsRecorded

theorem Db.regular_empty : Db.empty.Regular where
  consistent := Db.consistent_empty
  work := Db.workTracked_empty
  fits := by
    intro taskId row hrow
    cases hrow
  checkpoints := Db.checkpointsRecorded_empty

theorem DbStep.regular {action : Action} (hdb : db.Regular)
    (h : DbStep sha256 db action db') : db'.Regular where
  consistent := h.consistent hdb.consistent
  work := h.kind.workTracked hdb.work
  fits := h.kind.fits hdb.fits
  checkpoints := h.kind.recorded hdb.checkpoints

theorem TaskAppend.regular {event : TaskEvent} {row : AgentTaskRow} {session : SessionRow}
    {next : TaskSnapshot} (h : TaskAppend db taskId event row session next db')
    (hchildren : db.children.apply taskId session.nextSequence event = .ok db'.children)
    (hdb : db.Regular) : db'.Regular := by
  have hkind : StepKind db db' := .append h (.event hchildren)
  have hordered := hdb.consistent.ordered.append h.inSession h.bound h.sessions h.events
  exact ⟨⟨hordered, hkind.replayed hdb.consistent.replayed⟩, hkind.workTracked hdb.work, hkind.fits
    hdb.fits, hkind.recorded hdb.checkpoints⟩

theorem World.run_regular (calls : List Call) : (World.run sha256 calls).db.Regular :=
  World.run_db_invariant Db.regular_empty (fun _ _ _ hdb hstep => hstep.regular hdb) calls

/-- The events of a session are numbered in their order, and the epoch and operation
rows follow the snapshots. -/
theorem store_in_order (sha256 : Sha256) (calls : List Call) :
    (World.run sha256 calls).db.Ordered ∧ (World.run sha256 calls).db.WorkTracked :=
  have hdb := World.run_regular calls
  ⟨hdb.consistent.ordered, hdb.work⟩

/-- Invariants that need a condition on the events of the callers. -/
theorem World.run_event_invariant {guard : Db → TaskId → TaskEvent → Prop}
    {P : Db → Prop} (hempty : P .empty)
    (hstore : ∀ db taskId event, isStoreEvent event = true → guard db taskId event)
    (hidle : ∀ db db', P db → Idle db db' → P db')
    (hcreated : ∀ db input workspace session db', P db →
      TaskCreate db input workspace session db' → P db')
    (happend : ∀ db taskId event row session next db', db.Regular → P db →
      guard db taskId event → TaskAppend db taskId event row session next db' →
      ChildrenChange db.children taskId session.nextSequence event db'.children → P db')
    {calls : List Call}
    (hmeet : World.initial.CallsMeet sha256 (fun world call => call.EventMeets guard world) calls) :
    P (World.run sha256 calls).db := by
  refine (World.run_step_invariant (P := fun db => db.Regular ∧ P db)
    ⟨Db.regular_empty, hempty⟩ ?_ hmeet).2
  rintro world call db action db' hguard hpermits - - - ⟨hdb, hP⟩ hstep
  refine ⟨hstep.regular hdb, ?_⟩
  rcases hstep.task_cases with hsame | ⟨_, _, _, hcreate⟩ |
    ⟨taskId, event, _, _, _, htask, hchildren, hevent⟩
  · exact hidle db db' hP hsame
  · exact hcreated _ _ _ _ _ hP hcreate
  · refine happend _ _ _ _ _ _ _ hdb hP ?_ htask hchildren
    rcases hevent with rfl | hevent
    · rcases hpermits with ⟨h, expectedRevision, rfl, rfl⟩ | hroutine
      · exact hguard _ rfl
      · refine hstore db taskId event ?_
        cases event <;> first | exact hroutine | rfl
    · exact hstore db taskId event hevent

section Regular

variable {db : Db} {taskId : TaskId} {row : AgentTaskRow}

theorem Db.Regular.session (hdb : db.Regular) (hrow : db.agentTasks.find? taskId = some row) :
    ∃ session, db.sessions.find? row.sessionId = some session ∧
      ∀ sequence, db.Happened taskId sequence → sequence < session.nextSequence := by
  have hreplayed := hdb.consistent.replayed.rows taskId row hrow
  obtain ⟨first, hfirst⟩ := exists_mem_of_ne_nil _ (reduced_ne_nil hreplayed.fold)
  obtain ⟨session, hsession, -, -⟩ :=
    hdb.consistent.ordered.numbered first (mem_filter.mp hfirst).1
  rw [hreplayed.inSession first hfirst] at hsession
  refine ⟨session, hsession, ?_⟩
  rintro sequence ⟨envelope, henvelope, rfl⟩
  obtain ⟨found, hfound, -, hlt⟩ := hdb.consistent.ordered.numbered envelope
    (mem_filter.mp henvelope).1
  rw [hreplayed.inSession envelope henvelope, hsession] at hfound
  cases hfound
  exact hlt

theorem Db.Regular.latestCheckpoint (hdb : db.Regular)
    (hrow : db.agentTasks.find? taskId = some row) {checkpointId : CheckpointId}
    (hlatest : row.snapshot.latestCheckpoint = some checkpointId) :
    db.children.taskCheckpoints.find? checkpointId ≠ none := by
  have hreplayed := hdb.consistent.replayed.rows taskId row hrow
  rw [latestCheckpoint_of_reduced hreplayed.fold, ← hdb.checkpoints taskId,
    getLast?_map, Option.map_map, Option.map_eq_some_iff] at hlatest
  obtain ⟨stored, hstored, rfl⟩ := hlatest
  have hmem := mem_of_getLast? hstored
  have hfind := find?_of_mem (mem_filter.mp hmem).1
  intro hnone
  have hid : db.children.taskCheckpoints.find? stored.id = none := hnone
  rw [hfind] at hid
  cases hid

theorem Db.Regular.operation (hdb : db.Regular) (hrow : db.agentTasks.find? taskId = some row)
    {operationId : OperationId} {operation : OperationSnapshot}
    (hfind : row.snapshot.operations.find? operationId = some operation) :
    db.Happened taskId operation.lastTransitionSequence ∧
      (∀ sequence, operation.evidence.recordedSequences.contains sequence = true →
          db.Happened taskId sequence) ∧
      ∀ sequence ∈ operation.evidence.consumedSequences,
        db.Happened taskId sequence := by
  have hreplayed := hdb.consistent.replayed.rows taskId row hrow
  have hevidenced := reduced_evidenced
    (hdb.consistent.journal_increasing taskId) hreplayed.fold operationId
    operation.cell (by simp [TaskSnapshot.ledger, hfind])
  have hrecorded : ∀ sequence, operation.evidence.recordedSequences.contains sequence = true →
        db.Happened taskId sequence := by
    intro sequence hsequence
    obtain ⟨envelope, henvelope, hsame, -⟩ := hevidenced.recorded sequence hsequence
    exact ⟨envelope, henvelope, hsame⟩
  refine ⟨hevidenced.happened, hrecorded, ?_⟩
  intro sequence hsequence
  exact hrecorded sequence (hevidenced.consumed sequence hsequence).1

end Regular

end CarlAgent.Storage
