import CarlAgent.Storage.Anchor

/-!
# Checkpoint rows are checkpoint events

The checkpoint rows of a task, in the order of their insertion, are the
checkpoint events of its journal.  A row with a canonical payload describes the
events before its own event.
-/

namespace CarlAgent.Storage

open Foundation CarlAgent.Task List

variable {sha256 : Sha256}
variable {db db' : Db} {sequence : Nat}

structure CheckpointMark where
  id : CheckpointId
  digest : String
  sequence : Nat
  deriving DecidableEq

def TaskCheckpointRow.mark (row : TaskCheckpointRow) : CheckpointMark :=
  ⟨row.id, row.digest, row.eventSequence⟩

def checkpointMark (envelope : EventEnvelope) : Option CheckpointMark :=
  match envelope.event with
  | .taskLifecycle _ (.checkpointCommitted id digest) =>
    some ⟨id, digest, envelope.sequence⟩
  | _ => none

def checkpointMarks (journal : List EventEnvelope) : List CheckpointMark :=
  journal.filterMap checkpointMark

theorem checkpointMarks_concat (journal : List EventEnvelope) (envelope : EventEnvelope) :
    checkpointMarks (journal ++ [envelope]) =
      checkpointMarks journal ++ (checkpointMark envelope).toList := by
  unfold checkpointMarks
  rw [filterMap_append]
  cases h : checkpointMark envelope with
  | none => simp [h]
  | some mark => simp [h]

theorem checkpointMark_sequence {envelope : EventEnvelope} {mark : CheckpointMark}
    (h : checkpointMark envelope = some mark) : mark.sequence = envelope.sequence := by
  unfold checkpointMark at h
  split at h
  · cases h
    rfl
  · cases h

variable {children children' : ChildTables} {taskId : TaskId} {journal : List EventEnvelope}
  {snapshot : TaskSnapshot} {input : NewCheckpoint} {action : Action}

theorem checkpointMarks_increasing (h : journal.Pairwise fun a b => a.sequence < b.sequence) :
    (checkpointMarks journal).Pairwise fun a b => a.sequence < b.sequence := by
  refine pairwise_filterMap.mpr (h.imp ?_)
  intro a b hab mark hmark mark' hmark'
  rw [checkpointMark_sequence hmark, checkpointMark_sequence hmark']
  exact hab

variable {event : TaskEvent}

theorem Effect.latestCheckpoint {state next : TaskSnapshot} (h : Effect state sequence event next)
    (sessionId : SessionId) (taskId : TaskId) :
    next.latestCheckpoint = ((checkpointMark ⟨sessionId, sequence, .taskLifecycle taskId event⟩).map
        (·.id)).or state.latestCheckpoint := by
  cases h with
  | @epochClosed event _ hevent _ _ | @recordOnly event hevent | @observed event _ hevent _ =>
    cases event <;> first | rfl | cases hevent
  | _ => rfl

theorem latestCheckpoint_of_reduced (h : reduceJournal journal = .ok (some snapshot)) :
    snapshot.latestCheckpoint = (checkpointMarks journal).getLast?.map (·.id) := by
  induction h using reduceJournal_induction with
  | create envelope snapshot h =>
    obtain ⟨_, _, _, _, _, _, _, hevent, -, rfl⟩ := reduceTask_none_iff.mp h
    simp [checkpointMarks, checkpointMark, hevent, TaskSnapshot.created]
  | step events state envelope next _ ih h =>
    obtain ⟨sessionId, sequence, _⟩ := envelope
    obtain ⟨event, rfl, -, hstep⟩ := reduceTask_some_iff.mp h
    obtain ⟨changed, heffect, rfl⟩ := hstep.effect
    rw [checkpointMarks_concat]
    have hlatest := Effect.latestCheckpoint heffect sessionId state.taskId
    cases hmark : checkpointMark
        ⟨sessionId, sequence, .taskLifecycle state.taskId event⟩ with
    | none => simpa [hmark, ih] using hlatest
    | some mark => simpa [hmark] using hlatest

theorem ChildWrite.checkpointRows
    (h : ChildWrite children taskId sequence event children') (sessionId : SessionId) :
    ∃ added, children'.taskCheckpoints.rows = children.taskCheckpoints.rows ++ added ∧
      (∀ row ∈ added, row.taskId = taskId ∧ row.checkpoint = none) ∧
      added.map TaskCheckpointRow.mark = (checkpointMark
        ⟨sessionId, sequence, .taskLifecycle taskId event⟩).toList := by
  have hnone : children'.taskCheckpoints = children.taskCheckpoints →
      checkpointMark ⟨sessionId, sequence, .taskLifecycle taskId event⟩ = none →
      ∃ added, children'.taskCheckpoints.rows = children.taskCheckpoints.rows ++ added ∧
        (∀ row ∈ added, row.taskId = taskId ∧ row.checkpoint = none) ∧
        added.map TaskCheckpointRow.mark = (checkpointMark
          ⟨sessionId, sequence, .taskLifecycle taskId event⟩).toList := by
    intro hsame hmark
    exact ⟨[], by rw [hsame, append_nil], by simp, by rw [hmark]; rfl⟩
  cases h with
  | checkpointCommitted hinsert =>
    exact ⟨_, (Table.insert_eq_some.mp hinsert).2, by simp, rfl⟩
  | childless hchildless =>
    refine hnone rfl ?_
    cases event <;> first | rfl | cases hchildless
  | epochClosed hevent hclose hrest =>
    refine hnone ?_ ?_
    · rw [hrest, closeEpoch_rest hclose]
    · cases event <;> first | rfl | cases hevent
  | configurationQueued _ _ hrest | configurationApplied _ _ _ _ _ _ hrest | steeringQueued hrest =>
    exact hnone (by rw [hrest]) rfl
  | _ => exact hnone rfl rfl

theorem ChildrenChange.checkpointRows
    (h : ChildrenChange children taskId sequence event children') (sessionId : SessionId) :
    ∃ added, children'.taskCheckpoints.rows = children.taskCheckpoints.rows ++ added ∧
      (∀ row ∈ added, row.taskId = taskId) ∧
      added.map TaskCheckpointRow.mark = (checkpointMark
        ⟨sessionId, sequence, .taskLifecycle taskId event⟩).toList := by
  cases h with
  | event h =>
    obtain ⟨added, hrows, hadded, hmarks⟩ := (childTables_apply_write h).checkpointRows sessionId
    exact ⟨added, hrows, fun row hrow => (hadded row hrow).1, hmarks⟩
  | canonical input htask hevent h =>
    obtain ⟨checkpoints, packages, hinsert, -, rfl⟩ := insertCanonical_writes h
    subst hevent
    exact ⟨_, (Table.insert_eq_some.mp hinsert).2, by simp [htask], rfl⟩

def Db.checkpointRows (db : Db) (taskId : TaskId) : List TaskCheckpointRow :=
  db.children.taskCheckpoints.rows.filter fun row =>
    decide (row.taskId = taskId)

def Db.CheckpointsRecorded (db : Db) : Prop :=
  ∀ taskId, (db.checkpointRows taskId).map TaskCheckpointRow.mark =
    checkpointMarks (db.journal taskId)

theorem StepKind.recorded (hdb : db.CheckpointsRecorded) (h : StepKind db db') :
    db'.CheckpointsRecorded := by
  intro id
  cases h with
  | idle h =>
    unfold Db.checkpointRows
    rw [h.journal, h.children]
    exact hdb id
  | @created input workspace session h =>
    unfold Db.checkpointRows
    rw [h.journal, h.children]
    by_cases hid : id = input.taskId
    · rw [if_pos hid, checkpointMarks_concat, hid]
      exact (hdb _).trans (append_nil _).symm
    · rw [if_neg hid]
      exact hdb id
  | @append taskId event row session next h hchildren =>
    obtain ⟨added, hrows, hadded, hmarks⟩ := hchildren.checkpointRows row.sessionId
    unfold Db.checkpointRows
    rw [h.journal, hrows, filter_append]
    by_cases hid : id = taskId
    · subst hid
      have hall : added.filter (fun row => decide (row.taskId = id)) =
          added :=
        filter_eq_self.mpr fun row hrow => by simp [hadded row hrow]
      rw [if_pos rfl, checkpointMarks_concat, hall, map_append, hmarks]
      exact congrArg (· ++ _) (hdb id)
    · have hnone : added.filter (fun row => decide (row.taskId = id)) = [] :=
        filter_eq_nil_iff.mpr fun row hrow => by
          simpa [hadded row hrow] using Ne.symm hid
      rw [if_neg hid, hnone, append_nil]
      exact hdb id

theorem Db.checkpointsRecorded_empty : Db.empty.CheckpointsRecorded :=
  fun _ => rfl

/-! ## Canonical rows -/

/-- A canonical row describes the events before its own. -/
structure TaskCheckpointRow.Certified (sha256 : Sha256)
    (row : TaskCheckpointRow) (checkpoint : CanonicalCheckpoint)
    (before : List EventEnvelope) : Prop where
  taskId : checkpoint.taskId = row.taskId
  id : checkpoint.checkpointId = row.id
  bytes : checkpoint.canonicalBytes = .ok (Text.utf8 checkpoint.toJson.render)
  digest : (sha256 (Text.utf8 checkpoint.toJson.render)).text = row.digest
  reduced : ∃ snapshot, reduceJournal before = .ok (some snapshot)
  first : checkpoint.sourceSequenceStart = firstSequence before
  last : checkpoint.sourceSequenceEnd = lastSequence before
  previous : checkpoint.previousDigest = (checkpointMarks before).getLast?.map (·.digest)
  generation : checkpoint.compactionGeneration ≤ maxU32
  provider : checkpoint.provider.provider = "codex"
  configuration : ∃ record markers, before.foldlM replayTaskChildProjections ⟨none, []⟩ =
      .ok ⟨some record, markers⟩ ∧
    checkpoint.provider.model = record.activeModel.asStr ∧
    checkpoint.provider.effort = record.activeEffort.asCodexValue
  usage : before.foldl observeUsage ⟨none, none⟩ =
    ⟨checkpoint.provider.observedTotalTokens, checkpoint.provider.observedContextWindow⟩

def Db.Certified (sha256 : Sha256) (db : Db) : Prop :=
  ∀ row ∈ db.children.taskCheckpoints.rows, ∀ checkpoint,
    row.checkpoint = some checkpoint → ∃ before event after,
      db.journal row.taskId = before ++ event :: after ∧
      checkpointMark event = some row.mark ∧
      row.Certified sha256 checkpoint before

/-- Rows without a payload need no certificate, and journals only grow. -/
theorem Db.Certified.extend (h : db.Certified sha256) (hextends : Extends db db')
    (hrows : ∀ row ∈ db'.children.taskCheckpoints.rows,
      row.checkpoint ≠ none → row ∈ db.children.taskCheckpoints.rows) : db'.Certified sha256 := by
  intro row hrow checkpoint hcheckpoint
  have hold := hrows row hrow (by simp [hcheckpoint])
  obtain ⟨before, event, after, hsplit, hrest⟩ := h row hold checkpoint hcheckpoint
  obtain ⟨more, hmore⟩ := hextends.journal row.taskId
  refine ⟨before, event, after ++ more, ?_, hrest⟩
  rw [hmore, hsplit, append_assoc, cons_append]

theorem expectedGeneration_le {current : TaskRecord} {checkpoint : CanonicalCheckpoint}
    {generation : Nat} (h : expectedGeneration db current checkpoint none = .ok generation) :
    generation ≤ maxU32 := by
  unfold expectedGeneration at h
  simp only at h
  split at h
  · cases h
    exact Nat.zero_le _
  · simp only [nextGeneration, ok_iff, not_lt] at h
    obtain ⟨_, -, previous, -, hbound, rfl⟩ := h
    exact hbound

theorem LatestDigest.eq_last {digest : Option String} (hrecorded : db.CheckpointsRecorded)
    (hreduced : reduceJournal (db.journal taskId) = .ok (some snapshot))
    (h : LatestDigest db taskId snapshot digest) :
    digest = (checkpointMarks (db.journal taskId)).getLast?.map (·.digest) := by
  unfold LatestDigest at h
  rw [latestCheckpoint_of_reduced hreduced] at h
  cases hlast : (checkpointMarks (db.journal taskId)).getLast? with
  | none =>
    rw [hlast] at h
    exact h
  | some mark =>
    rw [hlast] at h
    obtain ⟨stored, hstored, -, rfl⟩ := h
    have hmark := mem_of_getLast? hlast
    rw [← hrecorded taskId] at hmark
    obtain ⟨row, hrow, rfl⟩ := mem_map.mp hmark
    have hfound : db.children.taskCheckpoints.find? row.id = some row :=
      Table.find?_of_mem (mem_filter.mp hrow).1
    cases hfound.symm.trans hstored
    rfl

theorem validateCheckpointInput_bytes {u : Unit}
    (h : validateCheckpointInput sha256 input = .ok u) :
    ∃ bytes, input.checkpoint.canonicalBytes = .ok bytes ∧
      (sha256 bytes).text = input.checkpointDigest := by
  simp only [validateCheckpointInput, CanonicalCheckpoint.digest, ok_iff, ne_eq, not_not] at h
  obtain ⟨-, _, ⟨bytes, hbytes, rfl⟩, hdigest, -⟩ := h
  exact ⟨bytes, hbytes, hdigest⟩

def NewCheckpoint.row (input : NewCheckpoint) (sequence : Nat) : TaskCheckpointRow :=
  ⟨input.checkpoint.checkpointId, input.taskId, input.checkpointDigest,
    sequence, some input.checkpoint.normalize⟩

theorem CheckpointCommitted.certified {anchor : Option AuthenticatedCheckpointAuthority}
    {row : AgentTaskRow} {session : SessionRow} {next : TaskSnapshot}
    {validated : ValidatedCheckpointAuthority} {record : TaskConfigurationRecord}
    (hdb : db.Consistent) (hrecorded : db.CheckpointsRecorded)
    (h : CheckpointCommitted sha256 db anchor input row session next validated db')
    (hchildren : ChildrenReplayed db.children input.taskId (db.journal input.taskId) record)
    (hauthorized : Authorized db row record input.checkpoint)
    (hhistory : FollowsHistory db input.taskId row.snapshot input.checkpoint) :
    (input.row session.nextSequence).Certified sha256
      input.checkpoint.normalize (db.journal input.taskId) := by
  have htask := validateCheckpointInput_taskId h.inputOk
  obtain ⟨bytes, hbytes, hdigest⟩ := validateCheckpointInput_bytes h.inputOk
  have htext := CanonicalCheckpoint.canonicalBytes_eq_utf8 hbytes
  have hreduced := (hdb.replayed.rows _ _ h.append.found).fold
  have husage := hauthorized.usage
  rw [htask] at husage
  refine ⟨htask, rfl, ?_, ?_, ⟨_, hreduced⟩, hhistory.first, hhistory.last,
    hhistory.previous.eq_last hrecorded hreduced,
    expectedGeneration_le hauthorized.generation, hauthorized.provider,
    ⟨record, _, hchildren.fold, hauthorized.model, hauthorized.effort⟩, husage⟩
  · rw [CanonicalCheckpoint.canonicalBytes_normalize, hbytes, htext]
  · rw [← htext]
    exact hdigest

/-- The anchor that a checkpoint was checked from is sound. -/
def Accepted (db : Db) : Action → Prop
  | .checkpoint input anchor => ∀ row authority,
    db.agentTasks.find? input.taskId = some row → anchor = some authority →
      authority.SoundIn db input.taskId ∧
        row.snapshot.latestCheckpoint = some authority.checkpointId
  | _ => True

theorem World.Sound.accepts {world : World} {call : Call} (hworld : world.Sound)
    (h : call.Permits sha256 world db action) : Accepted db action := by
  cases action with
  | checkpoint input anchor =>
    obtain ⟨handle, _, current, -, rfl, hload, rfl⟩ := h
    intro row authority hrow hanchor
    obtain ⟨loaded, hloaded, -, rfl⟩ := loadTaskRecord_eq_some.mp hload
    rw [hrow] at hloaded
    cases hloaded
    obtain ⟨hcached, hmatch⟩ := incrementalAnchor_eq_some hanchor
    exact ⟨hworld.authorities handle _ _ hcached,
      authenticatedCheckpointMatchesDatabase_latest hmatch⟩
  | _ => trivial

/-- Invariants whose steps need a sound world or a condition on the calls. -/
theorem World.run_step_invariant {guard : World → Call → Prop} {P : Db → Prop} (hempty : P .empty)
    (hstep : ∀ world call db action db', guard world call →
      call.Permits sha256 world db action → Accepted db action →
      db.Consistent → db.ChildrenFollow → P db →
      DbStep sha256 db action db' → P db') {calls : List Call}
    (hmeet : World.initial.CallsMeet sha256 guard calls) : P (World.run sha256 calls).db := by
  refine (World.run_invariant (P := fun world => world.Sound ∧ P world.db)
    ⟨World.initial_sound, hempty⟩ ?_ hmeet).2
  intro world call next response hworld hguard hrun
  refine ⟨Call.run_sound hworld.1 hrun, ?_⟩
  have hall : next.db.Consistent ∧ next.db.ChildrenFollow ∧ P next.db := by
    refine (Call.run_steps hrun).invariant
      (P := fun db => db.Consistent ∧ db.ChildrenFollow ∧ P db) ?_
      ⟨hworld.1.consistent, hworld.1.children, hworld.2⟩
    rintro db action db' ⟨hconsistent, hchildren, hP⟩ hpermits hdb
    exact ⟨hdb.consistent hconsistent, hdb.kind.childrenFollow hconsistent.replayed hchildren,
      hstep world call db action db' hguard hpermits
        (hworld.1.accepts hpermits) hconsistent hchildren hP hdb⟩
  exact hall.2.2

theorem DbStep.certified (hdb : db.Consistent) (hchildren : db.ChildrenFollow)
    (hrecorded : db.CheckpointsRecorded) (hcertified : db.Certified sha256)
    (haccepted : Accepted db action) (h : DbStep sha256 db action db') : db'.Certified sha256 := by
  have hextends := h.kind.extends
  cases h with
  | @event _ taskId event row _ _ _ hwrite =>
    obtain ⟨added, hrows, hadded, -⟩ :=
      (childTables_apply_write hwrite).checkpointRows row.sessionId
    refine hcertified.extend hextends ?_
    intro stored hstored hpayload
    rw [hrows, mem_append] at hstored
    rcases hstored with hstored | hstored
    · exact hstored
    · exact absurd (hadded stored hstored).2 hpayload
  | @checkpoint _ input row session next anchor validated hcommitted =>
    obtain ⟨record, hreplayed⟩ := hchildren.rows _ _ hcommitted.append.found
    obtain ⟨hauthorized, hhistory, -⟩ := hcommitted.authorized hdb hreplayed
      (fun authority => haccepted row authority hcommitted.append.found)
    obtain ⟨checkpoints, packages, hinsert, -, hwritten⟩ :=
      insertCanonical_writes hcommitted.children
    have hrows : db'.children.taskCheckpoints.rows = db.children.taskCheckpoints.rows ++
          [input.row session.nextSequence] := by
      rw [hwritten]
      exact (Table.insert_eq_some.mp hinsert).2
    intro stored hstored checkpoint hcheckpoint
    rw [hrows, mem_append, mem_singleton] at hstored
    rcases hstored with hstored | rfl
    · obtain ⟨before, event, after, hsplit, hrest⟩ :=
        hcertified stored hstored checkpoint hcheckpoint
      obtain ⟨more, hmore⟩ := hextends.journal stored.taskId
      refine ⟨before, event, after ++ more, ?_, hrest⟩
      rw [hmore, hsplit, append_assoc, cons_append]
    · cases hcheckpoint
      have hjournal := hcommitted.append.journal input.taskId
      rw [if_pos rfl] at hjournal
      exact ⟨_, _, [], hjournal, rfl, hcommitted.certified hdb hrecorded
        hreplayed hauthorized hhistory⟩
  | steering hsteering =>
    refine hcertified.extend hextends ?_
    intro stored hstored _
    rw [(bindSteeringControl_idle hsteering).children] at hstored
    exact hstored
  | created hcreated =>
    refine hcertified.extend hextends ?_
    intro stored hstored _
    rw [hcreated.children] at hstored
    exact hstored
  | otherEvent happended =>
    refine hcertified.extend hextends ?_
    intro stored hstored _
    rw [happended.idle.children] at hstored
    exact hstored
  | _ => exact hcertified.extend hextends fun _ hstored _ => hstored

theorem World.run_certified (calls : List Call) : (World.run sha256 calls).db.CheckpointsRecorded ∧
      (World.run sha256 calls).db.Certified sha256 := by
  refine World.run_step_invariant (P := fun db => db.CheckpointsRecorded ∧ db.Certified sha256)
    ⟨Db.checkpointsRecorded_empty, fun _ h => nomatch h⟩ ?_
    (World.callsMeet_true _ calls)
  rintro world call db action db' - - haccepted hconsistent hchildren ⟨hrecorded, hcertified⟩ hstep
  exact ⟨hstep.kind.recorded hrecorded,
    hstep.certified hconsistent hchildren hrecorded hcertified haccepted⟩

/-- The checkpoint rows of a task are the checkpoint events of its journal, and
a stored checkpoint describes the events before its own. -/
theorem stored_checkpoints_certified (sha256 : Sha256) (calls : List Call) :
    let db := (World.run sha256 calls).db
    db.CheckpointsRecorded ∧
      ∀ row ∈ db.children.taskCheckpoints.rows, ∀ checkpoint, row.checkpoint = some checkpoint →
        ∃ before event after, db.journal row.taskId = before ++ event :: after ∧
          checkpointMark event = some row.mark ∧ row.Certified sha256 checkpoint before :=
  World.run_certified calls

end CarlAgent.Storage
