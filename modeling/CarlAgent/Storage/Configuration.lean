import CarlAgent.Storage.ChildWrite
import CarlAgent.Storage.Consistency

/-!
# The configuration and the control markers follow the journal

The configuration row is kept by updates and the control markers by
insertions.  Both equal what the replay of the journal computes, and the
permission mode in effect is never stronger than the one that was applied or
the one that waits.
-/

namespace CarlAgent.Storage

open Foundation CarlAgent.Task ChildTables List

variable {sha256 : Sha256}
variable {children' : ChildTables} {db : Db} {sequence : Nat}

/-- The effective mode is no stronger than the active and the pending one. -/
structure TaskConfigurationRecord.Tightened (record : TaskConfigurationRecord) : Prop where
  active : permissionStrength record.effectivePermissionMode ≤
    permissionStrength record.activePermissionMode
  pending : ∀ mode, record.pendingPermissionMode = some mode →
    permissionStrength record.effectivePermissionMode ≤ permissionStrength mode

theorem permissionStrength_tightenedMode (effective queued : PermissionMode) :
    permissionStrength (tightenedMode effective queued) =
      min (permissionStrength effective) (permissionStrength queued) := by
  unfold tightenedMode
  split <;> omega

variable {record : TaskConfigurationRecord} {children : ChildTables}
  {taskId : TaskId} {journal : List EventEnvelope} {event : TaskEvent}

theorem TaskConfigurationRecord.Tightened.queue (h : record.Tightened) (sequence : Nat)
    (controlId : String) (model : ModelId) (effort : ReasoningEffort) (mode : PermissionMode) :
    (record.queue sequence controlId model effort mode).Tightened where
  active := by
    have hactive := h.active
    simp only [TaskConfigurationRecord.queue, permissionStrength_tightenedMode]
    omega
  pending := by
    rintro _ ⟨⟩
    simp only [TaskConfigurationRecord.queue, permissionStrength_tightenedMode]
    omega

def ChildTables.controlMarkers (children : ChildTables) (taskId : TaskId) : List ControlMarker :=
  (children.taskControlMarkers.rows.filter fun row =>
    decide (row.taskId = taskId)).map fun row =>
      (row.controlId, row.kind, row.eventSequence)

/-- Configuration row and control markers are the replay of the journal. -/
structure ChildrenReplayed (children : ChildTables) (taskId : TaskId)
    (journal : List EventEnvelope) (record : TaskConfigurationRecord) :
    Prop where
  configuration : children.taskConfigurationState.find? taskId = some ⟨taskId, record⟩
  fold : journal.foldlM replayTaskChildProjections ⟨none, []⟩ =
    .ok ⟨some record, children.controlMarkers taskId⟩
  positions : List.Sublist ((children.controlMarkers taskId).map (·.2.2)) (journal.map (·.sequence))
  tightened : record.Tightened

/-- Nothing of what the replay of a task compares has changed. -/
def SameReplay (children children' : ChildTables) (taskId : TaskId) : Prop :=
  children'.taskConfigurationState.find? taskId = children.taskConfigurationState.find? taskId ∧
    children'.controlMarkers taskId = children.controlMarkers taskId

theorem SameReplay.of_eq (taskId : TaskId)
    (hconfiguration : children'.taskConfigurationState = children.taskConfigurationState)
    (hmarkers : children'.taskControlMarkers = children.taskControlMarkers) :
    SameReplay children children' taskId := by
  unfold SameReplay controlMarkers
  rw [hconfiguration, hmarkers]
  exact ⟨rfl, rfl⟩

theorem ChildrenReplayed.of_same (h : ChildrenReplayed children taskId journal record)
    (hsame : SameReplay children children' taskId) :
    ChildrenReplayed children' taskId journal record := by
  refine ⟨?_, ?_, ?_, h.tightened⟩
  · rw [hsame.1, h.configuration]
  · rw [hsame.2, h.fold]
  · rw [hsame.2]
    exact h.positions

theorem insertControlMarker_markers {controlId : String} {kind : TaskControlKind}
    {markers : Table fun row : TaskControlMarkerRow =>
      (row.taskId, row.controlId)}
    (h : children.taskControlMarkers.insert
      ⟨taskId, controlId, kind, sequence⟩ = some markers) (id : TaskId) :
    ({ children with taskControlMarkers := markers } : ChildTables).controlMarkers id =
      children.controlMarkers id ++
        if id = taskId then [(controlId, kind, sequence)] else [] := by
  have hrows := (Table.insert_eq_some.mp h).2
  unfold controlMarkers
  by_cases hid : id = taskId
  · simp [hrows, hid]
  · simp [hrows, hid, Ne.symm hid]

/-- The events that the replay of configuration and markers reacts to. -/
def changesReplay : TaskEvent → Bool
  | .created _ _ _ _ _ _ _ => true
  | .configurationQueued _ _ _ _ => true
  | .configurationApplied _ => true
  | .controlRequested _ _ => true
  | _ => false

theorem replayTaskChildProjections_quiet {replay : ChildReplay} {sessionId : SessionId}
    (h : changesReplay event = false) :
    replayTaskChildProjections replay
      ⟨sessionId, sequence, .taskLifecycle taskId event⟩ = .ok replay := by
  cases event <;> first | rfl | cases h

theorem changesReplay_of_closedEpoch {epochId : EpochId}
    (h : closedEpoch event = some epochId) : changesReplay event = false := by
  cases event <;> first | rfl | cases h

theorem changesReplay_of_isChildless (h : isChildless event = true)
    (hnew : event.isCreated = false) : changesReplay event = false := by
  cases event <;> first | rfl | (cases h <;> cases hnew)

theorem closeEpoch_rest {closed : ChildTables} {epochId : EpochId} {status : EpochStatus}
    {reportDigest : Option String} {missing : String}
    (h : children.closeEpoch taskId sequence epochId status reportDigest missing = .ok closed) :
    closed = { children with taskEpochs := closed.taskEpochs } := by
  obtain ⟨taskEpochs, row, -, -, -, rfl⟩ := closeEpoch_eq_ok.mp h
  rfl

theorem ChildWrite.same_of_quiet (h : ChildWrite children taskId sequence event children')
    (hquiet : changesReplay event = false) (id : TaskId) : SameReplay children children' id := by
  cases h with
  | configurationQueued | configurationApplied | controlRequested => cases hquiet
  | epochClosed _ hclose hrest =>
    refine .of_eq id ?_ ?_
    · rw [hrest, closeEpoch_rest hclose]
    · rw [hrest, closeEpoch_rest hclose]
  | steeringQueued hrest =>
    refine .of_eq id ?_ ?_
    · rw [hrest]
    · rw [hrest]
  | _ => exact .of_eq id rfl rfl

theorem ChildWrite.same_of_ne (h : ChildWrite children taskId sequence event children')
    {id : TaskId} (hid : id ≠ taskId) : SameReplay children children' id := by
  cases hquiet : changesReplay event with
  | false => exact h.same_of_quiet hquiet id
  | true =>
    cases h with
    | configurationQueued hstored hfind hrest | configurationApplied hstored _ _ _ _ hfind hrest =>
      refine ⟨by rw [hfind, if_neg hid], ?_⟩
      unfold controlMarkers
      rw [hrest]
    | controlRequested hinsert =>
      refine ⟨rfl, ?_⟩
      rw [insertControlMarker_markers hinsert, if_neg hid, append_nil]
    | epochClosed hevent _ _ =>
      rw [changesReplay_of_closedEpoch hevent] at hquiet
      cases hquiet
    | childless => exact .of_eq id rfl rfl
    | _ => cases hquiet

theorem ChildrenReplayed.extend {record' : TaskConfigurationRecord} {envelope : EventEnvelope}
    (h : ChildrenReplayed children taskId journal record) (added : List ControlMarker)
    (hstep : replayTaskChildProjections ⟨some record, children.controlMarkers taskId⟩ envelope =
        .ok ⟨some record', children.controlMarkers taskId ++ added⟩)
    (hmarkers : children'.controlMarkers taskId = children.controlMarkers taskId ++ added)
    (hadded : List.Sublist (added.map (·.2.2)) [envelope.sequence])
    (hconfiguration : children'.taskConfigurationState.find? taskId = some ⟨taskId, record'⟩)
    (htightened : record'.Tightened) :
    ChildrenReplayed children' taskId (journal ++ [envelope]) record' := by
  refine ⟨hconfiguration, ?_, ?_, htightened⟩
  · rw [foldlM_concat_eq_ok, hmarkers]
    exact ⟨_, h.fold, hstep⟩
  · rw [hmarkers, map_append, map_append]
    exact h.positions.append hadded

theorem ChildWrite.replayed (h : ChildWrite children taskId sequence event children')
    (hnew : event.isCreated = false) (hreplayed : ChildrenReplayed children taskId journal record)
    (sessionId : SessionId) : ∃ record', ChildrenReplayed children' taskId
      (journal ++ [⟨sessionId, sequence, .taskLifecycle taskId event⟩]) record' := by
  cases hquiet : changesReplay event with
  | false =>
    have hsame := h.same_of_quiet hquiet taskId
    refine ⟨record, hreplayed.extend [] ?_ ?_ ?_ ?_ hreplayed.tightened⟩
    · rw [append_nil]
      exact replayTaskChildProjections_quiet hquiet
    · rw [append_nil, hsame.2]
    · simp
    · rw [hsame.1, hreplayed.configuration]
  | true =>
    cases h with
    | @configurationQueued controlId model effort mode stored _ hstored hfind
      hrest =>
      rw [hreplayed.configuration] at hstored
      cases hstored
      refine ⟨record.queue sequence controlId model effort mode,
        hreplayed.extend [] ?_ ?_ ?_ ?_ (hreplayed.tightened.queue _ _ _ _ _)⟩
      · rw [append_nil]
        rfl
      · unfold controlMarkers
        rw [hrest, append_nil]
      · simp
      · rw [hfind, if_pos rfl]
    | @configurationApplied controlId model effort mode stored _ hstored
      hcontrol hmodel heffort hmode hfind hrest =>
      rw [hreplayed.configuration] at hstored
      cases hstored
      refine ⟨.applied sequence model effort mode,
        hreplayed.extend [] ?_ ?_ ?_ ?_ ⟨le_refl _, by rintro _ ⟨⟩⟩⟩
      · simp only [replayTaskChildProjections, replayConfiguration, replayControlMarkers, ok_iff,
          append_nil, ne_eq, not_not]
        exact ⟨some _, ⟨record, rfl, hcontrol, model, hmodel, effort,
          heffort, mode, hmode, rfl⟩, _, rfl, rfl⟩
      · unfold controlMarkers
        rw [hrest, append_nil]
      · simp
      · rw [hfind, if_pos rfl]
    | @controlRequested controlId kind markers hinsert =>
      have hnone := Table.find?_eq_none.mp (Table.insert_eq_some.mp hinsert).1
      refine ⟨record, hreplayed.extend [(controlId, kind, sequence)] ?_ ?_ ?_
          hreplayed.configuration hreplayed.tightened⟩
      · simp only [replayTaskChildProjections, replayConfiguration, replayControlMarkers, ok_iff]
        refine ⟨some record, rfl, _, ⟨?_, rfl⟩, rfl⟩
        simp only [any_eq_true, decide_eq_true_eq, not_exists, not_and]
        intro marker hmarker hcontrol
        simp only [controlMarkers, mem_map, mem_filter, decide_eq_true_eq] at hmarker
        obtain ⟨row, ⟨hrow, htask⟩, rfl⟩ := hmarker
        exact hnone row hrow (Prod.ext htask hcontrol)
      · rw [insertControlMarker_markers hinsert, if_pos rfl]
      · simp
    | epochClosed hevent _ _ =>
      rw [changesReplay_of_closedEpoch hevent] at hquiet
      cases hquiet
    | childless hchildless =>
      rw [changesReplay_of_isChildless hchildless hnew] at hquiet
      cases hquiet
    | _ => cases hquiet

structure Db.ChildrenFollow (db : Db) : Prop where
  rows : ∀ taskId row, db.agentTasks.find? taskId = some row →
    ∃ record, ChildrenReplayed db.children taskId (db.journal taskId) record
  absent : ∀ taskId, db.agentTasks.find? taskId = none → db.children.controlMarkers taskId = []

theorem ChildrenChange.same_of_ne (h : ChildrenChange children taskId sequence event children')
    {id : TaskId} (hid : id ≠ taskId) : SameReplay children children' id := by
  cases h with
  | event h => exact (childTables_apply_write h).same_of_ne hid
  | canonical input _ _ h =>
    obtain ⟨_, _, -, -, rfl⟩ := insertCanonical_writes h
    exact .of_eq id rfl rfl

theorem ChildrenChange.replayed (h : ChildrenChange children taskId sequence event children')
    (hnew : event.isCreated = false) (hreplayed : ChildrenReplayed children taskId journal record)
    (sessionId : SessionId) : ∃ record', ChildrenReplayed children' taskId
      (journal ++ [⟨sessionId, sequence, .taskLifecycle taskId event⟩]) record' := by
  cases h with
  | event h =>
    exact (childTables_apply_write h).replayed hnew hreplayed sessionId
  | canonical input _ hevent h =>
    obtain ⟨_, _, -, -, rfl⟩ := insertCanonical_writes h
    subst hevent
    refine ⟨record, hreplayed.extend [] ?_ ?_ ?_ hreplayed.configuration hreplayed.tightened⟩
    · rw [append_nil]
      exact replayTaskChildProjections_quiet rfl
    · rw [append_nil]
      rfl
    · simp

theorem StepKind.childrenFollow {db' : Db} (hreplayed : db.Replayed)
    (hdb : db.ChildrenFollow) (h : StepKind db db') : db'.ChildrenFollow := by
  cases h with
  | idle h =>
    have hsame : ∀ id, SameReplay db.children db'.children id := by
      intro id
      rw [h.children]
      exact .of_eq id rfl rfl
    refine ⟨?_, ?_⟩
    · intro taskId row hrow
      rw [h.tasks] at hrow
      obtain ⟨record, hrecord⟩ := hdb.rows taskId row hrow
      rw [h.journal]
      exact ⟨record, hrecord.of_same (hsame taskId)⟩
    · intro taskId hnone
      rw [h.tasks] at hnone
      rw [(hsame taskId).2]
      exact hdb.absent taskId hnone
  | @created input workspace session h =>
    have hnone : db'.children.controlMarkers input.taskId = [] := by
      rw [← hdb.absent _ h.fresh]
      unfold controlMarkers
      rw [h.children]
    have hsame : ∀ id, id ≠ input.taskId → SameReplay db.children db'.children id := by
      intro id hid
      refine ⟨by rw [Table.find?_insert h.configuration, if_neg hid], ?_⟩
      unfold controlMarkers
      rw [h.children]
    refine ⟨?_, ?_⟩
    · intro taskId row hrow
      rw [h.tasks] at hrow
      by_cases hid : taskId = input.taskId
      · rw [hid]
        refine ⟨.initial input.model input.effort input.permissionMode, ?_,
          ?_, ?_, le_refl _, by rintro _ ⟨⟩⟩
        · rw [Table.find?_insert h.configuration, if_pos rfl]
        · rw [h.journal, if_pos rfl, hreplayed.absent _ h.fresh, hnone]
          rfl
        · rw [hnone]
          simp
      · rw [if_neg hid] at hrow
        obtain ⟨record, hrecord⟩ := hdb.rows taskId row hrow
        rw [h.journal, if_neg hid]
        exact ⟨record, hrecord.of_same (hsame taskId hid)⟩
    · intro taskId hnone
      rw [h.tasks] at hnone
      by_cases hid : taskId = input.taskId
      · simp [hid] at hnone
      · rw [if_neg hid] at hnone
        rw [(hsame taskId hid).2]
        exact hdb.absent taskId hnone
  | @append taskId event row session next h hchildren =>
    have hnot : event.isCreated = false := by
      obtain ⟨changed, heffect, -⟩ := h.step.effect
      exact heffect.not_created
    refine ⟨?_, ?_⟩
    · intro id other hother
      rw [h.tasks] at hother
      rw [h.journal]
      by_cases hid : id = taskId
      · subst hid
        obtain ⟨record, hrecord⟩ := hdb.rows id row h.found
        rw [if_pos rfl]
        exact hchildren.replayed hnot hrecord row.sessionId
      · rw [if_neg hid] at hother
        obtain ⟨record, hrecord⟩ := hdb.rows id other hother
        rw [if_neg hid]
        exact ⟨record, hrecord.of_same (hchildren.same_of_ne hid)⟩
    · intro id hnone
      rw [h.tasks] at hnone
      by_cases hid : id = taskId
      · simp [hid] at hnone
      · rw [if_neg hid] at hnone
        rw [(hchildren.same_of_ne hid).2]
        exact hdb.absent id hnone

theorem Db.childrenFollow_empty : Db.empty.ChildrenFollow where
  rows := by
    intro taskId row h
    cases h
  absent := fun _ _ => rfl

theorem World.run_childrenFollow (calls : List Call) :
    (World.run sha256 calls).db.ChildrenFollow := by
  have hboth : (World.run sha256 calls).db.Replayed ∧
      (World.run sha256 calls).db.ChildrenFollow := by
    refine World.run_db_invariant (P := fun db => db.Replayed ∧ db.ChildrenFollow)
      ⟨Db.replayed_empty, Db.childrenFollow_empty⟩ ?_ calls
    rintro db action db' ⟨hreplayed, hfollow⟩ hstep
    exact ⟨hstep.kind.replayed hreplayed, hstep.kind.childrenFollow hreplayed hfollow⟩
  exact hboth.2

theorem Db.Replayed.exists_row (hdb : db.Replayed) (h : db.journal taskId ≠ []) :
    ∃ row, db.agentTasks.find? taskId = some row := by
  cases hrow : db.agentTasks.find? taskId with
  | none => exact absurd (hdb.absent taskId hrow) h
  | some row => exact ⟨row, rfl⟩

/-- The stored configuration is the replay of the whole journal, and the mode
in effect is no stronger than the active one or the pending one. -/
theorem configuration_row_follows_journal (sha256 : Sha256) (calls : List Call)
    (taskId : TaskId) (hjournal : (World.run sha256 calls).db.journal taskId ≠ []) :
    ∃ record markers, loadTaskConfigurationRecord (World.run sha256 calls).db taskId = some record ∧
      ((World.run sha256 calls).db.journal taskId).foldlM
        replayTaskChildProjections ⟨none, []⟩ = .ok ⟨some record, markers⟩ ∧
      permissionStrength record.effectivePermissionMode ≤
        permissionStrength record.activePermissionMode ∧
      ∀ mode, record.pendingPermissionMode = some mode →
        permissionStrength record.effectivePermissionMode ≤ permissionStrength mode := by
  obtain ⟨row, hrow⟩ := (World.run_consistent calls).replayed.exists_row hjournal
  obtain ⟨record, hrecord⟩ := (World.run_childrenFollow calls).rows taskId row hrow
  refine ⟨record, _, ?_, hrecord.fold, hrecord.tightened.active, hrecord.tightened.pending⟩
  unfold loadTaskConfigurationRecord
  rw [hrecord.configuration]
  rfl

namespace Sample

def controlId : String :=
  "00000000000000000000000000000000000000000000000000000000000000c1"

def model2 : ModelId := ⟨"m2", by decide⟩

def tightening : TaskEvent :=
  .configurationQueued controlId model2 .high .plan

end Sample

theorem queued_sample_configuration_follows :
    let world := World.run (fun _ => Sample.emptyDigest) (Sample.calls [Sample.tightening])
    ∃ record markers, loadTaskConfigurationRecord world.db Task.Sample.taskId = some record ∧
      (world.db.journal Task.Sample.taskId).foldlM replayTaskChildProjections
        ⟨none, []⟩ = .ok ⟨some record, markers⟩ ∧
      record.pendingPermissionMode = some .plan ∧
      record.activePermissionMode = .default ∧
      permissionStrength record.effectivePermissionMode ≤ permissionStrength .plan := by
  intro world
  have hstored : ∃ record ∈ loadTaskConfigurationRecord world.db Task.Sample.taskId,
      record.pendingPermissionMode = some .plan ∧ record.activePermissionMode = .default := by
    decide +revert +kernel
  subst world
  obtain ⟨stored, hstored, hplan, hdefault⟩ := hstored
  obtain ⟨record, markers, hrecord, hfold, -, hpending⟩ :=
    configuration_row_follows_journal (fun _ => Sample.emptyDigest)
      (Sample.calls [Sample.tightening]) Task.Sample.taskId
      (by decide +kernel)
  cases hstored.symm.trans hrecord
  exact ⟨stored, markers, hrecord, hfold, hplan, hdefault, hpending _ hplan⟩

end CarlAgent.Storage
