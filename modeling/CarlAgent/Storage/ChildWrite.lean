import CarlAgent.Storage.Step

/-!
# What an event writes to the child tables

`ChildWrite` has one constructor for each kind of rows that a task event
writes, with the constraints that the tables put on them.
`childTables_apply_write` is the only place where the statements are unfolded.
-/

namespace CarlAgent.Storage

open Foundation CarlAgent.Task ChildTables

section

variable {children children' : ChildTables} {taskId : TaskId} {sequence : Nat}

theorem startEpoch_eq_ok {epochId : EpochId} {objective : String} :
    children.startEpoch taskId sequence epochId objective = .ok children' ↔
      ∃ taskEpochs, children.taskEpochs.insert
          ⟨epochId, taskId, objective, .active, sequence, none, none⟩ = some taskEpochs ∧
        (∀ row ∈ children.taskEpochs.rows, row.taskId = taskId →
          row.startedSequence ≠ sequence) ∧
        children' = { children with taskEpochs } := by
  simp only [startEpoch, ok_iff, insertRow_eq_ok, requireUnique_eq_ok,
    decide_eq_false_iff_not, not_and, ne_eq, @eq_comm ChildTables children']

theorem closeEpoch_eq_ok {epochId : EpochId} {status : EpochStatus} {reportDigest : Option String}
    {missing : String} :
    children.closeEpoch taskId sequence epochId status reportDigest missing = .ok children' ↔
      ∃ taskEpochs row, children.taskEpochs.update epochId
          (fun row => decide (row.taskId = taskId ∧ row.status = .active))
          (fun row => { row with
            status, finishedSequence := some sequence, reportDigest }) (fun _ => rfl) =
            some taskEpochs ∧
        children.taskEpochs.find? epochId = some row ∧
        row.startedSequence < sequence ∧
        children' = { children with taskEpochs } := by
  simp only [closeEpoch, ok_iff, requireProjectionChange_eq_ok, not_exists, not_and,
    Option.mem_def, not_le]
  constructor
  · rintro ⟨taskEpochs, hupdate, hsequence, rfl⟩
    obtain ⟨⟨row, hrow, -⟩, -⟩ := Table.update_eq_some.mp hupdate
    exact ⟨taskEpochs, row, hupdate, hrow, hsequence row hrow, rfl⟩
  · rintro ⟨taskEpochs, row, hupdate, hrow, hsequence, rfl⟩
    refine ⟨taskEpochs, hupdate, ?_, rfl⟩
    intro other hother
    rw [hrow] at hother
    cases hother
    exact hsequence

theorem transitionOperation_eq_ok {operationId : OperationId} {source target : OperationStatus}
    {evidenceSequences : List Nat} :
    children.transitionOperation taskId sequence operationId source target
        evidenceSequences = .ok children' ↔
      ∃ operations row, children.taskOperations.update operationId
          (fun row => decide (row.taskId = taskId ∧ row.status = source))
          (fun row => { row with
            status := target, lastTransitionSequence := sequence,
            evidenceSequences }) (fun _ => rfl) =
            some operations ∧
        children.taskOperations.find? operationId = some row ∧
        row.intentSequence ≤ sequence ∧
        children' = { children with taskOperations := operations } := by
  simp only [transitionOperation, ok_iff, requireProjectionChange_eq_ok, not_exists,
    not_and, Option.mem_def, not_lt]
  constructor
  · rintro ⟨operations, hupdate, hsequence, rfl⟩
    obtain ⟨⟨row, hrow, -⟩, -⟩ := Table.update_eq_some.mp hupdate
    exact ⟨operations, row, hupdate, hrow, hsequence row hrow, rfl⟩
  · rintro ⟨operations, row, hupdate, hrow, hsequence, rfl⟩
    refine ⟨operations, hupdate, ?_, rfl⟩
    intro other hother
    rw [hrow] at hother
    cases hother
    exact hsequence

theorem insertCanonical_writes {input : NewCheckpoint}
    (h : children.insertCanonical sequence input = .ok children') :
    ∃ checkpoints packages,
      children.taskCheckpoints.insert ⟨input.checkpoint.checkpointId, input.taskId,
        input.checkpointDigest, sequence, some input.checkpoint.normalize⟩ = some checkpoints ∧
      children.taskContextPackages.insert ⟨input.contextPackage.packageId, input.taskId,
        input.checkpoint.checkpointId, input.checkpoint.compactionGeneration, sequence, some
        input.contextPackage⟩ = some packages ∧
      children' = { children with
        taskCheckpoints := checkpoints, taskContextPackages := packages } := by
  simp only [insertCanonical, insertCheckpoint,
    insertContextPackage, ok_iff, insertRow_eq_ok, requireUnique_eq_ok] at h
  obtain ⟨_, ⟨checkpoints, hcheckpoints, -, rfl⟩, packages, hpackages, -, -, -, rfl⟩ := h
  exact ⟨checkpoints, packages, hcheckpoints, hpackages, rfl⟩

end

def isChildless : TaskEvent → Bool
  | .epochStarted _ _ => false
  | .epochFinished _ _ => false
  | .epochInterrupted _ _ => false
  | .configurationQueued _ _ _ _ => false
  | .configurationApplied _ => false
  | .controlRequested _ _ => false
  | .operationIntentRecorded _ _ _ _ _ => false
  | .operationTransitioned _ _ _ _ => false
  | .checkpointCommitted _ _ => false
  | .compactionCompleted _ _ _ => false
  | .steeringQueued _ _ => false
  | _ => true

variable {event : TaskEvent} {taskId : TaskId} {sequence : Nat}

theorem childTables_apply_childless {children : ChildTables} (h : isChildless event = true) :
    children.apply taskId sequence event = .ok children := by
  cases event <;> first | rfl | cases h

inductive ChildWrite (children : ChildTables) (taskId : TaskId)
    (sequence : Nat) : TaskEvent → ChildTables → Prop
  | childless {event : TaskEvent} (h : isChildless event = true) :
    ChildWrite children taskId sequence event children
  | epochStarted {epochId : EpochId} {objective : String} {taskEpochs : Table TaskEpochRow.id}
    (hinsert : children.taskEpochs.insert
      ⟨epochId, taskId, objective, .active, sequence, none, none⟩ = some taskEpochs) :
    ChildWrite children taskId sequence (.epochStarted epochId objective)
      { children with taskEpochs }
  | epochClosed {event : TaskEvent} {epochId : EpochId} {status : EpochStatus}
    {reportDigest : Option String} {missing : String}
    {closed children' : ChildTables}
    (hevent : closedEpoch event = some epochId)
    (hclose : children.closeEpoch taskId sequence epochId status reportDigest missing = .ok closed)
    (hrest : children' = { closed with
      taskEpochInterruptions := children'.taskEpochInterruptions }) :
    ChildWrite children taskId sequence event children'
  | configurationQueued {controlId : String} {model : ModelId}
    {effort : ReasoningEffort} {permissionMode : PermissionMode}
    {stored : TaskConfigurationRow} {children' : ChildTables}
    (hstored : children.taskConfigurationState.find? taskId = some stored)
    (hfind : ∀ id, children'.taskConfigurationState.find? id =
      if id = taskId then
        some ⟨taskId, stored.record.queue sequence controlId model effort permissionMode⟩
      else children.taskConfigurationState.find? id)
    (hrest : children' = { children with
      taskConfigurationState := children'.taskConfigurationState
      serviceConfigurationControls := children'.serviceConfigurationControls }) :
    ChildWrite children taskId sequence
      (.configurationQueued controlId model effort permissionMode) children'
  | configurationApplied {controlId : String} {model : ModelId}
    {effort : ReasoningEffort} {permissionMode : PermissionMode}
    {stored : TaskConfigurationRow} {children' : ChildTables}
    (hstored : children.taskConfigurationState.find? taskId = some stored)
    (hcontrol : stored.record.pendingControlId = some controlId)
    (hmodel : stored.record.pendingModel = some model)
    (heffort : stored.record.pendingEffort = some effort)
    (hmode : stored.record.pendingPermissionMode = some permissionMode)
    (hfind : ∀ id, children'.taskConfigurationState.find? id =
      if id = taskId then
        some ⟨taskId, .applied sequence model effort permissionMode⟩
      else children.taskConfigurationState.find? id)
    (hrest : children' = { children with
      taskConfigurationState := children'.taskConfigurationState }) :
    ChildWrite children taskId sequence (.configurationApplied controlId) children'
  | controlRequested {controlId : String} {kind : TaskControlKind}
    {markers : Table fun row : TaskControlMarkerRow =>
      (row.taskId, row.controlId)}
    (hinsert : children.taskControlMarkers.insert
      ⟨taskId, controlId, kind, sequence⟩ = some markers) :
    ChildWrite children taskId sequence (.controlRequested controlId kind)
      { children with taskControlMarkers := markers }
  | operationIntentRecorded {operationId : OperationId} {epochId : EpochId}
    {itemId : String} {effectClass : EffectClass} {requestDigest : String}
    {operations : Table TaskOperationRow.id}
    (hinsert : children.taskOperations.insert
      ⟨operationId, taskId, epochId, itemId, effectClass, requestDigest,
        .intentRecorded, sequence, sequence, []⟩ = some operations) :
    ChildWrite children taskId sequence
      (.operationIntentRecorded operationId epochId itemId effectClass requestDigest)
      { children with taskOperations := operations }
  | operationTransitioned {operationId : OperationId}
    {source target : OperationStatus} {evidenceSequences : List Nat}
    {operations : Table TaskOperationRow.id}
    (hupdate : children.taskOperations.update operationId
      (fun row => decide (row.taskId = taskId ∧ row.status = source))
      (fun row => { row with
        status := target, lastTransitionSequence := sequence, evidenceSequences }) (fun _ => rfl) =
        some operations) :
    ChildWrite children taskId sequence
      (.operationTransitioned operationId source target evidenceSequences)
      { children with taskOperations := operations }
  | checkpointCommitted {checkpointId : CheckpointId} {digest : String}
    {checkpoints : Table TaskCheckpointRow.id}
    (hinsert : children.taskCheckpoints.insert
      ⟨checkpointId, taskId, digest, sequence, none⟩ = some checkpoints) :
    ChildWrite children taskId sequence (.checkpointCommitted checkpointId digest)
      { children with taskCheckpoints := checkpoints }
  | compactionMatched {generation : Nat} {checkpointId : CheckpointId}
    {contextPackageId : ContextPackageId}
    (hstored : (children.taskContextPackages.find? contextPackageId).isSome) :
    ChildWrite children taskId sequence
      (.compactionCompleted generation checkpointId contextPackageId)
      children
  | compactionCompleted {generation : Nat} {checkpointId : CheckpointId}
    {contextPackageId : ContextPackageId}
    {packages : Table TaskContextPackageRow.id}
    (hinsert : children.taskContextPackages.insert
      ⟨contextPackageId, taskId, checkpointId, generation, sequence, none⟩ = some packages)
    (hcheckpoint : (children.taskCheckpoints.find? checkpointId).any
      (fun row => decide (row.taskId = taskId)) = true) :
    ChildWrite children taskId sequence
      (.compactionCompleted generation checkpointId contextPackageId)
      { children with taskContextPackages := packages }
  | steeringQueued {steeringSequence : Nat} {textDigest : String} {children' : ChildTables}
    (hrest : children' = { children with taskSteering := children'.taskSteering }) :
    ChildWrite children taskId sequence (.steeringQueued steeringSequence textDigest) children'

theorem childTables_apply_write {children children' : ChildTables}
    (h : children.apply taskId sequence event = .ok children') :
    ChildWrite children taskId sequence event children' := by
  cases event
  case epochStarted =>
    obtain ⟨taskEpochs, hinsert, -, rfl⟩ := startEpoch_eq_ok.mp h
    exact .epochStarted hinsert
  case epochFinished => exact .epochClosed rfl h rfl
  case epochInterrupted =>
    simp only [apply, interruptEpoch, ok_iff] at h
    obtain ⟨closed, hclose, interruptions, -, rfl⟩ := h
    exact .epochClosed rfl hclose rfl
  case configurationQueued =>
    simp only [apply, queueConfiguration, ok_iff, requireProjectionChange_eq_ok] at h
    obtain ⟨stored, hstored, -, configurations, hupdate, _, -, _, -, rfl⟩ := h
    obtain rfl : stored.taskId = taskId := Table.key_of_find? hstored
    refine .configurationQueued hstored ?_ rfl
    intro id
    rw [Table.find?_update hupdate, hstored]
    rfl
  case configurationApplied =>
    simp only [apply, applyConfiguration, ok_iff,
      requireProjectionChange_eq_ok, Option.filter_eq_some_iff, decide_eq_true_eq] at h
    obtain ⟨stored, ⟨hstored, hcontrol⟩, model, hmodel, effort, heffort, mode,
      hmode, configurations, hupdate, rfl⟩ := h
    obtain rfl : stored.taskId = taskId := Table.key_of_find? hstored
    refine .configurationApplied hstored hcontrol hmodel heffort hmode ?_ rfl
    intro id
    rw [Table.find?_update hupdate, hstored]
    rfl
  case controlRequested =>
    simp only [apply, insertControlMarker, ok_iff, insertRow_eq_ok] at h
    obtain ⟨markers, hinsert, _, -, rfl⟩ := h
    exact .controlRequested hinsert
  case operationIntentRecorded =>
    simp only [apply, insertOperation, ok_iff, insertRow_eq_ok] at h
    obtain ⟨operations, hinsert, _, -, _, -, rfl⟩ := h
    exact .operationIntentRecorded hinsert
  case operationTransitioned =>
    obtain ⟨operations, row, hupdate, -, -, rfl⟩ := transitionOperation_eq_ok.mp h
    exact .operationTransitioned hupdate
  case checkpointCommitted =>
    simp only [apply, insertCheckpoint, ok_iff, insertRow_eq_ok] at h
    obtain ⟨checkpoints, hinsert, _, -, rfl⟩ := h
    exact .checkpointCommitted hinsert
  case compactionCompleted generation checkpointId packageId =>
    simp only [apply, completeCompaction] at h
    cases hfind : children.taskContextPackages.find? packageId with
    | some stored =>
      simp only [hfind, ok_iff] at h
      obtain ⟨_, -, rfl⟩ := h
      exact .compactionMatched (by simp [hfind])
    | none =>
      simp only [hfind, insertContextPackage, ok_iff, insertRow_eq_ok, exists_const, not_not] at h
      obtain ⟨packages, hinsert, _, -, _, -, hcheckpoint, rfl⟩ := h
      exact .compactionCompleted hinsert hcheckpoint
  case steeringQueued =>
    simp only [apply, insertSteering, ok_iff] at h
    obtain ⟨_, -, steering, -, _, -, rfl⟩ := h
    exact .steeringQueued rfl
  all_goals
    cases h
    exact .childless rfl

end CarlAgent.Storage
