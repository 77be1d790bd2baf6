import CarlAgent.Storage.Acceptance

/-!
# Starting an epoch

The reducer ties the next epoch of a task to its pending recovery attempt, and
the epoch table takes every identifier once.  As long as no task is left
waiting for an identifier that is already used, a waiting task can start an
epoch.
-/

namespace CarlAgent.Task

open Foundation

def TaskSnapshot.pendingEpoch (state : TaskSnapshot) : Option EpochId :=
  state.pendingRecovery.map (·.1)

def TaskSnapshot.awaitsEpoch (state : TaskSnapshot) : Bool :=
  decide (state.status = .active ∧ state.activeEpoch = none)

/-- Events after which a task may wait for an epoch that it did not wait for
before. -/
def TaskSnapshot.freesEpoch (state : TaskSnapshot) : TaskEvent → Bool
  | .epochFinished _ _ => decide (state.status = .active)
  | .epochInterrupted _ _ => decide (state.status = .active)
  | .stateTransitioned _ target _ =>
    decide (target = .active ∧ state.activeEpoch = none)
  | _ => false

def startedEpoch : TaskEvent → Option EpochId
  | .epochStarted epochId _ => some epochId
  | _ => none

theorem Effect.awaitsEpoch {state next : TaskSnapshot} {sequence : Nat} {event : TaskEvent}
    (h : Effect state sequence event next) (hawaits : next.awaitsEpoch = true) :
    startedEpoch event = none ∧
      (next.pendingEpoch = none ∨ next.pendingEpoch = state.pendingEpoch) ∧
      (state.awaitsEpoch = true ∨ state.freesEpoch event = true) := by
  simp only [TaskSnapshot.awaitsEpoch, decide_eq_true_eq] at hawaits ⊢
  obtain ⟨hactive, hidle⟩ := hawaits
  cases h with
  | stateTransitioned _ _ _ =>
    exact ⟨rfl, .inr rfl, .inr (by simpa [TaskSnapshot.freesEpoch] using ⟨hactive, hidle⟩)⟩
  | epochStarted _ _ _ => cases hidle
  | @epochClosed event _ hevent _ _ =>
    refine ⟨?_, .inr rfl, .inr ?_⟩
    · cases event <;> first | rfl | cases hevent
    · cases event <;> first | exact decide_eq_true hactive | cases hevent
  | @recordOnly event hevent | @observed event _ hevent _ =>
    refine ⟨?_, .inr rfl, .inl ⟨hactive, hidle⟩⟩
    cases event <;> first | rfl | cases hevent
  | recoveryAttemptStarted hstatus _ =>
    rw [hstatus] at hactive
    cases hactive
  | recoveryAttemptRecorded _ _ =>
    exact ⟨rfl, .inl rfl, .inl ⟨hactive, hidle⟩⟩
  | cancellationRequested _ | blocked _ | completed _ _ _ => cases hactive
  | _ => exact ⟨rfl, .inr rfl, .inl ⟨hactive, hidle⟩⟩

end CarlAgent.Task

namespace CarlAgent.Storage

open Foundation CarlAgent.Task World

variable {sha256 : Sha256}

def ChildTables.PendingUnused (children : ChildTables) (snapshot : TaskSnapshot) : Prop :=
  ∀ epochId ∈ snapshot.pendingEpoch, children.taskEpochs.find? epochId = none

instance (children : ChildTables) (snapshot : TaskSnapshot) :
    Decidable (children.PendingUnused snapshot) :=
  inferInstanceAs (Decidable (∀ epochId ∈ snapshot.pendingEpoch,
    children.taskEpochs.find? epochId = none))

/-- An event frees the epoch of its task only when the pending identifier is
unused, and does not use the identifier another task waits for. -/
def Db.KeepsPendingUnused (db : Db) (taskId : TaskId) (event : TaskEvent) : Prop :=
  (∀ row ∈ db.agentTasks.find? taskId, row.snapshot.freesEpoch event = true →
    db.children.PendingUnused row.snapshot) ∧
  ∀ epochId ∈ startedEpoch event, ∀ row ∈ db.agentTasks.rows,
    row.id ≠ taskId → row.snapshot.awaitsEpoch = true → row.snapshot.pendingEpoch ≠ some epochId

instance (db : Db) (taskId : TaskId) (event : TaskEvent) :
    Decidable (db.KeepsPendingUnused taskId event) :=
  inferInstanceAs (Decidable (_ ∧ _))

theorem Db.keepsPendingUnused_of_store (db : Db) (taskId : TaskId) (event : TaskEvent)
    (h : isStoreEvent event = true) : db.KeepsPendingUnused taskId event := by
  have hfrees : ∀ state : TaskSnapshot, state.freesEpoch event = false := by
    intro state
    cases event <;> first | rfl | cases h
  have hstarts : startedEpoch event = none := by
    cases event <;> first | rfl | cases h
  refine ⟨?_, ?_⟩
  · intro row _ hfreed
    rw [hfrees] at hfreed
    cases hfreed
  · intro epochId hepoch
    rw [hstarts] at hepoch
    cases hepoch

def Db.PendingUnused (db : Db) : Prop :=
  ∀ taskId row, db.agentTasks.find? taskId = some row →
    row.snapshot.awaitsEpoch = true → db.children.PendingUnused row.snapshot

variable {taskId : TaskId} {row : AgentTaskRow} {session : SessionRow}

theorem ChildrenChange.epoch_unused {children children' : ChildTables} {sequence : Nat}
    {event : TaskEvent} {epochId : EpochId}
    (h : ChildrenChange children taskId sequence event children')
    (hother : startedEpoch event ≠ some epochId) :
    children'.taskEpochs.find? epochId = none ↔ children.taskEpochs.find? epochId = none := by
  cases h with
  | canonical input _ _ hinsert =>
    obtain ⟨_, _, -, -, rfl⟩ := insertCanonical_writes hinsert
    rfl
  | event happly =>
    cases childTables_apply_write happly with
    | epochStarted hinsert =>
      have hne : epochId ≠ _ := fun heq => hother (congrArg some heq.symm)
      rw [Table.find?_insert hinsert, if_neg hne]
    | epochClosed _ hclose hrest =>
      obtain ⟨taskEpochs, row, hupdate, hrow, -, rfl⟩ := closeEpoch_eq_ok.mp hclose
      rw [hrest]
      simp only
      rw [Table.find?_update hupdate, hrow]
      split
      · rename_i heq
        rw [heq, hrow]
        simp
      · rfl
    | configurationQueued _ _ hrest | configurationApplied _ _ _ _ _ _ hrest
    | steeringQueued hrest => rw [hrest]
    | _ => rfl

theorem TaskAppend.pendingUnused {db db' : Db} {event : TaskEvent} {next : TaskSnapshot}
    (hdb : db.PendingUnused) (hguard : db.KeepsPendingUnused taskId event)
    (h : TaskAppend db taskId event row session next db')
    (hchildren : ChildrenChange db.children taskId session.nextSequence event db'.children) :
    db'.PendingUnused := by
  intro id found hfound hawaits epochId hepoch
  rw [h.tasks] at hfound
  split at hfound
  · cases hfound
    obtain ⟨changed, heffect, rfl⟩ := h.step.effect
    obtain ⟨hstarts, hpending, hbefore⟩ := heffect.awaitsEpoch hawaits
    have hnow : changed.pendingEpoch = some epochId := hepoch
    have hsame : row.snapshot.pendingEpoch = some epochId := by
      rcases hpending with hnone | hsame
      · rw [hnone] at hnow
        cases hnow
      · exact hsame.symm.trans hnow
    have hunused : db.children.PendingUnused row.snapshot := by
      rcases hbefore with hawaited | hfrees
      · exact hdb taskId row h.found hawaited
      · exact hguard.1 row h.found hfrees
    exact (hchildren.epoch_unused (by simp [hstarts])).mpr (hunused epochId hsame)
  · rename_i hid
    have hunused := hdb id found hfound hawaits epochId hepoch
    refine (hchildren.epoch_unused ?_).mpr hunused
    intro hstarts
    refine hguard.2 epochId hstarts found (Table.mem_of_find? hfound) ?_ hawaits hepoch
    rw [Table.key_of_find? hfound]
    exact hid

theorem World.run_pendingUnused {calls : List Call} (hmeet : initial.CallsMeet sha256
      (fun world call => call.EventMeets Db.KeepsPendingUnused world) calls) :
    (run sha256 calls).db.PendingUnused := by
  refine run_event_invariant ?_ Db.keepsPendingUnused_of_store ?_ ?_ ?_ hmeet
  · intro taskId row hrow
    cases hrow
  · intro db db' hdb hidle taskId row hrow hawaits
    rw [hidle.tasks] at hrow
    rw [hidle.children]
    exact hdb taskId row hrow hawaits
  · intro db input workspace session db' hdb hcreate taskId row hrow hawaits
    rw [hcreate.tasks] at hrow
    rw [hcreate.children]
    split at hrow
    · cases hrow
      cases hawaits
    · exact hdb taskId row hrow hawaits
  · intro db taskId event row session next db' _ hdb hguard happend hchildren
    exact happend.pendingUnused hdb hguard hchildren

/-! ## The epoch that can be started -/

theorem TaskAt.startEpoch_eq_ok {db : Db} {n : Nat} (h : TaskAt db taskId row session n)
    {epochId : EpochId} (hunused : db.children.taskEpochs.find? epochId = none)
    (objective : String) :
    ∃ children, db.children.apply taskId session.nextSequence
      (.epochStarted epochId objective) = .ok children := by
  obtain ⟨taskEpochs, hinsert⟩ := @Table.exists_insert _ _ _ _ db.children.taskEpochs
    ⟨epochId, taskId, objective, .active, session.nextSequence, none, none⟩ hunused
  refine ⟨_, Storage.startEpoch_eq_ok.mpr ⟨taskEpochs, hinsert, ?_, rfl⟩⟩
  intro stored hstored htask
  have hpast := h.regular.work.recorded.epoch stored hstored
  rw [htask] at hpast
  have hlt := h.past hpast
  omega

theorem TaskAt.accepts_epoch {db : Db} {n : Nat} (h : TaskAt db taskId row session (n + 1))
    (hactive : row.snapshot.status = .active) (hidle : row.snapshot.activeEpoch = none)
    {epochId : EpochId} (hunused : db.children.taskEpochs.find? epochId = none)
    (hpending : ∀ pending ∈ row.snapshot.pendingEpoch, pending = epochId) {objective : String}
    (hobjective : validateEventText objective = .ok ()) :
    ∃ record db', appendTaskEvent db taskId row.revision
      (.epochStarted epochId objective) = .ok (some (record, db')) := by
  obtain ⟨children, hchildren⟩ := h.startEpoch_eq_ok hunused objective
  have hvalid : (TaskEvent.epochStarted epochId objective).validate = .ok () := hobjective
  have heffect : Effect row.snapshot session.nextSequence (.epochStarted epochId objective)
      { row.snapshot with activeEpoch := some epochId } := by
    refine .epochStarted hidle hactive ?_
    intro pending hsome
    apply hpending
    simp [TaskSnapshot.pendingEpoch, hsome]
  obtain ⟨db', haccepts, -⟩ := h.accepts (by rw [hactive]; rfl) hvalid rfl heffect hchildren
  exact ⟨_, db', haccepts.call_eq⟩

/-- As long as no event leaves a task waiting for an epoch that exists already, an idle active
task can start an epoch. -/
theorem waiting_task_can_start_an_epoch (sha256 : Sha256) (calls : List Call)
    (hmeet : initial.CallsMeet sha256
      (fun world call => call.EventMeets Db.KeepsPendingUnused world) calls) (taskId : TaskId)
    (row : AgentTaskRow) (hrow : (run sha256 calls).db.agentTasks.find? taskId = some row)
    (hactive : row.snapshot.status = .active) (hidle : row.snapshot.activeEpoch = none) :
    (∀ pending ∈ row.snapshot.pendingEpoch,
      (run sha256 calls).db.children.taskEpochs.find? pending = none) ∧
    ∀ session unused, (run sha256 calls).db.sessions.find? row.sessionId = some session →
      (run sha256 calls).db.children.taskEpochs.find? unused = none →
      row.Room session 1 →
        ∃ epochId objective record db',
          appendTaskEvent (run sha256 calls).db taskId row.revision
            (.epochStarted epochId objective) = .ok (some (record, db')) := by
  have hpending := run_pendingUnused hmeet taskId row hrow
    (by simp [TaskSnapshot.awaitsEpoch, hactive, hidle])
  refine ⟨hpending, ?_⟩
  intro session unused hsession hunused hroom
  have hat : TaskAt (run sha256 calls).db taskId row session (0 + 1) :=
    ⟨run_regular calls, hrow, hsession, hroom⟩
  have hobjective : validateEventText "objective" = .ok () := by decide
  cases hepoch : row.snapshot.pendingEpoch with
  | none =>
    obtain ⟨record, db', hcall⟩ := hat.accepts_epoch hactive hidle hunused
      (by simp [hepoch]) hobjective
    exact ⟨unused, _, record, db', hcall⟩
  | some epochId =>
    obtain ⟨record, db', hcall⟩ := hat.accepts_epoch hactive hidle
      (hpending epochId hepoch) (by simp [hepoch]) hobjective
    exact ⟨epochId, _, record, db', hcall⟩

namespace Sample

open CarlAgent.Task.Sample

def announcedRecovery : List TaskEvent :=
  [activation, .stateTransitioned .active .checkpointing "c",
    .recoveryAttemptStarted epochId .reconstructFromEvidence emptyDigest.text,
    .stateTransitioned .checkpointing .active "a"]

def interruptedRecovery : List TaskEvent :=
  announcedRecovery ++ [.epochStarted epochId "o", .epochInterrupted epochId .permissionTightening]

def recoveryDb (events : List TaskEvent) : Db :=
  (run (fun _ => emptyDigest) (calls events)).db

end Sample

open Sample

def Sample.waiting (db : Db) (used : Bool) : Prop :=
  ∃ row ∈ db.agentTasks.find? Task.Sample.taskId, ∃ session ∈ db.sessions.find? row.sessionId,
      row.snapshot.status = .active ∧ row.snapshot.activeEpoch = none ∧
      row.snapshot.pendingEpoch = some Task.Sample.epochId ∧
      (db.children.taskEpochs.find? Task.Sample.epochId).isSome = used ∧
      db.children.taskEpochs.find? ⟨9⟩ = none ∧ row.Room session 1

instance (db : Db) (used : Bool) : Decidable (Sample.waiting db used) :=
  inferInstanceAs (Decidable (∃ row ∈ _, _))

theorem sample_recovery_can_start : ∃ row epochId objective record db',
      (recoveryDb announcedRecovery).agentTasks.find? Task.Sample.taskId = some row ∧
      row.snapshot.pendingEpoch = some Task.Sample.epochId ∧
      appendTaskEvent (recoveryDb announcedRecovery)
        Task.Sample.taskId row.revision (.epochStarted epochId objective) =
          .ok (some (record, db')) := by
  have hrun : initial.CallsMeet (fun _ => emptyDigest)
        (fun world call => call.EventMeets Db.KeepsPendingUnused world)
        (calls announcedRecovery) ∧
      waiting (recoveryDb announcedRecovery) false := by
    decide +kernel
  obtain ⟨hmeet, hwaiting⟩ := hrun
  rw [recoveryDb] at hwaiting ⊢
  obtain ⟨row, hrow, session, hsession, hactive, hidle, hpending, -, -, hroom⟩ := hwaiting
  obtain ⟨hunused, haccepts⟩ := waiting_task_can_start_an_epoch
    (fun _ => emptyDigest) (calls announcedRecovery) hmeet
    Task.Sample.taskId row hrow hactive hidle
  obtain ⟨epochId, objective, record, db', hcall⟩ := haccepts session
    Task.Sample.epochId hsession (hunused _ hpending) hroom
  exact ⟨row, epochId, objective, record, db', hrow, hpending, hcall⟩

/-- After the interruption the reducer asks for the epoch that the table
refuses. -/
theorem interrupted_recovery_refuses_every_epoch :
    ∃ calls taskId row session, let db := (run (fun _ => emptyDigest) calls).db
      db.agentTasks.find? taskId = some row ∧
      db.sessions.find? row.sessionId = some session ∧
      row.snapshot.status = .active ∧ row.snapshot.activeEpoch = none ∧
      row.Room session 1 ∧
      (∃ unused, db.children.taskEpochs.find? unused = none) ∧
      (∃ pending ∈ row.snapshot.pendingEpoch, db.children.taskEpochs.find? pending ≠ none) ∧
      ∀ expectedRevision epochId objective record db', appendTaskEvent db taskId expectedRevision
          (.epochStarted epochId objective) ≠ .ok (some (record, db')) := by
  have hwaiting : waiting (recoveryDb interruptedRecovery) true := by
    decide +kernel
  rw [recoveryDb] at hwaiting
  refine ⟨calls interruptedRecovery, Task.Sample.taskId, ?_⟩
  generalize (run (fun _ => emptyDigest) (calls interruptedRecovery)).db = db at hwaiting ⊢
  obtain ⟨row, hrow, session, hsession, hactive, hidle, hpending, hused, hfresh, hroom⟩ := hwaiting
  have hstored : db.children.taskEpochs.find? Task.Sample.epochId ≠ none :=
    Option.isSome_iff_ne_none.mp hused
  refine ⟨row, session, hrow, hsession, hactive, hidle, hroom, ⟨⟨9⟩, hfresh⟩,
    ⟨_, hpending, hstored⟩, ?_⟩
  intro expectedRevision epochId objective record db' hcall
  obtain ⟨found, _, _, happend, hchildren, -, -⟩ := appendTaskEvent_eq_some hcall
  have hfound := happend.found
  rw [hrow] at hfound
  cases hfound
  obtain ⟨_, heffect, -⟩ := happend.step.effect
  cases heffect with
  | epochStarted _ _ hforced =>
    obtain ⟨attempt, hattempt, hepoch⟩ := Option.map_eq_some_iff.mp hpending
    obtain ⟨_, hinsert, -, -⟩ := startEpoch_eq_ok.mp hchildren
    have hfree := (Table.insert_eq_some.mp hinsert).1
    simp only [← hforced attempt hattempt, hepoch] at hfree
    exact hstored hfree
  | epochClosed hevent _ _ | recordOnly hevent | observed hevent _ => cases hevent

end CarlAgent.Storage
