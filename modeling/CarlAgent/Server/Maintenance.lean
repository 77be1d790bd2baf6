import CarlAgent.Foundation.Service
import CarlAgent.Task.Types

/-!
# Maintenance of the task actor

The actor runs one task after another and claims each start from the state it
shares with the connections.  Maintenance and shutdown stop later starts;
maintenance is ready once the task that was active has ended.
-/

namespace CarlAgent.Server

open Foundation CarlAgent.Task

inductive MaintenancePhase where
  | running
  | draining
  | ready
  deriving DecidableEq, Repr

def MaintenancePhase.rank : MaintenancePhase → Nat
  | running => 0
  | draining => 1
  | ready => 2

structure TaskActorOwner where
  activeTask : Option TaskId
  phase : MaintenancePhase
  maintenanceTask : Option TaskId
  maintenanceCheckpoint : Option CheckpointId
  maintenanceIdempotencyKey : Option String
  emergencyRequested : Bool
  emergencyTarget : Option TaskId

def TaskActorOwner.initial : TaskActorOwner :=
  ⟨none, .running, none, none, none, false, none⟩

structure ServiceMaintenanceStatus where
  schemaVersion : Nat
  phase : MaintenancePhase
  taskId : Option TaskId
  checkpointId : Option CheckpointId

/-- The check of a status that a client has decoded. -/
def ServiceMaintenanceStatus.tryFrom (status : ServiceMaintenanceStatus) :
    Except String ServiceMaintenanceStatus :=
  let valid := status.schemaVersion == 1 &&
    match status.phase with
    | .running => status.checkpointId.isNone
    | .draining => status.taskId.isSome && status.checkpointId.isNone
    | .ready => status.taskId.isSome == status.checkpointId.isSome
  if valid then .ok status else .error "invalid service maintenance status"

namespace TaskActorOwner

variable (owner : TaskActorOwner)

def startsStopped : Bool :=
  owner.phase != .running || owner.emergencyRequested

def claimStart (taskId : TaskId) : TaskActorOwner × Bool :=
  if owner.startsStopped then (owner, false)
  else ({ owner with activeTask := some taskId }, true)

def publishShutdown : TaskActorOwner × Option TaskId :=
  let target := owner.emergencyTarget.or owner.activeTask
  ({ owner with emergencyRequested := true, emergencyTarget := target }, target)

def maintenanceStatus : ServiceMaintenanceStatus where
  schemaVersion := 1
  phase := owner.phase
  taskId := match owner.phase with
    | .running => owner.activeTask
    | .draining | .ready => owner.maintenanceTask
  checkpointId := owner.maintenanceCheckpoint

def beginMaintenance (idempotencyKey : Option String) : TaskActorOwner :=
  if owner.phase = .running then
    let owner := { owner with maintenanceIdempotencyKey := idempotencyKey }
    match owner.activeTask with
    | some taskId =>
      { owner with
        phase := .draining, maintenanceTask := some taskId, maintenanceCheckpoint := none }
    | none => { owner with phase := .ready }
  else owner

def clearActive (taskId : TaskId)
    (latestCheckpoint : Option CheckpointId) : TaskActorOwner × Bool :=
  let owner :=
    if owner.activeTask = some taskId then { owner with activeTask := none }
    else owner
  if owner.phase = .draining ∧ owner.maintenanceTask = some taskId then
    let owner := { owner with phase := .ready }
    if latestCheckpoint.isSome then
      ({ owner with maintenanceCheckpoint := latestCheckpoint }, true)
    else ({ owner with maintenanceTask := none }, true)
  else (owner, false)

end TaskActorOwner

open TaskActorOwner

structure TaskActor where
  owner : TaskActorOwner
  /-- The task whose start the actor has claimed and not yet cleared. -/
  running : Option TaskId

def TaskActor.initial : TaskActor := ⟨.initial, none⟩

/-- The actor claims a start only between two tasks.  At the end of a task it
has a snapshot unless the store fails. -/
inductive ActorCall where
  | claimStart (taskId : TaskId)
  | taskEnded (snapshot : Option (Option CheckpointId))
  | beginMaintenance (idempotencyKey : Option String)
  | publishShutdown
  | status

inductive ActorAnswer where
  | claimed (granted : Bool)
  | ended
  | target (taskId : Option TaskId)
  | reported (status : ServiceMaintenanceStatus)

def TaskActor.step (actor : TaskActor) : ActorCall → TaskActor × ActorAnswer
  | .claimStart taskId =>
    match actor.running with
    | some _ => (actor, .claimed false)
    | none =>
      match actor.owner.claimStart taskId with
      | (owner, true) => (⟨owner, some taskId⟩, .claimed true)
      | (owner, false) => (⟨owner, none⟩, .claimed false)
  | .taskEnded snapshot =>
    match actor.running, snapshot with
    | some taskId, some latestCheckpoint =>
      (⟨(actor.owner.clearActive taskId latestCheckpoint).1, none⟩, .ended)
    | _, _ => ({ actor with running := none }, .ended)
  | .beginMaintenance idempotencyKey =>
    let owner := actor.owner.beginMaintenance idempotencyKey
    ({ actor with owner }, .reported owner.maintenanceStatus)
  | .publishShutdown =>
    let (owner, target) := actor.owner.publishShutdown
    ({ actor with owner }, .target target)
  | .status => (actor, .reported actor.owner.maintenanceStatus)

def taskActor : Service TaskActor ActorCall ActorAnswer := ⟨TaskActor.step⟩

def ActorCall.stopsStarts : ActorCall → Bool
  | .beginMaintenance _ | .publishShutdown => true
  | _ => false

/-! ## What every call keeps -/

def TaskActorOwner.Consistent (owner : TaskActorOwner) : Prop :=
  match owner.phase with
  | .running =>
    owner.maintenanceTask = none ∧ owner.maintenanceCheckpoint = none
  | .draining =>
    owner.maintenanceTask.isSome ∧ owner.maintenanceCheckpoint = none
  | .ready =>
    owner.maintenanceTask.isSome = owner.maintenanceCheckpoint.isSome

structure TaskActor.Sound (actor : TaskActor) : Prop where
  consistent : actor.owner.Consistent
  active : ∀ taskId, actor.running = some taskId → actor.owner.activeTask = some taskId
  ready : actor.owner.phase = .ready → actor.running = none

variable {call : ActorCall} {actor : TaskActor}

theorem TaskActorOwner.Consistent.tryFrom {owner : TaskActorOwner} (h : owner.Consistent) :
    owner.maintenanceStatus.tryFrom = .ok owner.maintenanceStatus := by
  unfold Consistent at h
  cases hphase : owner.phase with
  | running =>
    simp only [hphase] at h
    simp [ServiceMaintenanceStatus.tryFrom, maintenanceStatus, hphase, h.2]
  | draining =>
    simp only [hphase] at h
    simp [ServiceMaintenanceStatus.tryFrom, maintenanceStatus, hphase, h.1, h.2]
  | ready =>
    simp only [hphase] at h
    simp [ServiceMaintenanceStatus.tryFrom, maintenanceStatus, hphase, h]

theorem TaskActor.Sound.claimStart (h : actor.Sound) (taskId : TaskId) :
    (actor.step (.claimStart taskId)).1.Sound := by
  unfold step
  cases hrunning : actor.running with
  | some other => exact h
  | none =>
    dsimp only
    unfold TaskActorOwner.claimStart
    by_cases hstopped : actor.owner.startsStopped
    · rw [if_pos hstopped]
      exact ⟨h.consistent, by simp, fun _ => rfl⟩
    · rw [if_neg hstopped]
      have hphase : actor.owner.phase = .running := by
        simp [TaskActorOwner.startsStopped] at hstopped
        exact hstopped.1
      refine ⟨h.consistent, fun other hother => hother, ?_⟩
      intro hready
      rw [hphase] at hready
      cases hready

theorem TaskActorOwner.clearActive_cases (owner : TaskActorOwner) (taskId : TaskId)
    (latestCheckpoint : Option CheckpointId) :
    (∃ active, (owner.clearActive taskId latestCheckpoint).1 =
      { owner with activeTask := active }) ∨
    owner.phase = .draining ∧
      (owner.clearActive taskId latestCheckpoint).1.phase = .ready ∧
      (owner.Consistent → (owner.clearActive taskId latestCheckpoint).1.Consistent) := by
  unfold clearActive
  generalize hcleared : (if owner.activeTask = some taskId then
    { owner with activeTask := none } else owner) = cleared
  obtain ⟨active, rfl⟩ : ∃ active, cleared = { owner with activeTask := active } := by
    split at hcleared
    · exact ⟨none, hcleared.symm⟩
    · exact ⟨owner.activeTask, hcleared.symm⟩
  dsimp only
  split
  · rename_i hdrained
    right
    refine ⟨hdrained.1, by split <;> rfl, ?_⟩
    intro hconsistent
    simp only [Consistent, hdrained.1] at hconsistent
    cases latestCheckpoint with
    | none => simp [Consistent, hconsistent.2]
    | some checkpoint => simp [Consistent, hdrained.2]
  · left
    exact ⟨active, rfl⟩

theorem TaskActor.Sound.taskEnded (h : actor.Sound) (snapshot : Option (Option CheckpointId)) :
    (actor.step (.taskEnded snapshot)).1.Sound := by
  simp only [step]
  split
  · rename_i taskId latestCheckpoint hrunning
    refine ⟨?_, by simp, fun _ => rfl⟩
    obtain ⟨active, hsame⟩ | ⟨-, -, hready⟩ := actor.owner.clearActive_cases taskId latestCheckpoint
    · rw [hsame]
      exact h.consistent
    · exact hready h.consistent
  · exact ⟨h.consistent, by simp, fun _ => rfl⟩

theorem TaskActor.Sound.beginMaintenance (h : actor.Sound) (idempotencyKey : Option String) :
    (actor.step (.beginMaintenance idempotencyKey)).1.Sound := by
  have hconsistent := h.consistent
  simp only [step, TaskActorOwner.beginMaintenance]
  split
  · rename_i hphase
    simp only [TaskActorOwner.Consistent, hphase] at hconsistent
    cases hactive : actor.owner.activeTask with
    | some taskId =>
      refine ⟨by simp [TaskActorOwner.Consistent], ?_, by simp⟩
      intro other hother
      simpa [hactive] using h.active other hother
    | none =>
      have hidle : actor.running = none := by
        cases hrunning : actor.running with
        | none => rfl
        | some taskId =>
          have := h.active taskId hrunning
          rw [hactive] at this
          cases this
      refine ⟨?_, by simp [hidle], fun _ => hidle⟩
      simp [TaskActorOwner.Consistent, hconsistent.1, hconsistent.2]
  · exact h

theorem TaskActor.Sound.step (h : actor.Sound) (call : ActorCall) : (actor.step call).1.Sound := by
  cases call with
  | claimStart taskId => exact h.claimStart taskId
  | taskEnded snapshot => exact h.taskEnded snapshot
  | beginMaintenance idempotencyKey => exact h.beginMaintenance idempotencyKey
  | publishShutdown => exact ⟨h.consistent, h.active, h.ready⟩
  | status => exact h

theorem TaskActor.step_reported {status : ServiceMaintenanceStatus}
    (h : (actor.step call).2 = .reported status) :
    status = (actor.step call).1.owner.maintenanceStatus := by
  cases call with
  | claimStart taskId =>
    simp only [step] at h
    split at h
    · cases h
    · split at h <;> cases h
  | taskEnded snapshot =>
    simp only [step] at h
    split at h <;> cases h
  | beginMaintenance idempotencyKey =>
    cases h
    rfl
  | publishShutdown => cases h
  | status =>
    cases h
    rfl

theorem TaskActor.step_monotone (actor : TaskActor) (call : ActorCall) :
    actor.owner.phase.rank ≤ (actor.step call).1.owner.phase.rank ∧
      (actor.owner.startsStopped → (actor.step call).1.owner.startsStopped) := by
  cases call with
  | claimStart taskId =>
    simp only [step, claimStart]
    split
    · exact ⟨le_rfl, id⟩
    · by_cases hstopped : actor.owner.startsStopped
      · simp [hstopped]
      · simp [hstopped]
  | taskEnded snapshot =>
    simp only [step]
    split
    · rename_i taskId latestCheckpoint hrunning
      obtain ⟨active, hsame⟩ | ⟨hdraining, hready, -⟩ :=
        actor.owner.clearActive_cases taskId latestCheckpoint
      · rw [hsame]
        exact ⟨le_rfl, id⟩
      · rw [hdraining, hready]
        refine ⟨by decide, ?_⟩
        simp [startsStopped, hready]
    · exact ⟨le_rfl, id⟩
  | beginMaintenance idempotencyKey =>
    simp only [step, beginMaintenance]
    split
    · rename_i hphase
      rw [hphase]
      cases actor.owner.activeTask <;> exact ⟨Nat.zero_le _, fun _ => rfl⟩
    · exact ⟨le_rfl, id⟩
  | publishShutdown =>
    exact ⟨le_rfl, fun _ => by
      simp [step, publishShutdown, startsStopped]⟩
  | status => exact ⟨le_rfl, id⟩

theorem TaskActor.step_stops (h : call.stopsStarts) : (actor.step call).1.owner.startsStopped := by
  cases call with
  | beginMaintenance idempotencyKey =>
    simp only [step, beginMaintenance]
    split
    · cases actor.owner.activeTask <;> rfl
    · rename_i hphase
      simp [startsStopped, hphase]
  | publishShutdown =>
    simp [step, publishShutdown, startsStopped]
  | _ => cases h

theorem taskActor_run_stopped {calls : List ActorCall} (h : ∃ call ∈ calls, call.stopsStarts) :
    (taskActor.run actor calls).owner.startsStopped := by
  induction calls generalizing actor with
  | nil => simp at h
  | cons call calls ih =>
    obtain ⟨stop, hmem, hstop⟩ := h
    rw [Service.run]
    rcases List.mem_cons.mp hmem with rfl | hmem
    · have hnext := @TaskActor.step_stops stop actor hstop
      exact taskActor.run_invariant (P := fun actor => actor.owner.startsStopped)
        (fun actor call => (actor.step_monotone call).2) hnext
    · exact ih ⟨stop, hmem, hstop⟩

/-- In every order of calls, no start is granted after maintenance or shutdown
has begun, the phases only go forward, and each reported status passes the
client's check and is ready only while no task runs. -/
theorem taskActor_maintenance (calls : List ActorCall) :
    (∀ before taskId after, calls = before ++ .claimStart taskId :: after →
      (∃ call ∈ before, call.stopsStarts) →
        (taskActor.step (taskActor.run .initial before) (.claimStart taskId)).2 = .claimed false) ∧
    (∀ before after, calls = before ++ after → (taskActor.run .initial before).owner.phase.rank ≤
        (taskActor.run .initial calls).owner.phase.rank) ∧
    ∀ entry ∈ taskActor.log .initial calls, ∀ status, entry.answer = .reported status →
        status.tryFrom = .ok status ∧ (status.phase = .ready → entry.after.running = none) := by
  refine ⟨?_, ?_, ?_⟩
  · rintro before taskId after - hstop
    have hstopped := @taskActor_run_stopped .initial before hstop
    simp only [taskActor, TaskActor.step, claimStart]
    simp only [taskActor] at hstopped
    split
    · rfl
    · rw [hstopped]
      rfl
  · rintro before after rfl
    rw [taskActor.run_append]
    exact taskActor.run_invariant
      (P := fun actor => (taskActor.run .initial before).owner.phase.rank ≤ actor.owner.phase.rank)
      (fun actor call h => h.trans (actor.step_monotone call).1) le_rfl
  · intro entry hentry status hstatus
    obtain ⟨before, call, after, -, rfl⟩ := Service.mem_log.mp hentry
    have hinitial : TaskActor.initial.Sound :=
      ⟨⟨rfl, rfl⟩, by simp [TaskActor.initial], fun _ => rfl⟩
    have hbefore : (taskActor.run .initial before).Sound :=
      taskActor.run_invariant (fun actor call h => h.step call) hinitial
    have hafter := hbefore.step call
    rw [TaskActor.step_reported hstatus]
    exact ⟨hafter.consistent.tryFrom, hafter.ready⟩

end CarlAgent.Server
