import CarlAgent.Storage.EpochStart

/-!
# Reconciling uncertain operations

Evidence and outcome of an operation are taken in its own epoch only, and an
epoch does not come back.  As long as no epoch is closed with an uncertain
operation, every uncertain operation can be reconciled and every task that has
not ended can be cancelled.
-/

namespace CarlAgent.Task

open Foundation

def TaskSnapshot.UnresolvedInEpoch (state : TaskSnapshot) : Prop :=
  state.InEpoch fun status => !status.isResolved

def TaskSnapshot.unresolvedCount (state : TaskSnapshot) : Nat :=
  (state.operations.entries.map fun entry =>
    if entry.2.status.isResolved then 0 else 1).sum

theorem isResolved_of_outcome {status : OperationStatus} (hflight : status.isInFlight = false)
    (hcertain : status ≠ .uncertain) : status.isResolved = true := by
  cases status <;> first | rfl | exact absurd rfl hcertain | cases hflight

theorem TaskStep.unresolvedInEpoch {state next : TaskSnapshot} {sequence : Nat} {event : TaskEvent}
    (hstep : TaskStep state sequence event next) (hcertain : closedEpoch event ≠ none →
      ∀ operation ∈ state.operations.values, operation.status ≠ .uncertain)
    (h : state.UnresolvedInEpoch) : next.UnresolvedInEpoch := by
  have hchange := hstep.operationsChange
  obtain ⟨changed, heffect, rfl⟩ := hstep.effect
  cases heffect with
  | epochStarted hidle _ _ =>
    exact TaskSnapshot.InEpoch.of_none (h.none_of_idle hidle) rfl
  | epochClosed hevent _ hflight =>
    have hnone : ∀ operationId operation, state.operations.find? operationId = some operation →
          (!operation.status.isResolved) = false := by
      intro operationId operation hfind
      have hresolved := isResolved_of_outcome
        (hasInFlightOperations_eq_false.mp hflight operationId operation hfind)
        (hcertain (by simp [hevent]) operation (OrderedMap.mem_values_iff.mpr ⟨operationId, hfind⟩))
      simp [hresolved]
    exact TaskSnapshot.InEpoch.of_none hnone rfl
  | _ => exact hchange.inEpoch rfl h

theorem Effect.cancelled_boundary {state next : TaskSnapshot} {sequence : Nat} {event : TaskEvent}
    (h : Effect state sequence event next) (hcancelled : next.status = .cancelled) :
    state.status = .cancelled ∨ SafeBoundary state := by
  cases h with
  | stateTransitioned hboundary _ _ => exact .inr (hboundary hcancelled)
  | cancellationRequested _ | blocked _ | completed _ _ _ => cases hcancelled
  | _ => exact .inl hcancelled

end CarlAgent.Task

namespace CarlAgent.Storage

open Foundation CarlAgent.Task OrderedMap World

variable {sha256 : Sha256}

/-- An event closes an epoch only when no operation of the task is
uncertain. -/
def Db.ClosesCertain (db : Db) (taskId : TaskId) (event : TaskEvent) : Prop :=
  ∀ row ∈ db.agentTasks.find? taskId, closedEpoch event ≠ none →
    ∀ operation ∈ row.snapshot.operations.values, operation.status ≠ .uncertain

instance (db : Db) (taskId : TaskId) (event : TaskEvent) :
    Decidable (db.ClosesCertain taskId event) :=
  inferInstanceAs (Decidable (∀ row ∈ db.agentTasks.find? taskId, _))

theorem Db.closesCertain_of_store (db : Db) (taskId : TaskId) (event : TaskEvent)
    (h : isStoreEvent event = true) : db.ClosesCertain taskId event := by
  have hnone : closedEpoch event = none := by
    cases event <;> first | rfl | cases h
  intro row _ hclosed
  exact absurd hnone hclosed

def Db.UnresolvedInEpoch (db : Db) : Prop :=
  ∀ taskId row, db.agentTasks.find? taskId = some row → row.snapshot.UnresolvedInEpoch

theorem World.run_unresolvedInEpoch {calls : List Call} (hmeet : initial.CallsMeet sha256
      (fun world call => call.EventMeets Db.ClosesCertain world) calls) :
    (run sha256 calls).db.UnresolvedInEpoch := by
  refine run_event_invariant ?_ Db.closesCertain_of_store ?_ ?_ ?_ hmeet
  · intro taskId row hrow
    cases hrow
  · intro db db' hdb hidle taskId row hrow
    rw [hidle.tasks] at hrow
    exact hdb taskId row hrow
  · intro db input workspace session db' hdb hcreate taskId row hrow
    rw [hcreate.tasks] at hrow
    split at hrow
    · cases hrow
      intro operationId operation hfind
      cases hfind
    · exact hdb taskId row hrow
  · intro db taskId event row session next db' _ hdb hguard happend _ id found hfound
    rw [happend.tasks] at hfound
    split at hfound
    · cases hfound
      exact happend.step.unresolvedInEpoch (hguard row happend.found) (hdb taskId row happend.found)
    · exact hdb id found hfound

/-- Events of one task that the store accepts one after the other. -/
inductive AcceptsAll (taskId : TaskId) : Db → List TaskEvent → Db → Prop
  | nil (db : Db) : AcceptsAll taskId db [] db
  | cons {db mid db' : Db} {event : TaskEvent} {rest : List TaskEvent}
    {expectedRevision : Nat} {record : TaskRecord}
    (hcall : appendTaskEvent db taskId expectedRevision event = .ok (some (record, mid)))
    (hrest : AcceptsAll taskId mid rest db') :
    AcceptsAll taskId db (event :: rest) db'

theorem AcceptsAll.append {taskId : TaskId} {db mid db' : Db} {first second : List TaskEvent}
    (h₁ : AcceptsAll taskId db first mid) (h₂ : AcceptsAll taskId mid second db') :
    AcceptsAll taskId db (first ++ second) db' := by
  induction h₁ with
  | nil => exact h₂
  | cons hcall _ ih => exact .cons hcall (ih h₂)

variable {session : SessionRow} {n m : Nat} {next : TaskSnapshot} {row : AgentTaskRow}

theorem Accepts.acceptsAll {db db' : Db} {taskId : TaskId} {event : TaskEvent}
    (h : Accepts db taskId row session event next db') : AcceptsAll taskId db [event] db' :=
  .cons h.call_eq (.nil db')

theorem Settles.acceptsAll {db mid db' : Db} {taskId : TaskId}
    {operationId : OperationId} {operation : OperationSnapshot}
    {resultDigest : String} {target : OperationStatus}
    (h : Settles db taskId row session operationId operation resultDigest target mid next db') :
    ∃ events, AcceptsAll taskId db events db' :=
  ⟨_, h.first.acceptsAll.append h.second.acceptsAll⟩

/-- Accepted events lead to a task with room for `n` more. -/
def Leads (db : Db) (taskId : TaskId) (n : Nat) (P : TaskSnapshot → Prop) : Prop :=
  ∃ events db' row session, AcceptsAll taskId db events db' ∧
    TaskAt db' taskId row session n ∧ P row.snapshot

theorem TaskAt.mono {db : Db} {taskId : TaskId}
    (h : TaskAt db taskId row session m) (hle : n ≤ m) : TaskAt db taskId row session n := by
  refine ⟨h.regular, h.found, h.inSession, ?_⟩
  obtain ⟨hsequence, hrevision, hsnapshot⟩ := h.room
  have hbytes : eventBytes * n ≤ eventBytes * m := Nat.mul_le_mul_left _ hle
  refine ⟨?_, ?_, ?_⟩ <;> omega

theorem Leads.trans {db : Db} {taskId : TaskId} {P Q : TaskSnapshot → Prop}
    (h : Leads db taskId m P) (hnext : ∀ db' row session, TaskAt db' taskId row session m →
      P row.snapshot → Leads db' taskId n Q) : Leads db taskId n Q := by
  obtain ⟨first, mid, row, session, hfirst, hat, hP⟩ := h
  obtain ⟨second, db', row', session', hsecond, hat', hQ⟩ := hnext mid row session hat hP
  exact ⟨first ++ second, db', row', session', hfirst.append hsecond, hat', hQ⟩

theorem TaskAt.stays {db : Db} {taskId : TaskId}
    {P : TaskSnapshot → Prop} (h : TaskAt db taskId row session m) (hle : n ≤ m)
    (hP : P row.snapshot) : Leads db taskId n P :=
  ⟨[], db, row, session, .nil db, h.mono hle, hP⟩

section

variable {db : Db} {taskId : TaskId} {row : AgentTaskRow}
  {session : SessionRow} {n : Nat} {operationId : OperationId}
  {operation : OperationSnapshot}

/-- One operation has its outcome, and nothing else has changed. -/
structure Resolves (operationId : OperationId) (operation : OperationSnapshot)
    (outcome : OperationStatus) (state next : TaskSnapshot) : Prop where
  later : ∃ later : OperationSnapshot, later.status = outcome ∧
    later.epochId = operation.epochId ∧
    next.operations = state.operations.insert operationId later
  frame : next.status = state.status ∧ next.activeEpoch = state.activeEpoch

def anyDigest : String := "result"

theorem TaskAt.settles_to {target : OperationStatus} (h : TaskAt db taskId row session (n + 2))
    (hrunning : row.snapshot.status.isTerminal = false)
    (hoperation : ActiveOperation row.snapshot operationId operation)
    (hstatus : operation.status = .started ∨ operation.status = .uncertain)
    (hedge : legalOperationEdge operation.status target = true)
    (hterminal : target.requiresTerminalEvidence = true) :
    Leads db taskId n (Resolves operationId operation target row.snapshot) := by
  obtain ⟨mid, next, db', hsettles, hat⟩ := h.settles hrunning hoperation hstatus
    hedge hterminal (show validateEventIdentifier anyDigest = .ok () by decide)
  obtain ⟨events, hevents⟩ := hsettles.acceptsAll
  exact ⟨events, db', _, _, hevents, hat, ⟨settledOperation operation session.nextSequence target,
    rfl, rfl, rfl⟩, rfl, rfl⟩

theorem TaskAt.starts (h : TaskAt db taskId row session (n + 1))
    (hrunning : row.snapshot.status.isTerminal = false)
    (hoperation : ActiveOperation row.snapshot operationId operation)
    (hstatus : operation.status = .intentRecorded) :
    Leads db taskId n (Resolves operationId operation .started row.snapshot) := by
  have htransition : operation.evidence.transition operation.status
      operation.status .started operation.lastTransitionSequence
      session.nextSequence [] = .ok operation.evidence := by
    refine OperationEvidenceState.transition_eq_ok.mpr
      ⟨rfl, by rw [hstatus]; rfl, rfl, by simp, .inl ⟨rfl, rfl⟩⟩
  obtain ⟨db', next, haccepts, rfl, hat⟩ := h.accepts_transition hrunning
    hoperation (by simp) htransition
  exact ⟨_, db', _, _, haccepts.acceptsAll, hat, ⟨{ operation with
    status := .started, lastTransitionSequence := session.nextSequence }, rfl, rfl, rfl⟩, rfl, rfl⟩

def reachableOutcome : OperationStatus → OperationStatus
  | .uncertain => .reconciled
  | _ => .failed

theorem TaskAt.resolves (h : TaskAt db taskId row session (n + 3))
    (hrunning : row.snapshot.status.isTerminal = false)
    (hoperation : ActiveOperation row.snapshot operationId operation)
    (hopen : operation.status.isResolved = false) :
    Leads db taskId n (Resolves operationId operation
      (reachableOutcome operation.status) row.snapshot) := by
  have htwo : TaskAt db taskId row session (n + 2) := h.mono (by omega)
  cases hstatus : operation.status with
  | intentRecorded =>
    refine (h.starts hrunning hoperation hstatus).trans ?_
    rintro mid found session' hat ⟨⟨later, hlater, hepoch, hinsert⟩, hframe⟩
    have hactive : ActiveOperation found.snapshot operationId later := by
      refine ⟨?_, ?_⟩
      · rw [hinsert, find?_insert_self]
      · rw [hframe.2, hoperation.2, hepoch]
    have hedge : legalOperationEdge later.status .failed = true := by
      rw [hlater]
      rfl
    refine (hat.settles_to (by rw [hframe.1]; exact hrunning) hactive
      (.inl hlater) hedge rfl).trans ?_
    rintro db' last session'' hlast ⟨⟨final, hfinal, hsame, hagain⟩, hkept⟩
    refine hlast.stays le_rfl ⟨⟨final, hfinal, hsame.trans hepoch, ?_⟩,
      hkept.1.trans hframe.1, hkept.2.trans hframe.2⟩
    rw [hagain, hinsert, insert_insert]
  | started =>
    exact htwo.settles_to hrunning hoperation (.inl hstatus) (by rw [hstatus]; rfl) rfl
  | uncertain =>
    exact htwo.settles_to hrunning hoperation (.inr hstatus) (by rw [hstatus]; rfl) rfl
  | _ =>
    rw [hstatus] at hopen
    cases hopen

variable {state : TaskSnapshot}

variable {outcome : OperationStatus} {next : TaskSnapshot}

theorem Resolves.unresolvedCount (h : Resolves operationId operation outcome state next)
    (hfind : state.operations.find? operationId = some operation)
    (hopen : operation.status.isResolved = false) (houtcome : outcome.isResolved = true) :
    next.unresolvedCount + 1 = state.unresolvedCount := by
  obtain ⟨⟨later, hlater, -, hinsert⟩, -⟩ := h
  have hsum := sum_entries_insert_of_found hfind later
    (fun entry => if entry.2.status.isResolved then 0 else 1)
  simp only [hopen, hlater, houtcome, Bool.false_eq_true, if_true, if_false] at hsum
  simp only [TaskSnapshot.unresolvedCount, hinsert]
  omega

theorem Resolves.unresolvedInEpoch (h : Resolves operationId operation outcome state next)
    (hoperation : ActiveOperation state operationId operation)
    (hin : state.UnresolvedInEpoch) : next.UnresolvedInEpoch := by
  obtain ⟨⟨later, -, hepoch, hinsert⟩, -, hactive⟩ := h
  intro id found hfound hopen
  rw [hactive]
  rw [hinsert, find?_insert] at hfound
  split at hfound
  · cases hfound
    rw [hepoch]
    exact hoperation.2
  · exact hin id found hfound hopen

/-! ## All operations, the epoch and the task -/

/-- A snapshot without unresolved operations, in the same status and epoch. -/
structure AllResolved (state next : TaskSnapshot) : Prop where
  resolved : next.hasUnresolvedOperations = false
  frame : next.status = state.status ∧ next.activeEpoch = state.activeEpoch

theorem exists_unresolved (h : state.hasUnresolvedOperations = true) : ∃ operationId operation,
      state.operations.find? operationId = some operation ∧
        operation.status.isResolved = false := by
  simp only [TaskSnapshot.hasUnresolvedOperations, List.any_eq_true,
    Bool.not_eq_true', mem_values_iff] at h
  obtain ⟨operation, ⟨operationId, hfind⟩, hopen⟩ := h
  exact ⟨operationId, operation, hfind, hopen⟩

theorem resolved_of_unresolvedCount (h : state.unresolvedCount = 0) :
    state.hasUnresolvedOperations = false := by
  rw [hasUnresolvedOperations_eq_false]
  intro operationId operation hfind
  have hterm := List.le_sum_of_mem (List.mem_map_of_mem
    (f := fun entry : OperationId × OperationSnapshot =>
      if entry.2.status.isResolved then 0 else 1)
    (find?_eq_some_iff.mp hfind))
  cases hresolved : operation.status.isResolved with
  | true => rfl
  | false =>
    unfold TaskSnapshot.unresolvedCount at h
    simp [hresolved, h] at hterm

theorem TaskAt.resolves_all {count : Nat} (h : TaskAt db taskId row session (n + 3 * count))
    (hrunning : row.snapshot.status.isTerminal = false) (hin : row.snapshot.UnresolvedInEpoch)
    (hcount : row.snapshot.unresolvedCount = count) :
    Leads db taskId n (AllResolved row.snapshot) := by
  induction count generalizing db row session with
  | zero =>
    exact h.stays (by omega) ⟨resolved_of_unresolvedCount hcount, rfl, rfl⟩
  | succ count ih =>
    cases hopen : row.snapshot.hasUnresolvedOperations with
    | false => exact h.stays (by omega) ⟨hopen, rfl, rfl⟩
    | true =>
      obtain ⟨operationId, operation, hfind, hopen⟩ := exists_unresolved hopen
      have hactive : ActiveOperation row.snapshot operationId operation :=
        ⟨hfind, hin operationId operation hfind (by simp [hopen])⟩
      have hroom : TaskAt db taskId row session (n + 3 * count + 3) := h.mono (by omega)
      refine (hroom.resolves hrunning hactive hopen).trans ?_
      intro mid found session' hat hresolves
      have hfewer := hresolves.unresolvedCount hfind hopen (by cases operation.status <;> rfl)
      have hframe := hresolves.frame
      refine (ih hat (by rw [hframe.1]; exact hrunning)
        (hresolves.unresolvedInEpoch hactive hin) (by omega)).trans ?_
      intro db' last session'' hlast hall
      exact hlast.stays le_rfl ⟨hall.resolved, hall.frame.1.trans hframe.1,
        hall.frame.2.trans hframe.2⟩

theorem TaskAt.closes_epoch (h : TaskAt db taskId row session (n + 1))
    (hrunning : row.snapshot.status.isTerminal = false)
    (hresolved : row.snapshot.hasUnresolvedOperations = false) :
    Leads db taskId n fun next => SafeBoundary next ∧ next.status = row.snapshot.status := by
  cases hepoch : row.snapshot.activeEpoch with
  | none => exact h.stays (by omega) ⟨⟨hepoch, hresolved⟩, rfl⟩
  | some epochId =>
    have hflight : row.snapshot.hasInFlightOperations = false := by
      rw [hasInFlightOperations_eq_false]
      intro operationId operation hfind
      have hdone := hasUnresolvedOperations_eq_false.mp hresolved operationId operation hfind
      cases hstatus : operation.status <;> rw [hstatus] at hdone <;> first | rfl | cases hdone
    obtain ⟨stored, hstored, htask, hactive⟩ :=
      (h.regular.work.rows taskId row h.found).epoch epochId hepoch
    have hstarted := h.regular.work.recorded.epoch stored (Table.mem_of_find? hstored)
    rw [htask] at hstarted
    obtain ⟨taskEpochs, hupdate⟩ := @Table.exists_update _ _ _ _ db.children.taskEpochs epochId
      (fun row => decide (row.taskId = taskId ∧ row.status = .active))
      (fun row => { row with
        status := .finished, finishedSequence := some session.nextSequence,
        reportDigest := some anyDigest }) (fun _ => rfl) stored hstored
      (by simp [htask, hactive])
    have hchildren : db.children.apply taskId session.nextSequence
        (.epochFinished epochId anyDigest) = .ok { db.children with taskEpochs } :=
      closeEpoch_eq_ok.mpr ⟨taskEpochs, stored, hupdate, hstored, h.past hstarted, rfl⟩
    have hvalid : (TaskEvent.epochFinished epochId anyDigest).validate = .ok () :=
      show validateEventIdentifier anyDigest = .ok () by decide
    obtain ⟨db', haccepts, hat⟩ := h.accepts hrunning hvalid rfl
      (.epochClosed rfl hepoch hflight) hchildren
    exact ⟨_, db', _, _, haccepts.acceptsAll, hat, ⟨rfl, hresolved⟩, rfl⟩

theorem TaskAt.moves_to {target : TaskStatus} (h : TaskAt db taskId row session (n + 1))
    (hrunning : row.snapshot.status.isTerminal = false) (hboundary : SafeBoundary row.snapshot)
    (hedge : legalStatusEdge row.snapshot.status target = true) :
    Leads db taskId n fun next => SafeBoundary next ∧ next.status = target := by
  have hvalid : (TaskEvent.stateTransitioned row.snapshot.status target
      anyDigest).validate = .ok () :=
    show validateEventText anyDigest = .ok () by decide
  obtain ⟨db', haccepts, hat⟩ := h.accepts hrunning hvalid rfl
    (.stateTransitioned (fun _ => hboundary) rfl hedge)
    (childTables_apply_childless rfl)
  exact ⟨_, db', _, _, haccepts.acceptsAll, hat, hboundary, rfl⟩

theorem TaskAt.cancels (h : TaskAt db taskId row session (n + 3))
    (hrunning : row.snapshot.status.isTerminal = false) (hboundary : SafeBoundary row.snapshot) :
    Leads db taskId n fun next => next.status = .cancelled := by
  have hcancelling : Leads db taskId (n + 1) fun next =>
      SafeBoundary next ∧ next.status = .cancelling := by
    have htwo : TaskAt db taskId row session (n + 1 + 1) := h.mono (by omega)
    cases hstatus : row.snapshot.status with
    | cancelling => exact h.stays (by omega) ⟨hboundary, hstatus⟩
    | completing =>
      have hedge : legalStatusEdge row.snapshot.status .active = true := by
        rw [hstatus]
        rfl
      refine (h.moves_to (n := n + 2) hrunning hboundary hedge).trans ?_
      rintro mid found session' hat ⟨hsafe, hactive⟩
      exact hat.moves_to (by rw [hactive]; rfl) hsafe (by rw [hactive]; rfl)
    | completed | cancelled | failed =>
      rw [hstatus] at hrunning
      cases hrunning
    | _ => exact htwo.moves_to hrunning hboundary (by rw [hstatus]; rfl)
  refine hcancelling.trans ?_
  rintro mid found session' hat ⟨hsafe, hstatus⟩
  have hedge : legalStatusEdge found.snapshot.status .cancelled = true := by
    rw [hstatus]
    rfl
  refine (hat.moves_to (by rw [hstatus]; rfl) hsafe hedge).trans ?_
  intro db' last session'' hlast hdone
  exact hlast.stays le_rfl hdone.2

end

/-- As long as no epoch is closed over an uncertain operation, every such operation can be
reconciled and the task cancelled. -/
theorem uncertain_operations_can_be_reconciled
    (sha256 : Sha256) (calls : List Call) (hmeet : initial.CallsMeet sha256
      (fun world call => call.EventMeets Db.ClosesCertain world) calls)
    (taskId : TaskId) (row : AgentTaskRow) (session : SessionRow)
    (hrow : (run sha256 calls).db.agentTasks.find? taskId = some row)
    (hsession : (run sha256 calls).db.sessions.find? row.sessionId = some session)
    (hrunning : row.snapshot.status.isTerminal = false) :
    (∀ operationId operation, row.snapshot.operations.find? operationId = some operation →
      operation.status = .uncertain → row.Room session 2 →
        ∃ events db' row' later, AcceptsAll taskId (run sha256 calls).db events db' ∧
          db'.agentTasks.find? taskId = some row' ∧
          row'.snapshot.operations.find? operationId = some later ∧
          later.status = .reconciled) ∧
    (row.Room session (3 * row.snapshot.unresolvedCount + 4) →
      ∃ events db' row', AcceptsAll taskId (run sha256 calls).db events db' ∧
        db'.agentTasks.find? taskId = some row' ∧
        row'.snapshot.status = .cancelled) := by
  have hin := run_unresolvedInEpoch hmeet taskId row hrow
  refine ⟨?_, ?_⟩
  · intro operationId operation hfind huncertain hroom
    have hat : TaskAt (run sha256 calls).db taskId row session (0 + 2) :=
      ⟨run_regular calls, hrow, hsession, hroom⟩
    have hactive : ActiveOperation row.snapshot operationId operation :=
      ⟨hfind, hin operationId operation hfind (by rw [huncertain]; rfl)⟩
    have hedge : legalOperationEdge operation.status .reconciled = true := by
      rw [huncertain]
      rfl
    obtain ⟨events, db', row', _, hevents, hafter, hresolves⟩ :=
      hat.settles_to hrunning hactive (.inr huncertain) hedge rfl
    obtain ⟨later, hlater, -, hinsert⟩ := hresolves.later
    refine ⟨events, db', row', later, hevents, hafter.found, ?_, hlater⟩
    rw [hinsert, find?_insert_self]
  · intro hroom
    have hat : TaskAt (run sha256 calls).db taskId row session
        (4 + 3 * row.snapshot.unresolvedCount) := by
      refine ⟨run_regular calls, hrow, hsession, ?_⟩
      rw [Nat.add_comm]
      exact hroom
    have hcancelled : Leads (run sha256 calls).db taskId 0
        fun next => next.status = .cancelled := by
      refine (hat.resolves_all hrunning hin rfl).trans ?_
      intro mid found session' hmid hall
      have hsame : found.snapshot.status.isTerminal = false := by
        rw [hall.frame.1]
        exact hrunning
      refine (hmid.closes_epoch (n := 3) hsame hall.resolved).trans ?_
      rintro closed last session'' hclosed ⟨hboundary, hstatus⟩
      refine hclosed.cancels (n := 0) ?_ hboundary
      rw [hstatus]
      exact hsame
    obtain ⟨events, db', row', _, hevents, hafter, hdone⟩ := hcancelled
    exact ⟨events, db', row', hevents, hafter.found, hdone⟩

/-! ## An operation whose epoch is closed -/

/-- An uncertain operation whose epoch has ended. -/
structure Stranded (db : Db) (taskId : TaskId) (operationId : OperationId)
    (row : AgentTaskRow) (operation : OperationSnapshot) : Prop where
  found : db.agentTasks.find? taskId = some row
  known : row.snapshot.operations.find? operationId = some operation
  uncertain : operation.status = .uncertain
  closed : row.snapshot.activeEpoch ≠ some operation.epochId
  used : db.children.taskEpochs.find? operation.epochId ≠ none
  uncancelled : row.snapshot.status ≠ .cancelled

section Stranded

variable {db db' : Db} {taskId : TaskId} {operationId : OperationId}
  {row : AgentTaskRow} {operation : OperationSnapshot}

theorem OperationsChange.unchanged {state next : TaskSnapshot} (h : OperationsChange state next)
    (hfind : state.operations.find? operationId = some operation)
    (hclosed : state.activeEpoch ≠ some operation.epochId) :
    next.operations.find? operationId = some operation := by
  cases h with
  | same h => rw [h, hfind]
  | @recorded newId new hnew _ h _ =>
    have hne : operationId ≠ newId := by
      rintro rfl
      rw [hnew] at hfind
      cases hfind
    rw [h, find?_insert_of_ne _ _ hne, hfind]
  | @moved movedId moved later hoperation h _ _ =>
    have hne : operationId ≠ movedId := by
      rintro rfl
      rw [hoperation.1] at hfind
      cases hfind
      exact hclosed hoperation.2
    rw [h, find?_insert_of_ne _ _ hne, hfind]

theorem Stranded.not_started {sequence : Nat} {event : TaskEvent} {children' : ChildTables}
    (h : Stranded db taskId operationId row operation)
    (hchildren : db.children.apply taskId sequence event = .ok children') :
    startedEpoch event ≠ some operation.epochId := by
  intro hstarts
  cases event with
  | epochStarted epochId objective =>
    obtain ⟨_, hinsert, -, -⟩ := startEpoch_eq_ok.mp hchildren
    have hfree := (Table.insert_eq_some.mp hinsert).1
    cases hstarts
    exact h.used hfree
  | _ => cases hstarts

theorem Stranded.step {event : TaskEvent} {expectedRevision : Nat} {record : TaskRecord}
    (h : Stranded db taskId operationId row operation)
    (hcall : appendTaskEvent db taskId expectedRevision event = .ok (some (record, db'))) :
    ∃ row', Stranded db' taskId operationId row' operation := by
  obtain ⟨found, session, next, happend, hchildren, -, -⟩ := appendTaskEvent_eq_some hcall
  have hfound := happend.found
  rw [h.found] at hfound
  cases hfound
  have hother := h.not_started hchildren
  have hkept : db'.children.taskEpochs.find? operation.epochId ≠ none := by
    intro hnone
    exact h.used ((ChildrenChange.event hchildren).epoch_unused hother |>.mp hnone)
  have hoperation := OperationsChange.unchanged happend.step.operationsChange h.known h.closed
  obtain ⟨changed, heffect, rfl⟩ := happend.step.effect
  refine ⟨row.withSnapshot _, by rw [happend.tasks, if_pos rfl], hoperation,
    h.uncertain, ?_, hkept, ?_⟩
  · have hactive : changed.activeEpoch ≠ some operation.epochId := by
      rw [heffect.activeEpoch_eq]
      have hclosed := h.closed
      cases event <;> first | exact hclosed | exact hother
    exact hactive
  · intro hcancelled
    rcases heffect.cancelled_boundary hcancelled with hbefore | hboundary
    · exact h.uncancelled hbefore
    · have hresolved := hasUnresolvedOperations_eq_false.mp hboundary.2
        operationId operation h.known
      rw [h.uncertain] at hresolved
      cases hresolved

theorem AcceptsAll.stranded {events : List TaskEvent} (h : AcceptsAll taskId db events db')
    (hstart : Stranded db taskId operationId row operation) :
    ∃ row', Stranded db' taskId operationId row' operation := by
  induction h generalizing row with
  | nil => exact ⟨row, hstart⟩
  | cons hcall _ ih =>
    obtain ⟨_, hnext⟩ := hstart.step hcall
    exact ih hnext

end Stranded

namespace Sample

open CarlAgent.Task.Sample

def uncertainOperation : List TaskEvent :=
  [activation, .epochStarted epochId "o",
    .operationIntentRecorded operationId epochId "i" .observation "d",
    .operationTransitioned operationId .intentRecorded .started [],
    .operationEvidenceRecorded operationId "r",
    .operationTransitioned operationId .started .uncertain [6]]

def strandedOperation : List TaskEvent :=
  uncertainOperation ++ [.epochFinished epochId "m", .stateTransitioned .active .cancelling "c"]

def uncertain (db : Db) (status : TaskStatus) (active : Option EpochId) (room : Nat) : Prop :=
  ∃ row ∈ db.agentTasks.find? taskId, ∃ session ∈ db.sessions.find? row.sessionId,
      ∃ operation ∈ row.snapshot.operations.find? operationId,
        row.snapshot.status = status ∧ row.snapshot.activeEpoch = active ∧
        operation.status = .uncertain ∧ operation.epochId = epochId ∧
        row.snapshot.unresolvedCount = 1 ∧
        db.children.taskEpochs.find? epochId ≠ none ∧
        row.Room session room

instance (db : Db) (status : TaskStatus) (active : Option EpochId) (room : Nat) :
    Decidable (uncertain db status active room) :=
  inferInstanceAs (Decidable (∃ row ∈ _, _))

end Sample

open Sample CarlAgent.Task.Sample

theorem sample_uncertain_operation_is_reconciled : ∃ row events db' row' later,
      (recoveryDb uncertainOperation).agentTasks.find? taskId = some row ∧
      (row.snapshot.operations.find? operationId).map (·.status) = some .uncertain ∧
      AcceptsAll taskId (recoveryDb uncertainOperation) events db' ∧
      db'.agentTasks.find? taskId = some row' ∧
      row'.snapshot.operations.find? operationId = some later ∧
      later.status = .reconciled := by
  have hrun : initial.CallsMeet (fun _ => emptyDigest)
        (fun world call => call.EventMeets Db.ClosesCertain world)
        (calls uncertainOperation) ∧
      uncertain (recoveryDb uncertainOperation) .active (some epochId) 2 := by
    decide +kernel
  obtain ⟨hmeet, huncertain⟩ := hrun
  rw [recoveryDb] at huncertain ⊢
  obtain ⟨row, hrow, session, hsession, operation, hfind, hstatus, -, hopen, -,
    -, -, hroom⟩ := huncertain
  have hreconciled := uncertain_operations_can_be_reconciled
    (fun _ => emptyDigest) (calls uncertainOperation) hmeet
    taskId row session hrow hsession (by rw [hstatus]; rfl)
  obtain ⟨events, db', row', later, hevents, hfound, hlater, hdone⟩ :=
    hreconciled.1 operationId operation hfind hopen hroom
  have hmap : (row.snapshot.operations.find? operationId).map
      (·.status) = some .uncertain := by
    rw [show row.snapshot.operations.find? _ = some operation from hfind, Option.map_some, hopen]
  exact ⟨row, events, db', row', later, hrow, hmap, hevents, hfound, hlater, hdone⟩

/-- The epoch is closed while the operation is uncertain: with room for all
the events that would be needed, none of them is accepted any more. -/
theorem closed_epoch_strands_uncertain_operation : ∃ calls taskId operationId row session operation,
      let db := (run (fun _ => emptyDigest) calls).db
      db.agentTasks.find? taskId = some row ∧
      db.sessions.find? row.sessionId = some session ∧
      row.snapshot.status = .cancelling ∧
      row.snapshot.operations.find? operationId = some operation ∧
      operation.status = .uncertain ∧
      row.Room session (3 * row.snapshot.unresolvedCount + 4) ∧
      ∀ events db', AcceptsAll taskId db events db' →
        ∃ row', db'.agentTasks.find? taskId = some row' ∧
          row'.snapshot.operations.find? operationId = some operation ∧
          row'.snapshot.status ≠ .cancelled := by
  have hrun : uncertain (recoveryDb strandedOperation) .cancelling none 7 := by
    decide +kernel
  rw [recoveryDb] at hrun
  refine ⟨calls strandedOperation, taskId, operationId, ?_⟩
  generalize (run (fun _ => emptyDigest) (calls strandedOperation)).db = db at hrun ⊢
  obtain ⟨row, hrow, session, hsession, operation, hfind, hstatus, hidle, hopen,
    hepoch, hcount, hused, hroom⟩ := hrun
  have hstranded : Stranded db taskId operationId row operation := by
    refine ⟨hrow, hfind, hopen, ?_, ?_, ?_⟩
    · simp [hidle]
    · rw [hepoch]
      exact hused
    · rw [hstatus]
      decide
  refine ⟨row, session, operation, hrow, hsession, hstatus, hfind, hopen, ?_, ?_⟩
  · rw [hcount]
    exact hroom
  · intro events db' hevents
    obtain ⟨row', hlater⟩ := hevents.stranded hstranded
    exact ⟨row', hlater.found, hlater.known, hlater.uncancelled⟩

end CarlAgent.Storage
