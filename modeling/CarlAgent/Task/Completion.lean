import CarlAgent.Task.Effect

/-!
# Completion

A completed task should have every required clause satisfied with evidence,
no active epoch and no unresolved operation.  The `completed` event checks all
three; a state transition to the completed status checks none of them.
-/

namespace CarlAgent.Task

open Foundation

structure CompletionReady (snapshot : TaskSnapshot) : Prop where
  clauses : ∀ clause ∈ snapshot.contract.clauses, clause.required = true →
    clause.status = .satisfied ∧ clause.evidence ≠ []
  idle : snapshot.activeEpoch = none
  resolved : ∀ operationId operation, snapshot.operations.find? operationId = some operation →
      operation.status.isResolved = true

/-- The three checks that the reducer makes for the `completed` event. -/
def completionGuard (snapshot : TaskSnapshot) : Bool :=
  snapshot.activeEpoch.isNone && !snapshot.hasUnresolvedOperations &&
    snapshot.contract.requiredClausesSatisfied

def transitionsToCompleted (envelope : EventEnvelope) : Bool :=
  match envelope.event with
  | .taskLifecycle _ (.stateTransitioned _ .completed _) => true
  | _ => false

/-- Every state transition to the completed status in the journal starts from
a snapshot that passes the checks. -/
def CompletionsGuarded (events : List EventEnvelope) : Prop :=
  ∀ before envelope after state, events = before ++ envelope :: after →
    transitionsToCompleted envelope = true →
    reduceJournal before = .ok (some state) → completionGuard state = true

theorem requiredClausesSatisfied_eq_true {contract : CompletionContract} :
    contract.requiredClausesSatisfied = true ↔ ∀ clause ∈ contract.clauses, clause.required = true →
        clause.status = .satisfied ∧ clause.evidence ≠ [] := by
  simp only [CompletionContract.requiredClausesSatisfied, List.all_eq_true,
    List.mem_filter, Bool.and_eq_true, decide_eq_true_eq, Bool.not_eq_true',
    List.isEmpty_eq_false_iff, ne_eq, and_imp]

theorem completionGuard_eq_true {snapshot : TaskSnapshot} :
    completionGuard snapshot = true ↔ CompletionReady snapshot := by
  simp only [completionGuard, Bool.and_eq_true, Option.isNone_iff_eq_none, Bool.not_eq_true',
    hasUnresolvedOperations_eq_false, requiredClausesSatisfied_eq_true]
  constructor
  · rintro ⟨⟨hidle, hresolved⟩, hclauses⟩
    exact ⟨hclauses, hidle, hresolved⟩
  · rintro ⟨hclauses, hidle, hresolved⟩
    exact ⟨⟨hidle, hresolved⟩, hclauses⟩

/-- A step reaches the completed status ready, unless it is a state transition
from a snapshot that is not. -/
theorem step_completed_iff {state next : TaskSnapshot} {envelope : EventEnvelope}
    (h : reduceTask (some state) envelope = .ok next) :
    (next.status = .completed → CompletionReady next) ↔ (transitionsToCompleted envelope = true →
        completionGuard state = true) := by
  obtain ⟨event, hevent, -, hrunning, -, ⟨changed, heffect, rfl⟩, -⟩ := reduceTask_some_iff.mp h
  have hopen : state.status ≠ .completed := by
    rintro hcompleted
    simp [hcompleted, TaskStatus.isTerminal] at hrunning
  rw [completionGuard_eq_true]
  cases heffect with
  | @stateTransitioned _ target _ _ _ _ =>
    have htransitions : transitionsToCompleted envelope = true ↔ target = .completed := by
      simp only [transitionsToCompleted, hevent]
      cases target <;> simp
    rw [htransitions]
    -- Only the status and the revision differ between the two snapshots.
    constructor
    · intro hready htarget
      obtain ⟨hclauses, hidle, hresolved⟩ := hready htarget
      exact ⟨hclauses, hidle, hresolved⟩
    · intro hready htarget
      obtain ⟨hclauses, hidle, hresolved⟩ := hready htarget
      exact ⟨hclauses, hidle, hresolved⟩
  | completed hboundary hclauses _ =>
    have hready : completionGuard state = true := by
      simp [completionGuard, hboundary.1, hboundary.2, hclauses]
    obtain ⟨hclauses, hidle, hresolved⟩ := completionGuard_eq_true.mp hready
    exact iff_of_true (fun _ => ⟨hclauses, hidle, hresolved⟩)
      (fun _ => ⟨hclauses, hidle, hresolved⟩)
  | epochClosed hclosed _ _ =>
    refine iff_of_true (fun hcompleted => absurd hcompleted hopen) ?_
    cases event <;> simp [closedEpoch] at hclosed <;> simp [transitionsToCompleted, hevent]
  | recordOnly hrecord =>
    refine iff_of_true (fun hcompleted => absurd hcompleted hopen) ?_
    cases event <;> simp [isRecordOnly] at hrecord <;> simp [transitionsToCompleted, hevent]
  | observed hobserved _ =>
    refine iff_of_true (fun hcompleted => absurd hcompleted hopen) ?_
    cases event <;> simp [observedEpoch] at hobserved <;> simp [transitionsToCompleted, hevent]
  | cancellationRequested _ | blocked _ =>
    exact iff_of_true (by simp) (by simp [transitionsToCompleted, hevent])
  | _ =>
    exact iff_of_true (fun hcompleted => absurd hcompleted hopen)
      (by simp [transitionsToCompleted, hevent])

private theorem completionsGuarded_concat {events : List EventEnvelope} {envelope : EventEnvelope}
    {state : TaskSnapshot} (hstate : reduceJournal events = .ok (some state)) :
    CompletionsGuarded (events ++ [envelope]) ↔ CompletionsGuarded events ∧
        (transitionsToCompleted envelope = true → completionGuard state = true) := by
  constructor
  · intro h
    refine ⟨?_, fun hlast => h events envelope [] state rfl hlast hstate⟩
    rintro before middle after found rfl hmiddle hfound
    exact h before middle (after ++ [envelope]) found (by simp) hmiddle hfound
  · rintro ⟨hbefore, hlast⟩ before middle after found hsplit hmiddle hfound
    cases after using List.reverseRecOn with
    | nil =>
      obtain ⟨rfl, hsame⟩ := List.append_inj' hsplit rfl
      obtain rfl : envelope = middle := by simpa using hsame
      obtain rfl : state = found := by
        simpa using hstate.symm.trans hfound
      exact hlast hmiddle
    | append_singleton after final =>
      have hassoc : before ++ middle :: (after ++ [final]) =
          (before ++ middle :: after) ++ [final] := by simp
      have hevents : events = before ++ middle :: after :=
        (List.append_inj' (hsplit.trans hassoc) rfl).1
      exact hbefore before middle after found hevents hmiddle hfound

/-- A completed task meets its contract exactly when every plain transition to completed was
made from a state that met it. -/
theorem completed_ready_iff_transitions_guarded {events : List EventEnvelope}
    {snapshot : TaskSnapshot} (haccepted : reduceJournal events = .ok (some snapshot)) :
    (snapshot.status = .completed → CompletionReady snapshot) ↔ CompletionsGuarded events := by
  induction haccepted using reduceJournal_induction with
  | create envelope created hreduce =>
    obtain ⟨_, _, _, _, _, _, _, _, _, rfl⟩ := reduceTask_none_iff.mp hreduce
    refine iff_of_true (by simp [TaskSnapshot.created]) ?_
    -- The only prefix is the empty one, which has no snapshot.
    intro before middle after state hsplit _ hstate
    have hnil : before = [] := by
      cases before with
      | nil => rfl
      | cons first rest => simp at hsplit
    subst hnil
    simp [reduceJournal, pure, Except.pure] at hstate
  | step events state envelope next hstate ih hreduce =>
    have hopen : state.status ≠ .completed := by
      obtain ⟨_, _, _, hstep⟩ := reduceTask_some_iff.mp hreduce
      rintro hcompleted
      simpa [hcompleted, TaskStatus.isTerminal] using hstep.running
    have hguarded : CompletionsGuarded events := ih.mp fun hcompleted => absurd hcompleted hopen
    rw [completionsGuarded_concat hstate, step_completed_iff hreduce]
    simp [hguarded]

namespace Sample

/-- The required clause is pending, an epoch is active and its operation has
only its intent. -/
def unguardedCompletion : List EventEnvelope :=
  envelopes 1 (intendedEvents "d" ++
    [.stateTransitioned .active .completing "r", .stateTransitioned .completing .completed "r"])

/-- The same task with the clause satisfied, completed by its own event. -/
def guardedCompletion : List EventEnvelope :=
  envelopes 1
    [creation (contract .satisfied [⟨1, none, none⟩]), .stateTransitioned .queued .active "r",
      .stateTransitioned .active .completing "r", .completed]

end Sample

theorem completed_without_conditions :
    ∃ events snapshot, reduceJournal events = .ok (some snapshot) ∧
      events.Pairwise (fun a b => a.sequence < b.sequence) ∧
      snapshot.status = .completed ∧
      snapshot.contract.requiredClausesSatisfied = false ∧
      snapshot.activeEpoch ≠ none ∧
      snapshot.hasUnresolvedOperations = true ∧
      ¬ CompletionReady snapshot := by
  refine ⟨Sample.unguardedCompletion, _, rfl, by decide, rfl, rfl, by decide, rfl, ?_⟩
  intro hready
  exact absurd hready.idle (by decide)

theorem completed_ready_of_guarded_journal :
    ∃ snapshot, reduceJournal Sample.guardedCompletion = .ok (some snapshot) ∧
      snapshot.status = .completed ∧
      ((snapshot.status = .completed → CompletionReady snapshot) ↔
        CompletionsGuarded Sample.guardedCompletion) := by
  exact ⟨_, rfl, rfl, completed_ready_iff_transitions_guarded rfl⟩

end CarlAgent.Task
