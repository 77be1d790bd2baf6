import CarlAgent.Task.Context
import CarlAgent.Task.Build

/-!
# Task metrics

`deriveTaskMetrics` replays a journal with its own copy of the operation
statuses and a set of checked counters, and compares the outcome with the
authoritative snapshot.  Along every accepted journal the copy shadows the
reducer, so the comparison succeeds and the counters count the snapshot.
-/

namespace CarlAgent.Task

open Foundation OrderedMap List TaskSnapshot

variable {events : List EventEnvelope} {state : TaskSnapshot}

def taskMetricsSchemaVersion : Nat := 1

structure TaskMetrics where
  schemaVersion : Nat
  taskId : TaskId
  status : TaskStatus
  revision : Nat
  durableEventCount : Nat
  durableSequenceEnd : Nat
  providerRequests : Nat
  epochsStarted : Nat
  epochsCompleted : Nat
  operationIntents : Nat
  operationsSucceeded : Nat
  operationsFailed : Nat
  operationsCancelled : Nat
  operationsUncertain : Nat
  unresolvedOperations : Nat
  compactionsCompleted : Nat
  providerContextLosses : Nat
  recoveryAttempts : Nat
  latestObservedTokens : Option Nat
  latestContextWindow : Option Nat
  requiredClausesTotal : Nat
  requiredClausesSatisfied : Nat
  budget : TaskBudget
  deriving DecidableEq

inductive TaskMetricsErrorCode where
  | storage
  | invalidHistory
  | arithmeticOverflow
  deriving DecidableEq, Repr

structure OperationMetricState where
  status : OperationStatus
  terminalClassified : Bool
  deriving DecidableEq

structure TaskMetricsReducer where
  taskId : TaskId
  replayed : Option TaskSnapshot
  lastSequence : Option Nat
  durableEventCount : Nat
  providerRequests : Nat
  epochsStarted : Nat
  epochsCompleted : Nat
  operationIntents : Nat
  terminalClassifications : Nat
  operationsSucceeded : Nat
  operationsFailed : Nat
  operationsCancelled : Nat
  operationsUncertain : Nat
  compactionsCompleted : Nat
  providerContextLosses : Nat
  recoveryAttempts : Nat
  latestObservedTokens : Option Nat
  latestContextWindow : Option Nat
  operations : OrderedMap OperationId OperationMetricState

def TaskSnapshot.operationCount (p : OperationStatus → Bool) (state : TaskSnapshot) : Nat :=
  (state.operations.values.filter fun operation => p operation.status).length

def TaskSnapshot.unresolvedOperationCount (state : TaskSnapshot) : Nat :=
  state.operationCount fun status => !status.isResolved

namespace TaskMetricsReducer

def new (taskId : TaskId) : TaskMetricsReducer where
  taskId := taskId
  replayed := none
  lastSequence := none
  durableEventCount := 0
  providerRequests := 0
  epochsStarted := 0
  epochsCompleted := 0
  operationIntents := 0
  terminalClassifications := 0
  operationsSucceeded := 0
  operationsFailed := 0
  operationsCancelled := 0
  operationsUncertain := 0
  compactionsCompleted := 0
  providerContextLosses := 0
  recoveryAttempts := 0
  latestObservedTokens := none
  latestContextWindow := none
  operations := OrderedMap.empty

def checkedAdd (left right : Nat) : Except TaskMetricsErrorCode Nat := do
  rejectIf (left + right > maxU64) .arithmeticOverflow
  .ok (left + right)

def classifyOnce (state : OperationMetricState) :
    Except TaskMetricsErrorCode OperationMetricState := do
  rejectIf (state.terminalClassified) .invalidHistory
  .ok { state with terminalClassified := true }

variable (reducer : TaskMetricsReducer)

/-- The counters and the operation's own record after it reached `target`. -/
def classify (state : OperationMetricState) : OperationStatus →
      Except TaskMetricsErrorCode (TaskMetricsReducer × OperationMetricState)
  | .succeeded => do
    let state ← classifyOnce state
    let succeeded ← checkedAdd reducer.operationsSucceeded 1
    let classifications ← checkedAdd reducer.terminalClassifications 1
    .ok ({ reducer with
      operationsSucceeded := succeeded, terminalClassifications := classifications }, state)
  | .failed => do
    let state ← classifyOnce state
    let failed ← checkedAdd reducer.operationsFailed 1
    let classifications ← checkedAdd reducer.terminalClassifications 1
    .ok ({ reducer with
      operationsFailed := failed, terminalClassifications := classifications }, state)
  | .cancelled => do
    let state ← classifyOnce state
    let cancelled ← checkedAdd reducer.operationsCancelled 1
    let classifications ← checkedAdd reducer.terminalClassifications 1
    .ok ({ reducer with
      operationsCancelled := cancelled, terminalClassifications := classifications }, state)
  | .uncertain => do
    rejectIf (state.terminalClassified) .invalidHistory
    let uncertain ← checkedAdd reducer.operationsUncertain 1
    .ok ({ reducer with operationsUncertain := uncertain }, state)
  | .reconciled => do
    let state ← classifyOnce state
    let classifications ← checkedAdd reducer.terminalClassifications 1
    .ok ({ reducer with terminalClassifications := classifications }, state)
  | .intentRecorded => .ok (reducer, state)
  | .started => .ok (reducer, state)

def countOperationTransition (operationId : OperationId) (source target : OperationStatus) :
    Except TaskMetricsErrorCode TaskMetricsReducer := do
  let state ← requireSome (reducer.operations.find? operationId) .invalidHistory
  rejectIf (state.status ≠ source) .invalidHistory
  let (reducer, state) ← reducer.classify state target
  .ok { reducer with
    operations := reducer.operations.insert operationId { state with status := target } }

def countEvent :
    TaskEvent → Except TaskMetricsErrorCode TaskMetricsReducer
  | .providerRequestRecorded _ _ _ _ => do
    let count ← checkedAdd reducer.providerRequests 1
    .ok { reducer with providerRequests := count }
  | .epochStarted _ _ => do
    let count ← checkedAdd reducer.epochsStarted 1
    .ok { reducer with epochsStarted := count }
  | .epochFinished _ _ => do
    let count ← checkedAdd reducer.epochsCompleted 1
    .ok { reducer with epochsCompleted := count }
  | .operationIntentRecorded operationId _ _ _ _ => do
    rejectIf ((reducer.operations.find? operationId).isSome) .invalidHistory
    let count ← checkedAdd reducer.operationIntents 1
    .ok { reducer with
      operations := reducer.operations.insert operationId ⟨.intentRecorded, false⟩
      operationIntents := count }
  | .operationTransitioned operationId source target _ =>
    reducer.countOperationTransition operationId source target
  | .usageObserved _ totalTokens contextWindow =>
    .ok { reducer with
      latestObservedTokens := some totalTokens, latestContextWindow := contextWindow }
  | .compactionCompleted _ _ _ => do
    let count ← checkedAdd reducer.compactionsCompleted 1
    .ok { reducer with compactionsCompleted := count }
  | .providerContextLost _ _ => do
    let count ← checkedAdd reducer.providerContextLosses 1
    .ok { reducer with providerContextLosses := count }
  | .recoveryAttemptStarted _ _ _ => do
    let count ← checkedAdd reducer.recoveryAttempts 1
    .ok { reducer with recoveryAttempts := count }
  | _ => .ok reducer

def push (envelope : EventEnvelope) : Except TaskMetricsErrorCode TaskMetricsReducer := do
  rejectIf (envelope.sequence = 0 ∨
    ∃ previous ∈ reducer.lastSequence, envelope.sequence ≤ previous) .invalidHistory
  match envelope.event with
  | .other => .error .invalidHistory
  | .taskLifecycle taskId event =>
    rejectIf (taskId ≠ reducer.taskId) .invalidHistory
    let replayed ← (reduceTask reducer.replayed envelope).mapError fun _ => .invalidHistory
    let reducer ← reducer.countEvent event
    let count ← checkedAdd reducer.durableEventCount 1
    .ok { reducer with
      replayed := some replayed, lastSequence := some envelope.sequence,
      durableEventCount := count }

def clauseCount (contract : CompletionContract) (p : CompletionClause → Bool) :
    Except TaskMetricsErrorCode Nat := do
  let count := (contract.clauses.filter p).length
  rejectIf (count > maxU32) .arithmeticOverflow
  .ok count

def finish (authoritative : TaskSnapshot) : Except TaskMetricsErrorCode TaskMetrics := do
  let replayed ← requireSome reducer.replayed .invalidHistory
  rejectIf (replayed ≠ authoritative ∨ authoritative.taskId ≠ reducer.taskId) .invalidHistory
  rejectIf (reducer.operationIntents < reducer.terminalClassifications) .invalidHistory
  let unresolvedOperations := reducer.operationIntents - reducer.terminalClassifications
  rejectIf (authoritative.unresolvedOperationCount > maxU64) .arithmeticOverflow
  rejectIf (unresolvedOperations ≠ authoritative.unresolvedOperationCount) .invalidHistory
  let requiredClausesTotal ← clauseCount authoritative.contract (·.required)
  let requiredClausesSatisfied ← clauseCount authoritative.contract
    fun clause => clause.required && clause.status == .satisfied
  let durableSequenceEnd ← requireSome reducer.lastSequence .invalidHistory
  .ok
    { schemaVersion := taskMetricsSchemaVersion, taskId := reducer.taskId,
      status := authoritative.status, revision := authoritative.revision,
      durableEventCount := reducer.durableEventCount, durableSequenceEnd,
      providerRequests := reducer.providerRequests, epochsStarted := reducer.epochsStarted,
      epochsCompleted := reducer.epochsCompleted, operationIntents := reducer.operationIntents,
      operationsSucceeded := reducer.operationsSucceeded,
      operationsFailed := reducer.operationsFailed,
      operationsCancelled := reducer.operationsCancelled,
      operationsUncertain := reducer.operationsUncertain, unresolvedOperations,
      compactionsCompleted := reducer.compactionsCompleted,
      providerContextLosses := reducer.providerContextLosses,
      recoveryAttempts := reducer.recoveryAttempts,
      latestObservedTokens := reducer.latestObservedTokens,
      latestContextWindow := reducer.latestContextWindow, requiredClausesTotal,
      requiredClausesSatisfied, budget := authoritative.budget }

end TaskMetricsReducer

def deriveTaskMetrics (taskId : TaskId) (envelopes : List EventEnvelope)
    (authoritative : TaskSnapshot) : Except TaskMetricsErrorCode TaskMetrics := do
  let reducer ← envelopes.foldlM TaskMetricsReducer.push (TaskMetricsReducer.new taskId)
  reducer.finish authoritative

/-! ## What an event does to the statuses -/

def TaskSnapshot.operationStatuses (state : TaskSnapshot) :
    OrderedMap OperationId OperationStatus :=
  state.operations.mapValues (·.status)

theorem TaskSnapshot.operationCount_eq (state : TaskSnapshot) (p : OperationStatus → Bool) :
    state.operationCount p = state.operationStatuses.values.countP p := by
  rw [operationCount, operationStatuses, values, mapValues, values, countP_eq_length_filter]
  simp only [map_map, filter_map, length_map]
  rfl

theorem TaskSnapshot.operationStatuses_setOperation_same {operationId : OperationId}
    {operation later : OperationSnapshot}
    (hfind : state.operations.find? operationId = some operation)
    (hstatus : later.status = operation.status) :
    (state.setOperation operationId later).operationStatuses = state.operationStatuses := by
  have hshadow : state.operationStatuses.find? operationId = some later.status := by
    rw [operationStatuses, find?_mapValues, hfind, hstatus]
    rfl
  rw [operationStatuses, setOperation, mapValues_insert]
  exact insert_of_find? hshadow

def countsOperation : TaskEvent → Bool
  | .operationIntentRecorded _ _ _ _ _ => true
  | .operationTransitioned _ _ _ _ => true
  | _ => false

/-- An event records a new operation, moves one along a legal edge, or leaves
every status alone. -/
inductive StatusChange (state next : TaskSnapshot) : TaskEvent → Prop
  | recorded {operationId : OperationId} {epochId : EpochId} {itemId : String}
    {effectClass : EffectClass} {requestDigest : String}
    (hnew : state.operationStatuses.find? operationId = none)
    (h : next.operationStatuses = state.operationStatuses.insert operationId .intentRecorded) :
    StatusChange state next (.operationIntentRecorded operationId epochId
      itemId effectClass requestDigest)
  | moved {operationId : OperationId} {source target : OperationStatus}
    {evidenceSequences : List Nat}
    (hfind : state.operationStatuses.find? operationId = some source)
    (hedge : legalOperationEdge source target = true)
    (h : next.operationStatuses = state.operationStatuses.insert operationId target) :
    StatusChange state next (.operationTransitioned operationId source target evidenceSequences)
  | kept {event : TaskEvent} (hevent : countsOperation event = false)
    (h : next.operationStatuses = state.operationStatuses) :
    StatusChange state next event

theorem Effect.statusChange {next : TaskSnapshot} {sequence : Nat} {event : TaskEvent}
    (h : Effect state sequence event next) : StatusChange state next event := by
  cases h with
  | @operationIntentRecorded operationId epochId _ _ _ hepoch hnew =>
    refine .recorded ?_ ?_
    · rw [operationStatuses, find?_mapValues, hnew]
      rfl
    · exact mapValues_insert _ _ _ _
  | @operationTransitioned operationId _ _ _ operation _ hoperation hevidence =>
    obtain ⟨hstatus, hedge, -⟩ := OperationEvidenceState.transition_eq_ok.mp hevidence
    refine .moved ?_ hedge (mapValues_insert _ _ _ _)
    rw [operationStatuses, find?_mapValues, hoperation.1, ← hstatus]
    rfl
  | operationPostconditionBound hoperation _ _ | operationFilePostconditionBound hoperation _ _
  | operationEvidenceRecorded hoperation _ =>
    exact .kept rfl (operationStatuses_setOperation_same hoperation.1 rfl)
  | @epochClosed event epochId hevent _ _ =>
    refine .kept ?_ rfl
    cases event <;> simp_all [closedEpoch, countsOperation]
  | @recordOnly event hevent =>
    refine .kept ?_ rfl
    cases event <;> simp_all [isRecordOnly, countsOperation]
  | @observed event epochId hevent _ =>
    refine .kept ?_ rfl
    cases event <;> simp_all [observedEpoch, countsOperation]
  | _ => exact .kept rfl rfl

variable {snapshot : TaskSnapshot}

theorem reduced_revision (haccepted : reduceJournal events = .ok (some snapshot)) :
    snapshot.revision = events.length := by
  induction haccepted using reduceJournal_induction with
  | create envelope created hreduce =>
    obtain ⟨_, _, _, _, _, _, _, _, _, rfl⟩ := reduceTask_none_iff.mp hreduce
    rfl
  | step events state envelope next _ ih hreduce =>
    obtain ⟨event, -, -, hstep⟩ := reduceTask_some_iff.mp hreduce
    rw [hstep.frame.2.2.2, ih, length_append]
    rfl

theorem reduced_revision_le (haccepted : reduceJournal events = .ok (some snapshot)) :
    snapshot.revision ≤ maxRevision := by
  induction haccepted using reduceJournal_induction with
  | create envelope created hreduce =>
    obtain ⟨_, _, _, _, _, _, _, _, _, rfl⟩ := reduceTask_none_iff.mp hreduce
    simp [created, maxRevision]
  | step events state envelope next _ _ hreduce =>
    obtain ⟨event, -, -, hstep⟩ := reduceTask_some_iff.mp hreduce
    rw [hstep.frame.2.2.2]
    exact hstep.revision

theorem CompletionContract.length_clauses_le {contract : CompletionContract} {u : Unit}
    (h : contract.validate = .ok u) : contract.clauses.length ≤ maxClauses := by
  simp only [validate, ok_iff, not_lt, gt_iff_lt] at h
  obtain ⟨_, _, _, _, hclauses, _⟩ := h
  exact hclauses

theorem reduced_length_clauses_le (haccepted : reduceJournal events = .ok (some snapshot)) :
    snapshot.contract.clauses.length ≤ maxClauses := by
  induction haccepted using reduceJournal_induction with
  | create envelope created hreduce =>
    obtain ⟨_, _, contract, _, _, _, _, _, hvalid, rfl⟩ := reduceTask_none_iff.mp hreduce
    simp only [TaskEvent.validate, bind_eq_ok] at hvalid
    obtain ⟨_, _, _, hcontract, _⟩ := hvalid
    exact CompletionContract.length_clauses_le hcontract
  | step events state envelope next _ ih hreduce =>
    obtain ⟨event, -, -, hstep⟩ := reduceTask_some_iff.mp hreduce
    obtain ⟨changed, heffect, rfl⟩ := hstep.effect
    cases heffect with
    | contractRevised hvalid _ =>
      exact CompletionContract.length_clauses_le hvalid
    | _ => exact ih

/-! ## The counters -/

namespace TaskMetricsReducer

theorem checkedAdd_eq_ok {left right total : Nat} :
    checkedAdd left right = .ok total ↔ left + right ≤ maxU64 ∧ total = left + right := by
  simp only [checkedAdd, ok_iff, not_lt, gt_iff_lt]
  exact and_congr_right fun _ => eq_comm

structure Within (bound : Nat) (reducer : TaskMetricsReducer) : Prop where
  events : reducer.durableEventCount ≤ bound
  requests : reducer.providerRequests ≤ bound
  started : reducer.epochsStarted ≤ bound
  completed : reducer.epochsCompleted ≤ bound
  intents : reducer.operationIntents ≤ bound
  classifications : reducer.terminalClassifications ≤ bound
  succeeded : reducer.operationsSucceeded ≤ bound
  failed : reducer.operationsFailed ≤ bound
  cancelled : reducer.operationsCancelled ≤ bound
  uncertain : reducer.operationsUncertain ≤ bound
  compactions : reducer.compactionsCompleted ≤ bound
  losses : reducer.providerContextLosses ≤ bound
  attempts : reducer.recoveryAttempts ≤ bound

def metricState (status : OperationStatus) : OperationMetricState :=
  ⟨status, status.isResolved⟩

def isDoubtful (status : OperationStatus) : Bool :=
  status == .uncertain || status == .reconciled

/-- The reducer's operation records and counters are those of `statuses`. -/
structure Tallies (statuses : OrderedMap OperationId OperationStatus)
    (reducer : TaskMetricsReducer) : Prop where
  operations : reducer.operations = statuses.mapValues metricState
  intents : reducer.operationIntents = statuses.values.countP fun _ => true
  classifications : reducer.terminalClassifications = statuses.values.countP (·.isResolved)
  succeeded : reducer.operationsSucceeded = statuses.values.countP (· == .succeeded)
  failed : reducer.operationsFailed = statuses.values.countP (· == .failed)
  cancelled : reducer.operationsCancelled = statuses.values.countP (· == .cancelled)
  uncertain : reducer.operationsUncertain = statuses.values.countP isDoubtful

variable {reducer : TaskMetricsReducer} {bound : Nat}
  {statuses : OrderedMap OperationId OperationStatus}

structure Framed (reducer next : TaskMetricsReducer) : Prop where
  taskId : next.taskId = reducer.taskId
  events : next.durableEventCount = reducer.durableEventCount

theorem Within.mono {bound' : Nat} (h : reducer.Within bound)
    (hle : bound ≤ bound') : reducer.Within bound' := by
  obtain ⟨_, _, _, _, _, _, _, _, _, _, _, _, _⟩ := h
  constructor <;> omega

theorem checkedAdd_one {count : Nat} (hcount : count ≤ bound)
    (hroom : bound + 1 ≤ maxU64) : checkedAdd count 1 = .ok (count + 1) :=
  checkedAdd_eq_ok.mpr ⟨by omega, rfl⟩

variable {envelope : EventEnvelope} {next : TaskSnapshot} {event : TaskEvent}

theorem countEvent_kept (hevent : countsOperation event = false) (hwithin : reducer.Within bound)
    (hroom : bound + 1 ≤ maxU64) (htally : reducer.Tallies statuses) :
    ∃ next, reducer.countEvent event = .ok next ∧ reducer.Framed next ∧
      next.Within (bound + 1) ∧ next.Tallies statuses := by
  have hmono := hwithin.mono (Nat.le_succ bound)
  have htally' := htally
  obtain ⟨_, hrequests, hstarted, hcompleted, _, _, _, _, _, _, hcompactions,
    hlosses, hattempts⟩ := hwithin
  obtain ⟨_, _, _, _, _, _, _⟩ := htally
  cases event
  case operationIntentRecorded | operationTransitioned => cases hevent
  case providerRequestRecorded | epochStarted | epochFinished |
      compactionCompleted | providerContextLost | recoveryAttemptStarted =>
    simp only [countEvent, ok_iff, checkedAdd_one hrequests hroom, checkedAdd_one hstarted hroom,
      checkedAdd_one hcompleted hroom, checkedAdd_one hcompactions hroom,
      checkedAdd_one hlosses hroom, checkedAdd_one hattempts hroom, exists_eq_left']
    refine ⟨⟨rfl, rfl⟩, ?_, ?_⟩
    · constructor <;> simp only <;> omega
    · constructor <;> assumption
  case usageObserved =>
    refine ⟨_, rfl, ⟨rfl, rfl⟩, ?_, ?_⟩
    · constructor <;> simp only <;> omega
    · constructor <;> assumption
  all_goals exact ⟨reducer, rfl, ⟨rfl, rfl⟩, hmono, htally'⟩

variable {operationId : OperationId} {source target : OperationStatus}
  {snapshot : TaskSnapshot}

theorem countEvent_intent {epochId : EpochId} {itemId : String} {effectClass : EffectClass}
    {requestDigest : String} (hnew : statuses.find? operationId = none)
    (hwithin : reducer.Within bound) (hroom : bound + 1 ≤ maxU64)
    (htally : reducer.Tallies statuses) :
    ∃ next, reducer.countEvent (.operationIntentRecorded operationId epochId itemId
        effectClass requestDigest) = .ok next ∧
      reducer.Framed next ∧ next.Within (bound + 1) ∧
      next.Tallies (statuses.insert operationId .intentRecorded) := by
  have hfresh : reducer.operations.find? operationId = none := by
    rw [htally.operations, find?_mapValues, hnew]
    rfl
  have hcount := fun p : OperationStatus → Bool =>
    countP_values_insert_of_new hnew .intentRecorded p
  obtain ⟨_, _, _, _, hintents, _, _, _, _, _, _, _, _⟩ := hwithin
  refine ⟨{ reducer with
    operations := reducer.operations.insert operationId ⟨.intentRecorded, false⟩,
    operationIntents := reducer.operationIntents + 1 }, ?_, ⟨rfl, rfl⟩, ?_, ?_⟩
  · simp [countEvent, bind_eq_ok, hfresh, checkedAdd_one hintents hroom]
  · constructor <;> simp only <;> omega
  · constructor <;> simp only [hcount]
    · rw [htally.operations, mapValues_insert]
      rfl
    · simp [htally.intents]
    · simpa [OperationStatus.isResolved] using htally.classifications
    · simpa using htally.succeeded
    · simpa using htally.failed
    · simpa using htally.cancelled
    · simpa [isDoubtful] using htally.uncertain

theorem countP_values_moved {p : OperationStatus → Bool}
    (hfind : statuses.find? operationId = some source)
    (hstays : p source = true → p target = true) :
    (statuses.insert operationId target).values.countP p =
      statuses.values.countP p + (p target && !p source).toNat := by
  have hcount := countP_values_insert_of_found hfind target p
  cases hsource : p source <;> cases htarget : p target <;> simp_all

/-- What an edge of one operation adds to each counter. -/
structure Moved (operationId : OperationId) (source target : OperationStatus)
    (reducer next : TaskMetricsReducer) : Prop where
  operations : next.operations = reducer.operations.insert operationId (metricState target)
  intents : next.operationIntents = reducer.operationIntents
  classifications : next.terminalClassifications = reducer.terminalClassifications +
      (target.isResolved && !source.isResolved).toNat
  succeeded : next.operationsSucceeded = reducer.operationsSucceeded +
    (target == .succeeded && !(source == .succeeded)).toNat
  failed : next.operationsFailed = reducer.operationsFailed +
    (target == .failed && !(source == .failed)).toNat
  cancelled : next.operationsCancelled = reducer.operationsCancelled +
    (target == .cancelled && !(source == .cancelled)).toNat
  uncertain : next.operationsUncertain = reducer.operationsUncertain +
    (isDoubtful target && !isDoubtful source).toNat

theorem countOperationTransition_legal
    (hfind : reducer.operations.find? operationId = some (metricState source))
    (hedge : legalOperationEdge source target = true) (hwithin : reducer.Within bound)
    (hroom : bound + 1 ≤ maxU64) : ∃ next,
      reducer.countOperationTransition operationId source target = .ok next ∧
      reducer.Framed next ∧ next.Within (bound + 1) ∧
      reducer.Moved operationId source target next := by
  obtain ⟨_, _, _, _, _, hclassified, hsucceeded, hfailed, hcancelled,
    huncertain, _, _, _⟩ := hwithin
  cases source <;> cases target <;> simp only [legalOperationEdge, Bool.false_eq_true] at hedge <;>
    simp only [countOperationTransition, hfind, requireSome, classify, classifyOnce, metricState,
      OperationStatus.isResolved, ok_iff, ne_eq, not_true_eq_false, not_false_eq_true, true_and,
      Bool.false_eq_true, checkedAdd_one hclassified hroom, checkedAdd_one hsucceeded hroom,
      checkedAdd_one hfailed hroom, checkedAdd_one hcancelled hroom,
      checkedAdd_one huncertain hroom, exists_eq_left'] <;>
    refine ⟨⟨rfl, rfl⟩, ?_, ⟨rfl, rfl, rfl, rfl, rfl, rfl, rfl⟩⟩ <;>
    constructor <;> simp only <;> omega

theorem Moved.tallies {next : TaskMetricsReducer} (h : reducer.Moved operationId source target next)
    (hfind : statuses.find? operationId = some source)
    (hedge : legalOperationEdge source target = true) (htally : reducer.Tallies statuses) :
    next.Tallies (statuses.insert operationId target) := by
  have hopen := not_isResolved_of_legalOperationEdge hedge
  have hstays : ∀ status : OperationStatus, status.isResolved = true →
      (source == status) = true → (target == status) = true := by
    intro status hresolved hsource
    rw [eq_of_beq hsource, hresolved] at hopen
    cases hopen
  have hdoubtful : isDoubtful source = true → isDoubtful target = true := by
    revert hedge
    cases source <;> cases target <;> decide
  constructor
  · rw [h.operations, htally.operations, mapValues_insert]
  · rw [h.intents, htally.intents, countP_values_moved hfind (p := fun _ => true) (fun _ => rfl)]
    rfl
  · rw [h.classifications, htally.classifications]
    refine (countP_values_moved hfind ?_).symm
    intro hresolved
    rw [hopen] at hresolved
    cases hresolved
  · rw [h.succeeded, htally.succeeded]
    exact (countP_values_moved hfind (hstays .succeeded rfl)).symm
  · rw [h.failed, htally.failed]
    exact (countP_values_moved hfind (hstays .failed rfl)).symm
  · rw [h.cancelled, htally.cancelled]
    exact (countP_values_moved hfind (hstays .cancelled rfl)).symm
  · rw [h.uncertain, htally.uncertain]
    exact (countP_values_moved hfind hdoubtful).symm

theorem countEvent_of_statusChange
    (h : StatusChange state next event) (hwithin : reducer.Within bound)
    (hroom : bound + 1 ≤ maxU64) (htally : reducer.Tallies state.operationStatuses) :
    ∃ counted, reducer.countEvent event = .ok counted ∧
      reducer.Framed counted ∧ counted.Within (bound + 1) ∧
      counted.Tallies next.operationStatuses := by
  cases h with
  | recorded hnew hnext =>
    rw [hnext]
    exact countEvent_intent hnew hwithin hroom htally
  | @moved operationId source target _ hfind hedge hnext =>
    have hknown : reducer.operations.find? operationId = some (metricState source) := by
      rw [htally.operations, find?_mapValues, hfind]
      rfl
    obtain ⟨counted, hcounted, hframed, hwithin', hmoved⟩ :=
      countOperationTransition_legal hknown hedge hwithin hroom
    rw [hnext]
    exact ⟨counted, hcounted, hframed, hwithin', hmoved.tallies hfind hedge htally⟩
  | kept hevent hnext =>
    rw [hnext]
    exact countEvent_kept hevent hwithin hroom htally

/-! ## The replay shadows the reducer -/

/-- After `events`, which lead to `snapshot`. -/
structure Shadows (events : List EventEnvelope) (snapshot : TaskSnapshot)
    (reducer : TaskMetricsReducer) : Prop where
  taskId : reducer.taskId = snapshot.taskId
  replayed : reducer.replayed = some snapshot
  lastSequence : reducer.lastSequence = events.getLast?.map (·.sequence)
  eventCount : reducer.durableEventCount = events.length
  within : reducer.Within events.length
  tallies : reducer.Tallies snapshot.operationStatuses

theorem push_created (hreduce : reduceTask none envelope = .ok snapshot)
    (hsequence : envelope.sequence ≠ 0) :
    ∃ next, (new snapshot.taskId).push envelope = .ok next ∧ next.Shadows [envelope] snapshot := by
  have hone : checkedAdd 0 1 = .ok 1 := by decide
  obtain ⟨taskId, workspace, contract, budget, model, effort, mode, hevent, -,
    hsnapshot⟩ := reduceTask_none_iff.mp hreduce
  have hid : snapshot.taskId = taskId := by rw [hsnapshot]; rfl
  have hempty : snapshot.operationStatuses = empty := by
    rw [hsnapshot]
    rfl
  refine ⟨{ new snapshot.taskId with
    replayed := some snapshot, lastSequence := some envelope.sequence,
    durableEventCount := 1 }, ?_, ⟨rfl, rfl, rfl, rfl, ?_, ?_⟩⟩
  · simp [push, hevent, new, hsequence, hreduce, hid, countEvent, hone, bind_eq_ok]
  · constructor <;> simp [new]
  · rw [hempty]
    constructor <;> rfl

theorem push_step
    (h : reducer.Shadows events state) (hreduce : reduceTask (some state) envelope = .ok next)
    (hrevision : state.revision = events.length) (hsequence : envelope.sequence ≠ 0)
    (hlater : ∀ before ∈ events, before.sequence < envelope.sequence) :
    ∃ counted, reducer.push envelope = .ok counted ∧
      counted.Shadows (events ++ [envelope]) next := by
  obtain ⟨event, hevent, -, hstep⟩ := reduceTask_some_iff.mp hreduce
  obtain ⟨changed, heffect, hnext⟩ := hstep.effect
  have hroom : events.length + 1 ≤ maxU64 := by
    rw [← hrevision]
    exact hstep.revision
  obtain ⟨counted, hcounted, hframed, hwithin, htallies⟩ :=
    countEvent_of_statusChange heffect.statusChange h.within hroom h.tallies
  have hlast : ∀ previous ∈ reducer.lastSequence, ¬ envelope.sequence ≤ previous := by
    intro previous hprevious
    rw [h.lastSequence, Option.mem_def, Option.map_eq_some_iff] at hprevious
    obtain ⟨before, hbefore, rfl⟩ := hprevious
    have hlt := hlater before (mem_of_getLast? hbefore)
    omega
  have hadd : checkedAdd counted.durableEventCount 1 = .ok (events.length + 1) := by
    rw [hframed.events, h.eventCount]
    exact checkedAdd_one (Nat.le_refl _) hroom
  refine ⟨{ counted with
    replayed := some next, lastSequence := some envelope.sequence,
    durableEventCount := events.length + 1 }, ?_, ?_⟩
  · simp only [push, hevent, ok_iff, h.taskId, h.replayed, hreduce, hcounted, hadd, exists_eq_left',
      hsequence, false_or, ne_eq, not_true_eq_false, not_false_eq_true, not_exists, not_and,
      and_true]
    exact hlast
  · constructor
    · simp only [hframed.taskId, h.taskId, hstep.frame.1]
    · rfl
    · simp
    · simp
    · obtain ⟨_, _, _, _, _, _, _, _, _, _, _, _, _⟩ := hwithin
      constructor <;> simp only [length_append, length_singleton] <;> omega
    · have hstatuses : next.operationStatuses = changed.operationStatuses := by
        rw [hnext]
        rfl
      rw [hstatuses]
      obtain ⟨_, _, _, _, _, _, _⟩ := htallies
      constructor <;> assumption

/-- An accepted journal with increasing sequences is replayed to its end. -/
theorem foldlM_push_shadows (haccepted : reduceJournal events = .ok (some snapshot))
    (hincreasing : events.Pairwise fun a b => a.sequence < b.sequence)
    (hnonzero : ∀ envelope ∈ events, envelope.sequence ≠ 0) :
    ∃ reducer, events.foldlM push (new snapshot.taskId) = .ok reducer ∧
      reducer.Shadows events snapshot := by
  induction haccepted using reduceJournal_induction with
  | create envelope snapshot hreduce =>
    obtain ⟨next, hpush, hshadows⟩ := push_created hreduce (hnonzero envelope (by simp))
    exact ⟨next, foldlM_cons_eq_ok.mpr ⟨next, hpush, rfl⟩, hshadows⟩
  | step events state envelope next hstate ih hreduce =>
    rw [pairwise_append] at hincreasing
    obtain ⟨hbefore, -, hlater⟩ := hincreasing
    obtain ⟨reducer, hfold, hshadows⟩ := ih hbefore
      fun earlier hearlier => hnonzero earlier (by simp [hearlier])
    obtain ⟨event, -, -, hstep⟩ := reduceTask_some_iff.mp hreduce
    obtain ⟨counted, hpush, hcounted⟩ := push_step hshadows hreduce
      (reduced_revision hstate) (hnonzero envelope (by simp))
      fun before hmem => hlater before hmem envelope (by simp)
    refine ⟨counted, ?_, hcounted⟩
    rw [hstep.frame.1]
    exact foldlM_concat_eq_ok.mpr ⟨reducer, hfold, hpush⟩

theorem clauseCount_of_bounded {contract : CompletionContract} {p : CompletionClause → Bool}
    (hclauses : contract.clauses.length ≤ maxClauses) :
    clauseCount contract p = .ok (contract.clauses.filter p).length := by
  have hle := length_filter_le p contract.clauses
  have hroom : maxClauses ≤ maxU32 := by decide
  have hcount : ¬ (contract.clauses.filter p).length > maxU32 := by omega
  simp [clauseCount, rejectIf, hcount, bind, Except.bind]

theorem Shadows.intents (h : reducer.Shadows events snapshot) :
    reducer.operationIntents = snapshot.operations.keys.length := by
  rw [h.tallies.intents, operationStatuses]
  simp [values, OrderedMap.keys, mapValues]

theorem Shadows.unresolved (h : reducer.Shadows events snapshot) :
    reducer.operationIntents = reducer.terminalClassifications +
      snapshot.unresolvedOperationCount := by
  rw [h.tallies.intents, h.tallies.classifications, unresolvedOperationCount, operationCount_eq,
    countP_true, length_eq_countP_add_countP (·.isResolved)]
  simp

theorem countP_isDoubtful (statuses : List OperationStatus) : statuses.countP isDoubtful =
      statuses.countP (· == .uncertain) + statuses.countP (· == .reconciled) := by
  induction statuses with
  | nil => rfl
  | cons status rest ih =>
    simp only [countP_cons, ih]
    cases status <;> simp [isDoubtful] <;> omega

end TaskMetricsReducer

open TaskMetricsReducer in
/-- The metrics of an accepted journal exist and count its snapshot. -/
theorem deriveTaskMetrics_counts_snapshot {events : List EventEnvelope} {snapshot : TaskSnapshot}
    (haccepted : reduceJournal events = .ok (some snapshot))
    (hincreasing : events.Pairwise fun a b => a.sequence < b.sequence)
    (hnonzero : ∀ envelope ∈ events, envelope.sequence ≠ 0) :
    ∃ metrics, deriveTaskMetrics snapshot.taskId events snapshot = .ok metrics ∧
      metrics.durableEventCount = events.length ∧
      events.getLast?.map (·.sequence) = some metrics.durableSequenceEnd ∧
      metrics.operationsSucceeded = snapshot.operationCount (· == .succeeded) ∧
      metrics.operationsFailed = snapshot.operationCount (· == .failed) ∧
      metrics.operationsCancelled = snapshot.operationCount (· == .cancelled) ∧
      metrics.operationIntents = snapshot.operations.keys.length ∧
      metrics.unresolvedOperations = snapshot.operationCount (fun status => !status.isResolved) ∧
      snapshot.operationCount (· == .uncertain) + snapshot.operationCount (· == .reconciled) ≤
        metrics.operationsUncertain := by
  obtain ⟨reducer, hfold, hshadows⟩ := foldlM_push_shadows haccepted hincreasing hnonzero
  have hroom : events.length ≤ maxU64 := by
    rw [← reduced_revision haccepted]
    exact reduced_revision_le haccepted
  have hlast : ∃ last, events.getLast?.map (·.sequence) = some last := by
    cases hevents : events.getLast? with
    | none =>
      have hnil := getLast?_eq_none_iff.mp hevents
      exact absurd hnil (reduced_ne_nil haccepted)
    | some envelope => exact ⟨envelope.sequence, rfl⟩
  obtain ⟨last, hlast⟩ := hlast
  have hintents := hshadows.within.intents
  have hsplit := hshadows.unresolved
  have hsub : reducer.operationIntents - reducer.terminalClassifications =
      snapshot.unresolvedOperationCount := by omega
  have hcovered : ¬ reducer.operationIntents < reducer.terminalClassifications := by
    omega
  have hbounded : ¬ snapshot.unresolvedOperationCount > maxU64 := by omega
  simp only [deriveTaskMetrics, hfold, finish, ok_iff, hshadows.replayed, hshadows.taskId,
    hshadows.lastSequence, hlast, hsub, hcovered, hbounded,
    clauseCount_of_bounded (reduced_length_clauses_le haccepted), Option.some.injEq,
    exists_eq_left', ne_eq, not_true_eq_false, or_self, not_false_eq_true, true_and]
  refine ⟨hshadows.eventCount, ?_, ?_, ?_, hshadows.intents, rfl, ?_⟩
  · rw [hshadows.tallies.succeeded, operationCount_eq]
  · rw [hshadows.tallies.failed, operationCount_eq]
  · rw [hshadows.tallies.cancelled, operationCount_eq]
  · rw [hshadows.tallies.uncertain, countP_isDoubtful, operationCount_eq, operationCount_eq]

namespace Sample

def reconciledJournal : List EventEnvelope :=
  envelopes 3 (evidencedEvents [] digest ++
    [.operationTransitioned operationId .started .uncertain [8],
      .operationEvidenceRecorded operationId digest,
      .operationTransitioned operationId .uncertain .reconciled [10]])

end Sample

theorem metrics_of_reconciled_journal : ∃ snapshot metrics,
      reduceJournal Sample.reconciledJournal = .ok (some snapshot) ∧
      deriveTaskMetrics Sample.taskId Sample.reconciledJournal snapshot = .ok metrics ∧
      metrics.durableEventCount = 9 ∧
      1 ≤ metrics.operationsUncertain := by
  have hincreasing : Sample.reconciledJournal.Pairwise
      fun a b => a.sequence < b.sequence := by decide
  have hnonzero : ∀ envelope ∈ Sample.reconciledJournal, envelope.sequence ≠ 0 := by decide
  obtain ⟨metrics, hmetrics, hcount, -, -, -, -, -, -, huncertain⟩ :=
    @deriveTaskMetrics_counts_snapshot Sample.reconciledJournal _ rfl hincreasing hnonzero
  exact ⟨_, metrics, rfl, hmetrics, hcount, huncertain⟩

end CarlAgent.Task
