import CarlAgent.Task.Ledger

/-!
# Two replays of the operation events

The reducer and the checkpoint builder replay the same journal.  The builder
succeeds where the reducer does and every operation is resolved, except that
it also requires the evidence of a transition to lie in the source range.
-/

namespace CarlAgent.Task

open Foundation OrderedMap

variable {envelope : EventEnvelope} {events : List EventEnvelope}
  {first last sequence : Nat} {operations : OperationBuildMap}

def Ledger.Resolved (ledger : Ledger) : Prop :=
  ∀ operationId cell, ledger operationId = some cell → cell.status.isResolved = true

variable {snapshot : TaskSnapshot} {event : TaskEvent}
  {next start : OperationBuildMap}

theorem TaskSnapshot.ledger_resolved :
    snapshot.ledger.Resolved ↔ snapshot.hasUnresolvedOperations = false := by
  rw [hasUnresolvedOperations_eq_false]
  constructor
  · intro h operationId operation hfind
    exact h operationId operation.cell (by simp [ledger, hfind])
  · intro h operationId cell hcell
    obtain ⟨operation, hfind, rfl⟩ := Option.map_eq_some_iff.mp hcell
    exact h operationId operation hfind

theorem buildLedger_resolved : (buildLedger operations).Resolved ↔
      ¬ ∃ operation ∈ operations.values, ¬ operation.checkpoint.status.isResolved = true := by
  simp only [not_exists, not_and, not_not, mem_values_iff]
  constructor
  · rintro h operation ⟨operationId, hfind⟩
    exact h operationId operation.cell (by simp [buildLedger, hfind])
  · intro h operationId cell hcell
    obtain ⟨operation, hfind, rfl⟩ := Option.map_eq_some_iff.mp hcell
    exact h operation ⟨operationId, hfind⟩

def Ledger.RecordedFrom (first : Nat) (ledger : Ledger) : Prop :=
  ∀ operationId cell, ledger operationId = some cell →
    ∀ sequence, cell.evidence.recordedSequences.contains sequence = true →
      first ≤ sequence

theorem Ledger.RecordedFrom.set {ledger : Ledger} {operationId : OperationId} {cell : OperationCell}
    (h : ledger.RecordedFrom first)
    (hcell : ∀ sequence, cell.evidence.recordedSequences.contains sequence = true →
        first ≤ sequence) : (ledger.set operationId cell).RecordedFrom first := by
  intro other found hfound
  by_cases hother : other = operationId
  · subst hother
    obtain rfl : cell = found := by simpa [Ledger.set] using hfound
    exact hcell
  · exact h other found (by simpa [Ledger.set, hother] using hfound)

theorem Ledger.Step.recordedFrom {ledger next : Ledger}
    (hstep : Ledger.Step ledger sequence event next) (hfirst : first ≤ sequence)
    (h : ledger.RecordedFrom first) : next.RecordedFrom first := by
  cases hstep with
  | intent hnew =>
    refine h.set ?_
    simp [OperationCell.intent, OperationEvidenceState.default, contains]
  | @transition operationId _ _ _ cell _ hcell hnext =>
    obtain ⟨evidence, hevidence, rfl⟩ := map_eq_ok_iff.mp hnext
    refine h.set ?_
    obtain ⟨-, -, -, -, hchange⟩ := OperationEvidenceState.transition_eq_ok.mp hevidence
    rcases hchange with ⟨-, rfl⟩ | ⟨-, -, -, rfl⟩ <;>
      exact h operationId cell hcell
  | @record operationId _ cell _ hcell hnext =>
    obtain ⟨evidence, hevidence, rfl⟩ := map_eq_ok_iff.mp hnext
    obtain ⟨-, -, -, rfl⟩ := OperationEvidenceState.record_eq_ok.mp hevidence
    refine h.set ?_
    intro recorded hrecorded
    rcases (contains_insert _ _ _ _).mp hrecorded with rfl | hold
    · exact hfirst
    · exact h operationId cell hcell recorded hold
  | skip _ => exact h

/-- The event starts an operation and cites a sequence before `first`. -/
def citesBefore (first : Nat) : TaskEvent → Bool
  | .operationTransitioned _ _ .started evidenceSequences =>
    evidenceSequences.any fun cited => decide (cited < first)
  | _ => false

private theorem requiresTerminalEvidence_eq_false {source target : OperationStatus}
    (hedge : legalOperationEdge source target = true) :
    target.requiresTerminalEvidence = false ↔ target = .started := by
  cases source <;> cases target <;>
    simp_all [legalOperationEdge, OperationStatus.requiresTerminalEvidence]

/-- On an event the reducer accepts, the range check can only fail on the
evidence of a start: all other evidence has to be recorded. -/
theorem evidenceInRange_iff {ledger next : Ledger} (hstep : Ledger.Step ledger sequence event next)
    (hrecorded : ledger.RecordedFrom first) (hlast : sequence ≤ last) :
    EvidenceInRange first last sequence event ↔ citesBefore first event = false := by
  cases hstep with
  | intent _ => simp [EvidenceInRange, citesBefore]
  | @transition operationId source target evidenceSequences cell _ hcell
    hnext =>
    obtain ⟨evidence, hevidence, -⟩ := map_eq_ok_iff.mp hnext
    obtain ⟨-, hedge, -, hbefore, hterminal⟩ := OperationEvidenceState.transition_eq_ok.mp hevidence
    have hrange : ∀ cited ∈ evidenceSequences, cited ≤ last ∧ cited < sequence := by
      intro cited hcited
      have hlt := hbefore cited hcited
      omega
    by_cases hstarted : target = .started
    · subst hstarted
      simp only [EvidenceInRange, citesBefore, List.any_eq_false, decide_eq_true_eq, not_lt]
      constructor
      · intro h cited hcited
        exact (h cited hcited).1
      · intro h cited hcited
        exact ⟨h cited hcited, hrange cited hcited⟩
    · have hcites : citesBefore first (.operationTransitioned operationId
          source target evidenceSequences) = false := by
        cases target <;> simp_all [citesBefore]
      rw [hcites]
      refine iff_of_true ?_ rfl
      rcases hterminal with ⟨hnone, -⟩ | ⟨-, -, hcited, -⟩
      · exact absurd ((requiresTerminalEvidence_eq_false hedge).mp hnone) hstarted
      · intro cited hmem
        refine ⟨?_, hrange cited hmem⟩
        exact hrecorded operationId cell hcell cited (hcited cited hmem).2.1
  | record _ _ => simp [EvidenceInRange, citesBefore]
  | skip hevent =>
    cases event <;> simp_all [isOperationEvent, EvidenceInRange, citesBefore]

/-! ## The builder beside the reducer -/

theorem foldlM_buildOperation_concat :
    (events ++ [envelope]).foldlM (buildOperation first last) start = .ok next ↔
      ∃ operations, events.foldlM (buildOperation first last) start = .ok operations ∧
          ∃ taskId event, envelope.event = .taskLifecycle taskId event ∧
            BuildEffect first last operations envelope.sequence event next := by
  rw [foldlM_concat_eq_ok]
  exact exists_congr fun operations =>
    and_congr_right fun _ => buildOperation_eq_ok

theorem foldlM_buildOperation_singleton :
    [envelope].foldlM (buildOperation first last) start = .ok next ↔
      ∃ taskId event, envelope.event = .taskLifecycle taskId event ∧
        BuildEffect first last start envelope.sequence event next := by
  rw [foldlM_cons_eq_ok, ← buildOperation_eq_ok]
  simp [pure, Except.pure]

private theorem creation_ledger {snapshot : TaskSnapshot}
    (h : reduceTask none envelope = .ok snapshot) :
    snapshot.ledger = .empty ∧
      ∃ taskId event, envelope.event = .taskLifecycle taskId event ∧
        isOperationEvent event = false := by
  obtain ⟨taskId, _, _, _, _, _, _, hevent, -, rfl⟩ := reduceTask_none_iff.mp h
  exact ⟨rfl, taskId, _, hevent, rfl⟩

theorem reduced_recordedFrom (haccepted : reduceJournal events = .ok (some snapshot))
    (hfirst : ∀ envelope ∈ events, first ≤ envelope.sequence) :
    snapshot.ledger.RecordedFrom first := by
  induction haccepted using reduceJournal_induction with
  | create envelope created hreduce =>
    rw [(creation_ledger hreduce).1]
    intro operationId cell hcell
    simp [Ledger.empty] at hcell
  | step events state envelope next _ ih hreduce =>
    obtain ⟨event, -, -, hstep⟩ := reduceTask_some_iff.mp hreduce
    have hbefore : state.ledger.RecordedFrom first :=
      ih fun other hother => hfirst other (by simp [hother])
    exact hstep.ledger_step.recordedFrom (hfirst envelope (by simp)) hbefore

theorem builder_agrees (haccepted : reduceJournal events = .ok (some snapshot))
    (hbuild : events.foldlM (buildOperation first last) empty = .ok operations) :
    buildLedger operations = snapshot.ledger := by
  induction haccepted using reduceJournal_induction generalizing operations with
  | create envelope created hreduce =>
    obtain ⟨hempty, taskId, event, hevent, hskip⟩ := creation_ledger hreduce
    rw [hempty]
    obtain ⟨taskId', event', hevent', heffect⟩ := foldlM_buildOperation_singleton.mp hbuild
    obtain ⟨rfl, rfl⟩ : taskId = taskId' ∧ event = event' := by
      simpa using hevent.symm.trans hevent'
    exact heffect.ledger_step.unique (.skip hskip)
  | step events state envelope next _ ih hreduce =>
    obtain ⟨event, hevent, -, hstep⟩ := reduceTask_some_iff.mp hreduce
    obtain ⟨start, hstart, taskId', event', hevent', heffect⟩ :=
      foldlM_buildOperation_concat.mp hbuild
    obtain ⟨-, rfl⟩ : state.taskId = taskId' ∧ event = event' := by
      simpa using hevent.symm.trans hevent'
    have hledger : buildLedger start = state.ledger := ih hstart
    exact (hledger ▸ heffect.ledger_step).unique hstep.ledger_step

def NoEarlyCitation (first : Nat) (events : List EventEnvelope) : Prop :=
  ∀ envelope ∈ events, ∀ event ∈ envelope.taskEvent?, citesBefore first event = false

def ResultDigestsValid (events : List EventEnvelope) : Prop :=
  ∀ envelope ∈ events, ∀ event ∈ envelope.taskEvent?, resultDigestValid event = true

instance (events : List EventEnvelope) : Decidable (ResultDigestsValid events) :=
  inferInstanceAs (Decidable (∀ envelope ∈ events,
    ∀ event ∈ envelope.taskEvent?, resultDigestValid event = true))

private theorem citesBefore_of_skip {event : TaskEvent} (hskip : isOperationEvent event = false) :
    citesBefore first event = false := by
  cases event <;> simp_all [isOperationEvent, citesBefore]

private theorem noEarlyCitation_concat {taskId : TaskId} {event : TaskEvent}
    (hevent : envelope.event = .taskLifecycle taskId event) :
    NoEarlyCitation first (events ++ [envelope]) ↔
      NoEarlyCitation first events ∧ citesBefore first event = false := by
  constructor
  · intro h
    refine ⟨fun other hother => h other (by simp [hother]), ?_⟩
    exact h envelope (by simp) event
      (EventEnvelope.taskEvent?_eq_some.mpr ⟨_, hevent⟩)
  · rintro ⟨hevents, hlast⟩ other hother event' hevent'
    rcases List.mem_append.mp hother with hold | hnew
    · exact hevents other hold event' hevent'
    · obtain rfl : other = envelope := by simpa using hnew
      obtain rfl : event = event' := by
        simpa [EventEnvelope.taskEvent?, hevent] using hevent'
      exact hlast

theorem builder_succeeds_iff (haccepted : reduceJournal events = .ok (some snapshot))
    (hwithin : ∀ envelope ∈ events, first ≤ envelope.sequence ∧ envelope.sequence ≤ last)
    (hdigests : ResultDigestsValid events) :
    (∃ operations, events.foldlM (buildOperation first last) empty = .ok operations) ↔
      NoEarlyCitation first events := by
  induction haccepted using reduceJournal_induction with
  | create envelope created hreduce =>
    obtain ⟨_, taskId, event, hevent, hskip⟩ := creation_ledger hreduce
    refine iff_of_true ⟨empty, ?_⟩ ?_
    · exact foldlM_buildOperation_singleton.mpr ⟨taskId, event, hevent, .skip hskip⟩
    · intro other hother event' hevent'
      obtain rfl : other = envelope := by simpa using hother
      obtain rfl : event = event' := by
        simpa [EventEnvelope.taskEvent?, hevent] using hevent'
      exact citesBefore_of_skip hskip
  | step events state envelope next hstate ih hreduce =>
    obtain ⟨event, hevent, -, hstep⟩ := reduceTask_some_iff.mp hreduce
    have hbefore : ∀ other ∈ events, first ≤ other.sequence ∧ other.sequence ≤ last :=
      fun other hother => hwithin other (by simp [hother])
    have hrecorded : state.ledger.RecordedFrom first :=
      reduced_recordedFrom hstate fun other hother => (hbefore other hother).1
    have hrange : EvidenceInRange first last envelope.sequence event ↔
        citesBefore first event = false :=
      evidenceInRange_iff hstep.ledger_step hrecorded (hwithin envelope (by simp)).2
    have hdigest : resultDigestValid event = true := hdigests envelope (by simp) event
        (EventEnvelope.taskEvent?_eq_some.mpr ⟨_, hevent⟩)
    have hih := ih hbefore fun other hother => hdigests other (by simp [hother])
    -- The builder takes the last turn exactly when the range check passes.
    have hturn : ∀ operations, events.foldlM (buildOperation first last) empty =
          .ok operations →
        ((∃ result, BuildEffect first last operations envelope.sequence event
          result) ↔ citesBefore first event = false) := by
      intro operations hoperations
      rw [BuildEffect.iff_ledger_step, builder_agrees hstate hoperations, hrange]
      exact ⟨fun h => h.2.1, fun h => ⟨⟨_, hstep.ledger_step⟩, h, hdigest⟩⟩
    rw [noEarlyCitation_concat hevent, ← hih]
    constructor
    · rintro ⟨result, hresult⟩
      obtain ⟨operations, hoperations, taskId', event', hevent', heffect⟩ :=
        foldlM_buildOperation_concat.mp hresult
      obtain ⟨-, rfl⟩ : state.taskId = taskId' ∧ event = event' := by
        simpa using hevent.symm.trans hevent'
      exact ⟨⟨operations, hoperations⟩, (hturn operations hoperations).mp ⟨result, heffect⟩⟩
    · rintro ⟨⟨operations, hoperations⟩, hcites⟩
      obtain ⟨result, heffect⟩ := (hturn operations hoperations).mpr hcites
      exact ⟨result, foldlM_buildOperation_concat.mpr
        ⟨operations, hoperations, state.taskId, event, hevent, heffect⟩⟩

/-! ## The list that the builder returns -/

/-- The checkpoint of an operation names it and lists what it consumed. -/
def WellFormedBuild (operations : OperationBuildMap) : Prop :=
  ∀ operationId operation, operations.find? operationId = some operation →
    operation.checkpoint.operationId = operationId ∧ operation.checkpoint.evidenceSequences =
        operation.evidence.consumedSequences

private theorem WellFormedBuild.insert {operationId : OperationId} {operation : OperationBuildState}
    (h : WellFormedBuild operations) (hid : operation.checkpoint.operationId = operationId)
    (hconsumed : operation.checkpoint.evidenceSequences = operation.evidence.consumedSequences) :
    WellFormedBuild (operations.insert operationId operation) := by
  intro other found hfound
  rw [find?_insert] at hfound
  split at hfound
  · rename_i hother
    obtain rfl := Option.some.inj hfound
    exact ⟨hother ▸ hid, hconsumed⟩
  · exact h other found hfound

theorem BuildEffect.wellFormed (heffect : BuildEffect first last operations sequence event next)
    (h : WellFormedBuild operations) : WellFormedBuild next := by
  cases heffect with
  | intent _ => exact h.insert rfl rfl
  | transition hfind _ _ => exact h.insert (h _ _ hfind).1 rfl
  | record hfind _ hevidence =>
    obtain ⟨-, -, -, rfl⟩ := OperationEvidenceState.record_eq_ok.mp hevidence
    exact h.insert (h _ _ hfind).1 (h _ _ hfind).2
  | skip _ => exact h

theorem foldlM_buildOperation_wellFormed (hstart : WellFormedBuild start)
    (hbuild : events.foldlM (buildOperation first last) start = .ok operations) :
    WellFormedBuild operations := by
  refine foldlM_invariant ?_ hstart hbuild
  intro before envelope after _ hbefore hturn
  obtain ⟨_, _, _, heffect⟩ := buildOperation_eq_ok.mp hturn
  exact heffect.wellFormed hbefore

theorem buildOperations_eq_ok {previous : Option CanonicalCheckpoint}
    {result : List OperationCheckpoint} :
    buildOperations previous events first last = .ok result ↔
      ∃ operations, events.foldlM (buildOperation first last)
          (carriedOperations previous) = .ok operations ∧
        (buildLedger operations).Resolved ∧
        result = operations.values.map (·.checkpoint) := by
  simp only [buildOperations, ok_iff, buildLedger_resolved]
  exact exists_congr fun operations => and_congr_right fun _ =>
    and_congr_right fun _ => eq_comm

theorem checkpoints_of_agreement (hwell : WellFormedBuild operations)
    (hledger : buildLedger operations = snapshot.ledger) :
    operations.values.map (fun operation =>
        (operation.checkpoint.operationId, operation.checkpoint.status,
          operation.checkpoint.evidenceSequences)) = snapshot.operations.entries.map (fun entry =>
        (entry.1, entry.2.status, entry.2.evidence.consumedSequences)) := by
  have hentries := entries_map_eq
    (f := fun operation : OperationBuildState =>
      (operation.cell.status, operation.cell.evidence.consumedSequences))
    (g := fun operation : OperationSnapshot =>
      (operation.cell.status, operation.cell.evidence.consumedSequences))
    (a := operations) (b := snapshot.operations) (by
      intro operationId
      have hcell := congrFun hledger operationId
      simp only [buildLedger, TaskSnapshot.ledger] at hcell
      have hview := congrArg (Option.map fun cell : OperationCell =>
        (cell.status, cell.evidence.consumedSequences)) hcell
      rw [Option.map_map, Option.map_map] at hview
      exact hview)
  have hleft : operations.values.map (fun operation =>
      (operation.checkpoint.operationId, operation.checkpoint.status,
        operation.checkpoint.evidenceSequences)) =
      operations.entries.map (fun entry => (entry.1, entry.2.cell.status,
        entry.2.cell.evidence.consumedSequences)) := by
    rw [values, List.map_map]
    refine List.map_congr_left ?_
    rintro ⟨operationId, operation⟩ hmem
    obtain ⟨hid, hconsumed⟩ := hwell operationId operation (find?_eq_some_iff.mpr hmem)
    simp [hid, hconsumed, OperationBuildState.cell]
  rw [hleft]
  exact hentries

def firstSequence (events : List EventEnvelope) : Nat :=
  (events.head?.map (·.sequence)).getD 0

def lastSequence (events : List EventEnvelope) : Nat :=
  (events.getLast?.map (·.sequence)).getD 0

theorem within_of_increasing (hincreasing : events.Pairwise fun a b => a.sequence < b.sequence) :
    ∀ envelope ∈ events, firstSequence events ≤ envelope.sequence ∧
      envelope.sequence ≤ lastSequence events := by
  intro envelope hmem
  constructor
  · cases events with
    | nil => simp at hmem
    | cons head rest =>
      rcases List.mem_cons.mp hmem with rfl | hrest
      · simp [firstSequence]
      · have hlt := (List.pairwise_cons.mp hincreasing).1 envelope hrest
        simp only [firstSequence, List.head?_cons, Option.map_some, Option.getD_some]
        omega
  · cases events using List.reverseRecOn with
    | nil => simp at hmem
    | append_singleton rest last =>
      rcases List.mem_append.mp hmem with hrest | hlast
      · have hlt := (List.pairwise_append.mp hincreasing).2.2 envelope hrest last (by simp)
        simp only [lastSequence, List.getLast?_append, List.getLast?_singleton,
          Option.some_or, Option.map_some, Option.getD_some]
        omega
      · obtain rfl : envelope = last := by simpa using hlast
        simp [lastSequence]

theorem sourceRange_none (hne : events ≠ [])
    (hincreasing : events.Pairwise fun a b => a.sequence < b.sequence) :
    sourceRange none events = .ok (firstSequence events, lastSequence events) := by
  obtain ⟨head, hhead⟩ : ∃ head, events.head? = some head := by
    cases events with
    | nil => exact absurd rfl hne
    | cons head rest => exact ⟨head, rfl⟩
  obtain ⟨last, hlast⟩ : ∃ last, events.getLast? = some last :=
    Option.isSome_iff_exists.mp (by simpa using hne)
  have hle : head.sequence ≤ last.sequence := by
    have hmem : last ∈ events := List.mem_of_getLast? hlast
    have hwithin := (within_of_increasing hincreasing last hmem).1
    simpa [firstSequence, hhead] using hwithin
  simp [sourceRange, firstSequence, lastSequence, hhead, hlast, bind,
    Except.bind, requireSome, rejectIf, hle]

theorem reduced_ne_nil (haccepted : reduceJournal events = .ok (some snapshot)) : events ≠ [] := by
  rintro rfl
  simp [reduceJournal, pure, Except.pure] at haccepted

/-- The builder of a checkpoint and the reducer agree on the operations of a journal. -/
theorem buildSourceOperations_agrees_with_reducer {events : List EventEnvelope}
    {snapshot : TaskSnapshot} (haccepted : reduceJournal events = .ok (some snapshot))
    (hincreasing : events.Pairwise fun a b => a.sequence < b.sequence)
    (hdigests : ResultDigestsValid events) :
    ((∃ operations, buildSourceOperations none events = .ok operations) ↔
      snapshot.hasUnresolvedOperations = false ∧
        NoEarlyCitation (firstSequence events) events) ∧
    ∀ operations, buildSourceOperations none events = .ok operations →
      operations.map (fun operation =>
          (operation.operationId, operation.status, operation.evidenceSequences)) =
        snapshot.operations.entries.map (fun entry =>
          (entry.1, entry.2.status, entry.2.evidence.consumedSequences)) := by
  have hrange := sourceRange_none (reduced_ne_nil haccepted) hincreasing
  have hsource : ∀ operations, buildSourceOperations none events = .ok operations ↔
        ∃ built, events.foldlM (buildOperation (firstSequence events)
            (lastSequence events)) empty = .ok built ∧
          snapshot.hasUnresolvedOperations = false ∧
          operations = built.values.map (·.checkpoint) := by
    intro operations
    simp only [buildSourceOperations, hrange, bind, Except.bind]
    rw [buildOperations_eq_ok]
    refine exists_congr fun built => and_congr_right fun hbuilt => ?_
    rw [builder_agrees haccepted hbuilt, TaskSnapshot.ledger_resolved]
  have hsucceeds := builder_succeeds_iff haccepted (within_of_increasing hincreasing) hdigests
  constructor
  · rw [← hsucceeds]
    constructor
    · rintro ⟨operations, hbuild⟩
      obtain ⟨built, hbuilt, hresolved, -⟩ := (hsource operations).mp hbuild
      exact ⟨hresolved, built, hbuilt⟩
    · rintro ⟨hresolved, built, hbuilt⟩
      exact ⟨_, (hsource _).mpr ⟨built, hbuilt, hresolved, rfl⟩⟩
  · intro operations hbuild
    obtain ⟨built, hbuilt, -, rfl⟩ := (hsource operations).mp hbuild
    have hwell : WellFormedBuild built := by
      refine foldlM_buildOperation_wellFormed ?_ hbuilt
      intro operationId operation hfind
      simp at hfind
    rw [List.map_map]
    exact checkpoints_of_agreement hwell (builder_agrees haccepted hbuilt)

/-! ## A start that cites evidence before the journal -/

namespace Sample

def digest : String :=
  "aaaaaaaaaaaaaaaaaaaaaaaaaaaaaaaaaaaaaaaaaaaaaaaaaaaaaaaaaaaaaaaa"

/-- One operation from its intent to its success, from sequence 5 on; its
start cites `cited`. -/
def operationJournal (cited : List Nat) : List EventEnvelope :=
  envelopes 5 (evidencedEvents cited digest ++
    [.operationTransitioned operationId .started .succeeded [10]])

end Sample

theorem resolved_journal_with_early_citation :
    ∃ events snapshot, reduceJournal events = .ok (some snapshot) ∧
      events.Pairwise (fun a b => a.sequence < b.sequence) ∧
      (∀ envelope ∈ events, envelope.sequence ≠ 0) ∧
      ResultDigestsValid events ∧
      snapshot.hasUnresolvedOperations = false ∧
      buildSourceOperations none events = .error .invalidEvidenceRange := by
  exact ⟨Sample.operationJournal [1], _, rfl, by decide, by decide, by decide, rfl, rfl⟩

theorem builder_agrees_on_sample : ∃ snapshot operations,
      reduceJournal (Sample.operationJournal []) = .ok (some snapshot) ∧
      buildSourceOperations none (Sample.operationJournal []) = .ok operations ∧
      operations.map (fun operation =>
          (operation.operationId, operation.status, operation.evidenceSequences)) =
        snapshot.operations.entries.map (fun entry =>
          (entry.1, entry.2.status, entry.2.evidence.consumedSequences)) := by
  refine ⟨_, _, rfl, rfl, ?_⟩
  have hincreasing : (Sample.operationJournal []).Pairwise
      fun a b => a.sequence < b.sequence := by decide
  have hdigests : ResultDigestsValid (Sample.operationJournal []) := by decide
  exact (buildSourceOperations_agrees_with_reducer rfl hincreasing hdigests).2 _ rfl

end CarlAgent.Task
