import CarlAgent.Task.Ledger

/-!
# How evidence is used

Every piece of evidence that a transition consumes was recorded for the same
operation after its previous transition, and nothing consumes it again.
-/

namespace CarlAgent.Task

open Foundation List

def recordsEvidence (operationId : OperationId) (envelope : EventEnvelope) : Bool :=
  match envelope.taskEvent? with
  | some (.operationEvidenceRecorded recorded _) =>
    decide (recorded = operationId)
  | _ => false

/-- The envelope records the operation's intent or changes its status. -/
def movesOperation (operationId : OperationId) (envelope : EventEnvelope) : Bool :=
  match envelope.taskEvent? with
  | some (.operationIntentRecorded moved _ _ _ _) =>
    decide (moved = operationId)
  | some (.operationTransitioned moved _ _ _) => decide (moved = operationId)
  | _ => false

/--
A transition of the operation to a status that requires evidence cites
`sequence`, which lies before that transition and after every earlier one.
-/
def Consumes (events : List EventEnvelope) (operationId : OperationId) (sequence : Nat) : Prop :=
  ∃ before envelope after source target evidenceSequences, events = before ++ envelope :: after ∧
    envelope.taskEvent? = some (.operationTransitioned operationId source
      target evidenceSequences) ∧
    target.requiresTerminalEvidence = true ∧
    sequence ∈ evidenceSequences ∧ sequence < envelope.sequence ∧
    ∀ earlier ∈ before, movesOperation operationId earlier = true → earlier.sequence < sequence

variable {events : List EventEnvelope} {envelope : EventEnvelope} {sequences : List Nat}

theorem Consumes.append {operationId : OperationId} {sequence : Nat}
    (h : Consumes events operationId sequence) (later : List EventEnvelope) :
    Consumes (events ++ later) operationId sequence := by
  obtain ⟨before, envelope, after, source, target, evidenceSequences, rfl, hrest⟩ := h
  exact ⟨before, envelope, after ++ later, source, target, evidenceSequences, by simp, hrest⟩

theorem neighbours_increasing
    (h : ∀ pair ∈ Text.neighbours sequences, pair.1 < pair.2) : sequences.Pairwise (· < ·) := by
  induction sequences with
  | nil => exact .nil
  | cons first rest ih =>
    cases rest with
    | nil => simp
    | cons second rest =>
      have hrest : (second :: rest).Pairwise (· < ·) := ih fun pair hpair => h pair (by
          simp only [Text.neighbours, tail_cons, zip_cons_cons, mem_cons] at hpair ⊢
          exact .inr hpair)
      have hfirst : first < second := h (first, second) (by simp [Text.neighbours])
      refine pairwise_cons.mpr ⟨?_, hrest⟩
      intro later hlater
      rcases mem_cons.mp hlater with rfl | hlater
      · exact hfirst
      · exact hfirst.trans (rel_of_pairwise_cons hrest hlater)

theorem increasing_of_isEvidenceList
    (h : isEvidenceList sequences = true) : sequences.Pairwise (· < ·) := by
  simp only [isEvidenceList, Bool.and_eq_true, all_eq_true, decide_eq_true_eq] at h
  exact neighbours_increasing h.2

structure OperationCell.Evidenced (events : List EventEnvelope)
    (operationId : OperationId) (cell : OperationCell) : Prop where
  increasing : cell.evidence.consumedSequences.Pairwise (· < ·)
  past : ∀ sequence ∈ cell.evidence.consumedSequences, sequence < cell.lastTransitionSequence
  recorded : ∀ sequence, cell.evidence.recordedSequences.contains sequence = true →
      ∃ envelope ∈ events, envelope.sequence = sequence ∧
        recordsEvidence operationId envelope = true
  consumed : ∀ sequence ∈ cell.evidence.consumedSequences,
    cell.evidence.recordedSequences.contains sequence = true ∧ Consumes events operationId sequence
  moved : ∀ envelope ∈ events, movesOperation operationId envelope = true →
    envelope.sequence ≤ cell.lastTransitionSequence
  happened : ∃ envelope ∈ events, envelope.sequence = cell.lastTransitionSequence
  required : cell.status.requiresTerminalEvidence = true → cell.evidence.consumedSequences ≠ []

namespace OperationCell.Evidenced

variable {events : List EventEnvelope} {operationId : OperationId}
  {cell next : OperationCell} {envelope : EventEnvelope}

theorem append (h : cell.Evidenced events operationId)
    (hother : movesOperation operationId envelope = false) :
    cell.Evidenced (events ++ [envelope]) operationId := by
  obtain ⟨last, hlast, hsequence⟩ := h.happened
  refine ⟨h.increasing, h.past, ?_, ?_, ?_, ⟨last, by simp [hlast], hsequence⟩, h.required⟩
  · intro sequence hsequence
    obtain ⟨found, hfound, hrest⟩ := h.recorded sequence hsequence
    exact ⟨found, by simp [hfound], hrest⟩
  · intro sequence hsequence
    obtain ⟨hrecorded, hconsumes⟩ := h.consumed sequence hsequence
    exact ⟨hrecorded, hconsumes.append [envelope]⟩
  · intro moving hmoving hmoves
    rcases mem_append.mp hmoving with hmoving | hlast
    · exact h.moved moving hmoving hmoves
    · rw [mem_singleton.mp hlast, hother] at hmoves
      cases hmoves

theorem intent (hbefore : ∀ other ∈ events, other.sequence < envelope.sequence) :
    (OperationCell.intent envelope.sequence).Evidenced (events ++ [envelope]) operationId := by
  refine ⟨.nil, ?_, ?_, ?_, ?_, ⟨envelope, by simp, rfl⟩, ?_⟩
  · intro sequence hsequence
    cases hsequence
  · intro sequence hsequence
    simp [OperationCell.intent, OperationEvidenceState.default, OrderedMap.contains] at hsequence
  · intro sequence hsequence
    cases hsequence
  · intro moving hmoving _
    rcases mem_append.mp hmoving with hmoving | hlast
    · exact (hbefore moving hmoving).le
    · rw [mem_singleton.mp hlast]
      exact le_rfl
  · intro hrequired
    cases hrequired

theorem record {resultDigest : String} (h : cell.Evidenced events operationId)
    (hevent : envelope.taskEvent? = some (.operationEvidenceRecorded operationId resultDigest))
    (hnext : cell.record envelope.sequence = .ok next) :
    next.Evidenced (events ++ [envelope]) operationId := by
  obtain ⟨evidence, hevidence, rfl⟩ := map_eq_ok_iff.mp hnext
  obtain ⟨-, -, -, rfl⟩ := OperationEvidenceState.record_eq_ok.mp hevidence
  have hother : movesOperation operationId envelope = false := by
    simp [movesOperation, hevent]
  have hold := h.append hother
  refine ⟨hold.increasing, hold.past, ?_, ?_, hold.moved, hold.happened, hold.required⟩
  · intro sequence hsequence
    rcases (OrderedMap.contains_insert _ _ _ _).mp hsequence with rfl | hsequence
    · exact ⟨envelope, by simp, rfl, by simp [recordsEvidence, hevent]⟩
    · exact hold.recorded sequence hsequence
  · intro sequence hsequence
    obtain ⟨hrecorded, hconsumes⟩ := hold.consumed sequence hsequence
    exact ⟨(OrderedMap.contains_insert _ _ _ _).mpr (.inr hrecorded), hconsumes⟩

theorem transition {source target : OperationStatus} {evidenceSequences : List Nat}
    (h : cell.Evidenced events operationId)
    (hbefore : ∀ other ∈ events, other.sequence < envelope.sequence)
    (hevent : envelope.taskEvent? = some (.operationTransitioned operationId
      source target evidenceSequences))
    (hnext : cell.transition envelope.sequence source target evidenceSequences = .ok next) :
    next.Evidenced (events ++ [envelope]) operationId := by
  obtain ⟨evidence, hevidence, rfl⟩ := map_eq_ok_iff.mp hnext
  obtain ⟨-, -, hlist, hcited, hconsumed⟩ := OperationEvidenceState.transition_eq_ok.mp hevidence
  have hlast : cell.lastTransitionSequence < envelope.sequence := by
    obtain ⟨last, hmem, hsequence⟩ := h.happened
    exact hsequence ▸ hbefore last hmem
  have hnow : ∃ found ∈ events ++ [envelope],
      found.sequence = envelope.sequence := ⟨envelope, by simp, rfl⟩
  have hmoved : ∀ moving ∈ events ++ [envelope], movesOperation operationId moving = true →
        moving.sequence ≤ envelope.sequence := by
    intro moving hmoving _
    rcases mem_append.mp hmoving with hmoving | hlast
    · exact (hbefore moving hmoving).le
    · rw [mem_singleton.mp hlast]
  have hrecorded : ∀ sequence, cell.evidence.recordedSequences.contains sequence = true →
        ∃ found ∈ events ++ [envelope], found.sequence = sequence ∧
          recordsEvidence operationId found = true := by
    intro sequence hsequence
    obtain ⟨found, hfound, hrest⟩ := h.recorded sequence hsequence
    exact ⟨found, by simp [hfound], hrest⟩
  have hold : ∀ sequence ∈ cell.evidence.consumedSequences,
      cell.evidence.recordedSequences.contains sequence = true ∧
        Consumes (events ++ [envelope]) operationId sequence := by
    intro sequence hsequence
    obtain ⟨hrecord, hconsumes⟩ := h.consumed sequence hsequence
    exact ⟨hrecord, hconsumes.append [envelope]⟩
  have hpast : ∀ sequence ∈ cell.evidence.consumedSequences, sequence < envelope.sequence := by
    intro sequence hsequence
    exact (h.past sequence hsequence).trans hlast
  rcases hconsumed with ⟨hplain, rfl⟩ | ⟨hterminal, hne, hfresh, rfl⟩
  · refine ⟨h.increasing, hpast, hrecorded, hold, hmoved, hnow, ?_⟩
    intro hrequired
    rw [hplain] at hrequired
    cases hrequired
  · have hnew : ∀ sequence ∈ evidenceSequences,
        Consumes (events ++ [envelope]) operationId sequence := by
      intro sequence hsequence
      refine ⟨events, envelope, [], source, target, evidenceSequences, rfl,
        hevent, hterminal, hsequence, hcited sequence hsequence, ?_⟩
      intro earlier hearlier hmoves
      have hle := h.moved earlier hearlier hmoves
      have hlt := (hfresh sequence hsequence).1
      omega
    refine ⟨?_, ?_, hrecorded, ?_, hmoved, hnow, ?_⟩
    · refine pairwise_append.mpr ⟨h.increasing, increasing_of_isEvidenceList hlist, ?_⟩
      intro old hmem new hnewmem
      have hlt := h.past old hmem
      have hgt := (hfresh new hnewmem).1
      omega
    · intro sequence hsequence
      rcases mem_append.mp hsequence with hsequence | hsequence
      · exact hpast sequence hsequence
      · exact hcited sequence hsequence
    · intro sequence hsequence
      rcases mem_append.mp hsequence with hsequence | hsequence
      · exact hold sequence hsequence
      · exact ⟨(hfresh sequence hsequence).2.1, hnew sequence hsequence⟩
    · intro _ hnil
      exact hne (append_eq_nil_iff.mp hnil).2

end OperationCell.Evidenced

def Ledger.Evidenced (events : List EventEnvelope) (ledger : Ledger) : Prop :=
  ∀ operationId cell, ledger operationId = some cell → cell.Evidenced events operationId

theorem Ledger.Evidenced.set {ledger : Ledger} {operationId : OperationId} {cell : OperationCell}
    (h : ledger.Evidenced events)
    (hother : ∀ other, other ≠ operationId → movesOperation other envelope = false)
    (hcell : cell.Evidenced (events ++ [envelope]) operationId) :
    (ledger.set operationId cell).Evidenced (events ++ [envelope]) := by
  intro other found hfound
  by_cases hid : other = operationId
  · subst hid
    have hsame : cell = found := by simpa [Ledger.set] using hfound
    exact hsame ▸ hcell
  · have hkept : ledger other = some found := by
      simpa [Ledger.set, hid] using hfound
    exact (h other found hkept).append (hother other hid)

theorem Ledger.Step.evidenced {ledger next : Ledger} {event : TaskEvent}
    (hstep : Ledger.Step ledger envelope.sequence event next)
    (hevent : envelope.taskEvent? = some event)
    (hbefore : ∀ other ∈ events, other.sequence < envelope.sequence) (h : ledger.Evidenced events) :
    next.Evidenced (events ++ [envelope]) := by
  cases hstep with
  | @intent operationId epochId itemId effectClass requestDigest hnew =>
    refine h.set ?_ (.intent hbefore)
    intro other hother
    simpa [movesOperation, hevent] using hother.symm
  | @transition operationId source target evidenceSequences cell moved hcell
    hnext =>
    refine h.set ?_ ((h operationId cell hcell).transition hbefore hevent hnext)
    intro other hother
    simpa [movesOperation, hevent] using hother.symm
  | @record operationId resultDigest cell recorded hcell hnext =>
    refine h.set ?_ ((h operationId cell hcell).record hevent hnext)
    intro other hother
    simp [movesOperation, hevent]
  | skip hskip =>
    intro operationId cell hcell
    refine (h operationId cell hcell).append ?_
    cases event <;> simp_all [isOperationEvent, movesOperation]

theorem reduced_evidenced {snapshot : TaskSnapshot}
    (hincreasing : events.Pairwise fun a b => a.sequence < b.sequence)
    (haccepted : reduceJournal events = .ok (some snapshot)) :
    snapshot.ledger.Evidenced events := by
  induction haccepted using reduceJournal_induction with
  | create envelope created hreduce =>
    intro operationId cell hcell
    obtain ⟨_, _, _, _, _, _, _, _, _, rfl⟩ := reduceTask_none_iff.mp hreduce
    simp [TaskSnapshot.ledger, TaskSnapshot.created] at hcell
  | step events state envelope next _ ih hreduce =>
    obtain ⟨event, hevent, -, hstep⟩ := reduceTask_some_iff.mp hreduce
    obtain ⟨hsorted, -, hlast⟩ := pairwise_append.mp hincreasing
    have hbefore : ∀ other ∈ events, other.sequence < envelope.sequence :=
      fun other hother => hlast other hother envelope (by simp)
    have hevent' : envelope.taskEvent? = some event :=
      EventEnvelope.taskEvent?_eq_some.mpr ⟨_, hevent⟩
    exact hstep.ledger_step.evidenced hevent' hbefore (ih hsorted)

theorem recordsEvidence_unique {first second : OperationId}
    (hfirst : recordsEvidence first envelope = true)
    (hsecond : recordsEvidence second envelope = true) : first = second := by
  unfold recordsEvidence at hfirst hsecond
  split at hfirst
  · rename_i hevent
    simp only [hevent, decide_eq_true_eq] at hfirst hsecond
    exact hfirst.symm.trans hsecond
  · cases hfirst

theorem envelope_unique (hincreasing : events.Pairwise fun a b => a.sequence < b.sequence)
    {first second : EventEnvelope} (hfirst : first ∈ events) (hsecond : second ∈ events)
    (h : first.sequence = second.sequence) : first = second := by
  have hnodup : (events.map EventEnvelope.sequence).Nodup :=
    pairwise_map.mpr (hincreasing.imp fun hlt => hlt.ne)
  exact inj_on_of_nodup_map hnodup hfirst hsecond h

/-- Evidence is consumed once, by the operation it was recorded for. -/
theorem consumed_evidence_is_fresh {events : List EventEnvelope} {snapshot : TaskSnapshot}
    (hincreasing : events.Pairwise fun a b => a.sequence < b.sequence)
    (haccepted : reduceJournal events = .ok (some snapshot)) :
    (∀ operationId operation, snapshot.operations.find? operationId = some operation →
        operation.evidence.consumedSequences.Pairwise (· < ·) ∧
        operation.evidence.consumedSequences.Nodup ∧
        (∀ sequence ∈ operation.evidence.consumedSequences,
          (∃ envelope ∈ events, envelope.sequence = sequence ∧
            recordsEvidence operationId envelope = true) ∧
          Consumes events operationId sequence) ∧
        (operation.status.requiresTerminalEvidence = true →
          operation.evidence.consumedSequences ≠ [])) ∧
    (∀ firstId first secondId second, snapshot.operations.find? firstId = some first →
      snapshot.operations.find? secondId = some second → firstId ≠ secondId →
        first.evidence.consumedSequences.Disjoint second.evidence.consumedSequences) := by
  have hevidenced : ∀ operationId operation,
      snapshot.operations.find? operationId = some operation →
        operation.cell.Evidenced events operationId := by
    intro operationId operation hfind
    exact reduced_evidenced hincreasing haccepted operationId operation.cell
      (by simp [TaskSnapshot.ledger, hfind])
  have hrecorded : ∀ operationId operation, snapshot.operations.find? operationId = some operation →
        ∀ sequence ∈ operation.evidence.consumedSequences,
          ∃ envelope ∈ events, envelope.sequence = sequence ∧
            recordsEvidence operationId envelope = true := by
    intro operationId operation hfind sequence hsequence
    have hcell := hevidenced operationId operation hfind
    exact hcell.recorded sequence (hcell.consumed sequence hsequence).1
  constructor
  · intro operationId operation hfind
    have hcell := hevidenced operationId operation hfind
    refine ⟨hcell.increasing, hcell.increasing.imp fun h => h.ne, ?_, hcell.required⟩
    intro sequence hsequence
    exact ⟨hrecorded operationId operation hfind sequence hsequence,
      (hcell.consumed sequence hsequence).2⟩
  · intro firstId first secondId second hfirst hsecond hne sequence hin hout
    obtain ⟨envelope, hmem, hsequence, hrecords⟩ := hrecorded firstId first hfirst sequence hin
    obtain ⟨other, hother, hsame, hrecords'⟩ := hrecorded secondId second hsecond sequence hout
    have heq : envelope = other :=
      envelope_unique hincreasing hmem hother (hsequence.trans hsame.symm)
    subst heq
    exact hne (recordsEvidence_unique hrecords hrecords')

namespace Sample

/-- An operation whose outcome is first unknown and then reconciled. -/
def reconciliation : List EventEnvelope :=
  envelopes 1 (evidencedEvents [] "d" ++
    [.operationTransitioned operationId .started .uncertain [6],
      .operationEvidenceRecorded operationId "d",
      .operationTransitioned operationId .uncertain .reconciled [8]])

end Sample

theorem sample_reconciliation_evidence : ∃ snapshot operation,
      reduceJournal Sample.reconciliation = .ok (some snapshot) ∧
      snapshot.operations.find? Sample.operationId = some operation ∧
      operation.status = .reconciled ∧
      operation.evidence.consumedSequences = [6, 8] ∧
      Consumes Sample.reconciliation Sample.operationId 8 := by
  refine ⟨_, _, rfl, rfl, rfl, rfl, ?_⟩
  have hfresh := @consumed_evidence_is_fresh Sample.reconciliation _ (by decide) rfl
  obtain ⟨-, -, hconsumed, -⟩ := hfresh.1 Sample.operationId _ rfl
  exact (hconsumed 8 (by decide)).2

end CarlAgent.Task
