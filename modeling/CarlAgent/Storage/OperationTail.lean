import CarlAgent.Storage.Authority
import CarlAgent.Task.OperationReplay

/-!
# The store's replay of the operation events

The authority check keeps a map of operations.  Each of its turns is a step of
the operation ledger, so it follows every journal that the reducer accepts,
and a resolved operation may be replaced by the summary that a checkpoint
carries.
-/

namespace CarlAgent.Storage

open Foundation CarlAgent.Task OrderedMap JournalOperationState

variable {operations a b : JournalOperations} {events : List EventEnvelope}
  {sequence : Nat}

def JournalOperationState.cell (operation : JournalOperationState) : OperationCell :=
  ⟨operation.status, operation.lastTransitionSequence, operation.evidence⟩

def journalLedger (operations : JournalOperations) : Ledger :=
  fun operationId => (operations.find? operationId).map (·.cell)

/-- What a turn of the store's replay requires and changes. -/
inductive JournalEffect (operations : JournalOperations) (sequence : Nat) :
    TaskEvent → JournalOperations → Prop
  | intent {operationId : OperationId} {epochId : EpochId} {itemId : String}
    {effectClass : EffectClass} {requestDigest : String}
    (hnew : operations.find? operationId = none) :
    JournalEffect operations sequence
      (.operationIntentRecorded operationId epochId itemId effectClass requestDigest)
      (operations.insert operationId
        ⟨.intentRecorded, effectClass, requestDigest, sequence, .default⟩)
  | transition {operationId : OperationId} {source target : OperationStatus}
    {evidenceSequences : List Nat} {operation : JournalOperationState}
    {evidence : OperationEvidenceState}
    (hfind : operations.find? operationId = some operation)
    (hevidence : operation.evidence.transition operation.status source target
      operation.lastTransitionSequence sequence evidenceSequences = .ok evidence) :
    JournalEffect operations sequence
      (.operationTransitioned operationId source target evidenceSequences)
      (operations.insert operationId
        { operation with status := target, lastTransitionSequence := sequence, evidence })
  | record {operationId : OperationId} {resultDigest : String}
    {operation : JournalOperationState} {evidence : OperationEvidenceState}
    (hfind : operations.find? operationId = some operation)
    (hevidence : operation.evidence.record operation.status
      operation.lastTransitionSequence sequence = .ok evidence) :
    JournalEffect operations sequence (.operationEvidenceRecorded operationId resultDigest)
      (operations.insert operationId { operation with evidence })
  | skip {event : TaskEvent} (hevent : isOperationEvent event = false) :
    JournalEffect operations sequence event operations

variable {event : TaskEvent} {checkpointed : List OperationCheckpoint}

theorem replayJournalOperation_eq_ok {next : JournalOperations} :
    replayJournalOperation operations sequence event = .ok next ↔
      JournalEffect operations sequence event next := by
  constructor
  · intro h
    cases event <;>
      simp only [replayJournalOperation, ok_iff, Bool.not_eq_true, Option.isSome_eq_false_iff,
        Option.isNone_iff_eq_none] at h
    case operationIntentRecorded =>
      obtain ⟨hnew, rfl⟩ := h
      exact .intent hnew
    case operationTransitioned =>
      obtain ⟨operation, hfind, evidence, hevidence, rfl⟩ := h
      exact .transition hfind hevidence
    case operationEvidenceRecorded =>
      obtain ⟨operation, hfind, evidence, hevidence, rfl⟩ := h
      exact .record hfind hevidence
    all_goals
      subst h
      exact .skip rfl
  · intro h
    cases h with
    | intent hnew => simp [replayJournalOperation, bind_eq_ok, hnew]
    | transition hfind hevidence | record hfind hevidence =>
      simp only [replayJournalOperation, ok_iff]
      exact ⟨_, hfind, _, hevidence, rfl⟩
    | skip hskip => cases event <;> first | rfl | cases hskip

theorem journalLedger_insert (operations : JournalOperations) (operationId : OperationId)
    (operation : JournalOperationState) : journalLedger (operations.insert operationId operation) =
      (journalLedger operations).set operationId operation.cell :=
  map_find?_insert _ _ _ _

theorem JournalEffect.of_ledger_step {ledger : Ledger}
    (h : Ledger.Step (journalLedger operations) sequence event ledger) :
    ∃ next, JournalEffect operations sequence event next ∧ journalLedger next = ledger := by
  cases h with
  | intent hnew =>
    refine ⟨_, .intent (by simpa [journalLedger] using hnew), ?_⟩
    rw [journalLedger_insert]
    rfl
  | transition hcell hnext =>
    obtain ⟨operation, hfind, rfl⟩ := Option.map_eq_some_iff.mp hcell
    obtain ⟨evidence, hevidence, rfl⟩ := map_eq_ok_iff.mp hnext
    refine ⟨_, .transition hfind hevidence, ?_⟩
    rw [journalLedger_insert]
    rfl
  | record hcell hnext =>
    obtain ⟨operation, hfind, rfl⟩ := Option.map_eq_some_iff.mp hcell
    obtain ⟨evidence, hevidence, rfl⟩ := map_eq_ok_iff.mp hnext
    refine ⟨_, .record hfind hevidence, ?_⟩
    rw [journalLedger_insert]
    rfl
  | skip hevent => exact ⟨operations, .skip hevent, rfl⟩

/-! ## A whole journal -/

def replayOperation (operations : JournalOperations)
    (envelope : EventEnvelope) : Except CarlError JournalOperations :=
  match envelope.event with
  | .other => .error (.storage "task event page returned a non-task event")
  | .taskLifecycle _ event =>
    replayJournalOperation operations envelope.sequence event

theorem replayOperation_follows {state next : TaskSnapshot}
    (hreduce : events.foldlM (fun state envelope =>
      (reduceTask state envelope).map some) (some state) = .ok (some next))
    (hledger : journalLedger operations = state.ledger) :
    ∃ result, events.foldlM replayOperation operations = .ok result ∧
      journalLedger result = next.ledger := by
  induction events generalizing state operations with
  | nil =>
    cases hreduce
    exact ⟨operations, rfl, hledger⟩
  | cons envelope events ih =>
    obtain ⟨_, hmap, hrest⟩ := foldlM_cons_eq_ok.mp hreduce
    obtain ⟨reduced, hreduced, rfl⟩ := map_eq_ok_iff.mp hmap
    obtain ⟨event, hevent, -, hstep⟩ := reduceTask_some_iff.mp hreduced
    have hledgerStep := hstep.ledger_step
    rw [← hledger] at hledgerStep
    obtain ⟨mid, heffect, hmid⟩ := JournalEffect.of_ledger_step hledgerStep
    obtain ⟨result, hresult, hfinal⟩ := ih hrest hmid
    refine ⟨result, foldlM_cons_eq_ok.mpr ⟨mid, ?_, hresult⟩, hfinal⟩
    unfold replayOperation
    rw [hevent]
    exact replayJournalOperation_eq_ok.mpr heffect

theorem replayOperation_journal {snapshot : TaskSnapshot}
    (haccepted : reduceJournal events = .ok (some snapshot)) :
    ∃ operations, events.foldlM replayOperation empty =
        .ok operations ∧ journalLedger operations = snapshot.ledger := by
  cases events with
  | nil => simp [reduceJournal, pure, Except.pure] at haccepted
  | cons envelope events =>
    obtain ⟨_, hmap, hrest⟩ := foldlM_cons_eq_ok.mp haccepted
    obtain ⟨created, hcreated, rfl⟩ := map_eq_ok_iff.mp hmap
    obtain ⟨taskId, _, _, _, _, _, _, hevent, -, rfl⟩ := reduceTask_none_iff.mp hcreated
    obtain ⟨operations, hoperations, hledger⟩ := replayOperation_follows hrest
        (show journalLedger empty = _ from rfl)
    refine ⟨operations, foldlM_cons_eq_ok.mpr ⟨_, ?_, hoperations⟩, hledger⟩
    unfold replayOperation
    rw [hevent]
    rfl

def JournalOperationState.summary (operation : JournalOperationState) :
    OperationStatus × EffectClass × String × List Nat :=
  (operation.status, operation.effectClass, operation.requestDigest,
    operation.evidence.consumedSequences)

/-- Equal states, or two states of a resolved operation with one summary. -/
inductive SameSummary : JournalOperationState → JournalOperationState → Prop
  | same (operation : JournalOperationState) : SameSummary operation operation
  | resolved {whole carried : JournalOperationState} (hsummary : whole.summary = carried.summary)
    (hresolved : whole.status.isResolved = true) :
    SameSummary whole carried

theorem SameSummary.summary_eq {a b : JournalOperationState}
    (h : SameSummary a b) : a.summary = b.summary := by
  cases h with
  | same => rfl
  | resolved hsummary _ => exact hsummary

theorem SameSummary.eq_of_unresolved {a b : JournalOperationState}
    (h : SameSummary a b) (hopen : a.status.isResolved = false) : b = a := by
  cases h with
  | same => rfl
  | resolved _ hresolved =>
    rw [hresolved] at hopen
    cases hopen

/-- Two replays that no further event can tell apart. -/
def Alike (whole carried : JournalOperations) : Prop :=
  Related SameSummary whole carried

theorem Alike.find?_unresolved {operationId : OperationId} {operation : JournalOperationState}
    (h : Alike a b) (hfind : a.find? operationId = some operation)
    (hopen : operation.status.isResolved = false) : b.find? operationId = some operation := by
  obtain ⟨other, hother, hsame⟩ := Related.find?_some h hfind
  rw [hother, hsame.eq_of_unresolved hopen]

theorem isResolved_of_legalOperationEdge {source target : OperationStatus}
    (hedge : legalOperationEdge source target = true) : source.isResolved = false := by
  cases source <;> cases target <;> first | rfl | cases hedge

theorem JournalEffect.alike {a' : JournalOperations} (heffect : JournalEffect a sequence event a')
    (h : Alike a b) : ∃ b', JournalEffect b sequence event b' ∧ Alike a' b' := by
  cases heffect with
  | intent hnew =>
    exact ⟨_, .intent (Related.find?_none h hnew),
      Related.insert h _ (.same _)⟩
  | transition hfind hevidence =>
    obtain ⟨hsource, hedge, -⟩ := OperationEvidenceState.transition_eq_ok.mp hevidence
    have hopen := isResolved_of_legalOperationEdge hedge
    rw [← hsource] at hopen
    exact ⟨_, .transition (h.find?_unresolved hfind hopen) hevidence,
      Related.insert h _ (.same _)⟩
  | @record _ _ operation _ hfind hevidence =>
    obtain ⟨hstatus, -⟩ := OperationEvidenceState.record_eq_ok.mp hevidence
    have hopen : operation.status.isResolved = false := by
      rcases hstatus with hstatus | hstatus
      · rw [hstatus]
        rfl
      · rw [hstatus]
        rfl
    exact ⟨_, .record (h.find?_unresolved hfind hopen) hevidence,
      Related.insert h _ (.same _)⟩
  | skip hevent => exact ⟨b, .skip hevent, h⟩

theorem foldlM_replayOperation_alike {a' : JournalOperations} (h : Alike a b)
    (hreplay : events.foldlM replayOperation a = .ok a') :
    ∃ b', events.foldlM replayOperation b = .ok b' ∧ Alike a' b' := by
  refine foldlM_simulation ?_ h hreplay
  intro a b envelope a' _ hab hturn
  unfold replayOperation at hturn ⊢
  cases hevent : envelope.event with
  | other =>
    rw [hevent] at hturn
    cases hturn
  | taskLifecycle taskId event =>
    rw [hevent] at hturn
    obtain ⟨b', heffect, hab'⟩ := (replayJournalOperation_eq_ok.mp hturn).alike hab
    exact ⟨b', replayJournalOperation_eq_ok.mpr heffect, hab'⟩

theorem Alike.tuples_eq (h : Alike a b) : a.entries.map tuple = b.entries.map tuple :=
  entries_map_eq (Related.map_find? h fun _ _ hvw => hvw.summary_eq)

/-- The summaries in a checkpoint are those of the replay before it. -/
def Summarizes (checkpointed : List OperationCheckpoint) (operations : JournalOperations) : Prop :=
  sortByKey (·.1) (checkpointed.map OperationCheckpoint.tuple) =
    operations.entries.map JournalOperationState.tuple

theorem Summarizes.nodup (h : Summarizes checkpointed operations) :
    (checkpointed.map (·.operationId)).Nodup := by
  have hperm : (sortByKey (·.1) (checkpointed.map OperationCheckpoint.tuple)).Perm
        (checkpointed.map OperationCheckpoint.tuple) :=
    List.perm_insertionSort _ _
  have hkeys : ((operations.entries.map tuple).map Prod.fst).Nodup := by
    rw [List.map_map]
    exact operations.sorted.imp fun hlt => ne_of_lt hlt
  rw [← h] at hkeys
  have hnodup := (hperm.map Prod.fst).nodup_iff.mp hkeys
  rw [List.map_map] at hnodup
  exact hnodup

theorem Summarizes.mem_iff (h : Summarizes checkpointed operations) {tuple : OperationTuple} :
    tuple ∈ checkpointed.map OperationCheckpoint.tuple ↔
      ∃ operation, operations.find? tuple.1 = some operation ∧ tuple.2 = operation.summary := by
  rw [← @mem_sortByKey _ _ _ fun tuple : OperationTuple => tuple.1,
    show sortByKey _ _ = _ from h, List.mem_map]
  constructor
  · rintro ⟨⟨operationId, operation⟩, hmem, rfl⟩
    exact ⟨operation, find?_eq_some_iff.mpr hmem, rfl⟩
  · rintro ⟨operation, hfind, hsummary⟩
    refine ⟨(tuple.1, operation), find?_eq_some_iff.mp hfind, ?_⟩
    exact Prod.ext rfl hsummary.symm

theorem Summarizes.alike_anchored {authority : AuthenticatedCheckpointAuthority}
    (h : Summarizes authority.operations operations)
    (hresolved : (journalLedger operations).Resolved) :
    Alike operations (anchoredOperations (some authority)) := by
  intro operationId
  unfold anchoredOperations
  cases hfind : operations.find? operationId with
  | none =>
    cases hanchor : (ofList (authority.operations.map fun operation => (operation.operationId,
          carried authority.sourceSequenceEnd
            operation))).find? operationId with
    | none => exact .none
    | some carried =>
      obtain ⟨operation, hoperation, hid, -⟩ := (find?_ofList_map h.nodup).mp hanchor
      obtain ⟨found, hfound, -⟩ := h.mem_iff.mp
        (List.mem_map_of_mem (f := OperationCheckpoint.tuple) hoperation)
      rw [show (OperationCheckpoint.tuple operation).1 = operationId from hid, hfind] at hfound
      cases hfound
  | some operation =>
    have hmem := h.mem_iff.mpr ⟨operation, hfind, (rfl : (operationId, operation.summary).2 = _)⟩
    obtain ⟨checkpointed, hcheckpointed, htuple⟩ := List.mem_map.mp hmem
    have hid : checkpointed.operationId = operationId := congrArg Prod.fst htuple
    rw [(find?_ofList_map h.nodup).mpr ⟨checkpointed, hcheckpointed, hid, rfl⟩]
    refine .some (.resolved (congrArg Prod.snd htuple).symm ?_)
    exact hresolved operationId operation.cell (by simp [journalLedger, hfind])

end CarlAgent.Storage
