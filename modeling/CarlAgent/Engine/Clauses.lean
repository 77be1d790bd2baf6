import CarlAgent.Task.BuildChain
import CarlAgent.Task.Completion
import CarlAgent.Task.Report

/-!
# Clause evidence and completion

After a decision the engine writes the claimed evidence into the contract.
When the decision is to complete, every required clause of that contract is
satisfied, and the reducer takes the task to its end.
-/

namespace CarlAgent.Engine

open List Foundation CarlAgent.Task Task.Sample

variable {clause : CompletionClause}
  {clauses current later : List CompletionClause} {evidence : List EvidenceRef}
  {claims : List ReportedClauseEvidence} {claim : ReportedClauseEvidence}

inductive TaskEngineErrorCode where
  | invalidTask
  | storage
  | provider
  | context
  | verification
  | cancelled
  | blocked
  deriving DecidableEq, Repr

/-- The event sequences that stand for an operation: those of the claim, or
all of the operation's own when the claim names none. -/
def claimedSequences (claim : ReportedClauseEvidence)
    (operation : OperationCheckpoint) : List Nat :=
  if claim.eventSequences = [] then operation.evidenceSequences
  else claim.eventSequences

def citeOperation (checkpoint : CanonicalCheckpoint) (claim : ReportedClauseEvidence)
    (evidence : List EvidenceRef) (operationId : OperationId) :
    Except TaskEngineErrorCode (List EvidenceRef) := do
  let operation ← requireSome
    (checkpoint.operations.find? fun operation =>
      operation.operationId = operationId) .verification
  .ok (evidence ++ (claimedSequences claim operation).map fun sequence =>
    { eventSequence := sequence, artifactDigest := none, operationId := some operationId })

def applyClaim (checkpoint : CanonicalCheckpoint) (claim : ReportedClauseEvidence) :
    List CompletionClause → Except TaskEngineErrorCode (List CompletionClause)
  | [] => .error .verification
  | clause :: rest =>
    if clause.id = claim.clauseId then do
      let evidence ← claim.operationIds.foldlM (citeOperation checkpoint claim) clause.evidence
      .ok ({ clause with evidence := normalizeEvidence evidence, status := .satisfied } :: rest)
    else do
      let rest ← applyClaim checkpoint claim rest
      .ok (clause :: rest)

def applyClauseEvidence (report : EpochReport) (checkpoint : CanonicalCheckpoint) :
    Except TaskEngineErrorCode (Option CompletionContract) :=
  if report.clauseEvidence = [] then .ok none
  else do
    rejectIf (checkpoint.contract.version + 1 > maxU32) .invalidTask
    let clauses ← report.clauseEvidence.foldlM
      (fun clauses claim => applyClaim checkpoint claim clauses)
      checkpoint.contract.clauses
    let contract := { checkpoint.contract with version := checkpoint.contract.version + 1, clauses }
    contract.validate.mapError fun _ => .verification
    .ok (some contract)

variable {checkpoint : CanonicalCheckpoint}

theorem citeOperations_eq_ok {operationIds : List OperationId} {start : List EvidenceRef}
    (h : operationIds.foldlM (citeOperation checkpoint claim) start = .ok evidence) :
    (∀ item ∈ start, item ∈ evidence) ∧
      ∀ operationId ∈ operationIds, ∃ operation ∈ checkpoint.operations,
        operation.operationId = operationId ∧ ∀ sequence ∈ claimedSequences claim operation,
            ⟨sequence, none, some operationId⟩ ∈ evidence := by
  induction operationIds generalizing start with
  | nil =>
    cases h
    exact ⟨fun _ hitem => hitem, by simp⟩
  | cons operationId operationIds ih =>
    obtain ⟨next, hturn, hrest⟩ := foldlM_cons_eq_ok.mp h
    simp only [citeOperation, ok_iff] at hturn
    obtain ⟨operation, hfind, rfl⟩ := hturn
    obtain ⟨hkept, hcited⟩ := ih hrest
    have hid : operation.operationId = operationId := by
      simpa using find?_some hfind
    constructor
    · intro item hitem
      exact hkept item (mem_append_left _ hitem)
    · intro other hother
      rcases mem_cons.mp hother with rfl | hother
      · refine ⟨operation, mem_of_find?_eq_some hfind, hid, ?_⟩
        intro sequence hsequence
        apply hkept
        exact mem_append_right _ (mem_map.mpr ⟨sequence, hsequence, rfl⟩)
      · exact hcited other hother

def OperationsEvidenced (checkpoint : CanonicalCheckpoint) : Prop :=
  ∀ operation ∈ checkpoint.operations, operation.evidenceSequences ≠ []

theorem claimedSequences_ne_nil {operation : OperationCheckpoint}
    (hevidenced : OperationsEvidenced checkpoint) (hmem : operation ∈ checkpoint.operations) :
    claimedSequences claim operation ≠ [] := by
  unfold claimedSequences
  split
  · exact hevidenced operation hmem
  · assumption

theorem citeOperations_ne_nil {start : List EvidenceRef}
    (hevidenced : OperationsEvidenced checkpoint) (hcites : claim.operationIds ≠ [])
    (h : claim.operationIds.foldlM (citeOperation checkpoint claim) start = .ok evidence) :
    normalizeEvidence evidence ≠ [] := by
  obtain ⟨operationId, hoperation⟩ := exists_mem_of_ne_nil _ hcites
  obtain ⟨operation, hmem, -, hcited⟩ := (citeOperations_eq_ok h).2 operationId hoperation
  obtain ⟨sequence, hsequence⟩ := exists_mem_of_ne_nil _
    (@claimedSequences_ne_nil claim checkpoint _ hevidenced hmem)
  exact ne_nil_of_mem (mem_sortDedup.mpr (hcited sequence hsequence))

/-! ## What the claims do to a clause -/

/-- A clause after the claims: satisfied with evidence when one of them names
it, and as it was otherwise. -/
structure ClauseAfter (claims : List ReportedClauseEvidence)
    (clause later : CompletionClause) : Prop where
  id : later.id = clause.id
  description : later.description = clause.description
  required : later.required = clause.required
  claimed : (∃ claim ∈ claims, claim.clauseId = clause.id) →
    later.status = .satisfied ∧ later.evidence ≠ []
  unclaimed : (∀ claim ∈ claims, claim.clauseId ≠ clause.id) → later = clause

theorem ClauseAfter.start (clause : CompletionClause) : ClauseAfter [] clause clause :=
  ⟨rfl, rfl, rfl, by simp, fun _ => rfl⟩

theorem ClauseAfter.other {later : CompletionClause} (h : ClauseAfter claims clause later)
    (hother : claim.clauseId ≠ clause.id) : ClauseAfter (claims ++ [claim]) clause later := by
  refine ⟨h.id, h.description, h.required, ?_, ?_⟩
  · rintro ⟨found, hfound, hid⟩
    rcases mem_append.mp hfound with hfound | hfound
    · exact h.claimed ⟨found, hfound, hid⟩
    · rw [mem_singleton.mp hfound] at hid
      exact absurd hid hother
  · intro hall
    exact h.unclaimed fun found hfound => hall found (by simp [hfound])

theorem ClauseAfter.satisfied {later : CompletionClause} (h : ClauseAfter claims clause later)
    (hid : claim.clauseId = clause.id) (hevidence : evidence ≠ []) :
    ClauseAfter (claims ++ [claim]) clause { later with evidence, status := .satisfied } := by
  refine ⟨h.id, h.description, h.required, fun _ => ⟨rfl, hevidence⟩, ?_⟩
  intro hall
  exact absurd hid (hall claim (by simp))

theorem clausesAfter_other (h : List.Forall₂ (ClauseAfter claims) clauses current)
    (hother : ∀ clause ∈ clauses, claim.clauseId ≠ clause.id) :
    List.Forall₂ (ClauseAfter (claims ++ [claim])) clauses current := by
  induction h with
  | nil => exact .nil
  | cons hclause hrest ih =>
    refine .cons (hclause.other (hother _ (by simp))) (ih ?_)
    intro clause hclause
    exact hother clause (by simp [hclause])

theorem applyClaim_after {next : List CompletionClause}
    (hevidenced : OperationsEvidenced checkpoint) (hcites : claim.operationIds ≠ [])
    (hids : (clauses.map (·.id)).Nodup)
    (hcurrent : List.Forall₂ (ClauseAfter claims) clauses current)
    (h : applyClaim checkpoint claim current = .ok next) :
    List.Forall₂ (ClauseAfter (claims ++ [claim])) clauses next := by
  induction hcurrent generalizing next with
  | nil => cases h
  | @cons clause later clauses current hclause hrest ih =>
    rw [map_cons, nodup_cons] at hids
    rw [applyClaim] at h
    split at h
    · rename_i hnamed
      obtain ⟨evidence, hcite, hnext⟩ := bind_eq_ok.mp h
      cases hnext
      have hid : claim.clauseId = clause.id := hnamed.symm.trans hclause.id
      refine .cons (hclause.satisfied hid (citeOperations_ne_nil hevidenced hcites hcite)) ?_
      apply clausesAfter_other hrest
      intro other hother hsame
      apply hids.1
      rw [← hid, hsame]
      exact mem_map_of_mem hother
    · rename_i hnamed
      obtain ⟨rest, hturn, hnext⟩ := bind_eq_ok.mp h
      cases hnext
      refine .cons (hclause.other ?_) (ih hids.2 hturn)
      intro hsame
      exact hnamed (hclause.id.trans hsame.symm)

theorem applyClaims_after {done : List ReportedClauseEvidence} {next : List CompletionClause}
    (hevidenced : OperationsEvidenced checkpoint)
    (hcites : ∀ claim ∈ claims, claim.operationIds ≠ []) (hids : (clauses.map (·.id)).Nodup)
    (hcurrent : List.Forall₂ (ClauseAfter done) clauses current)
    (h : claims.foldlM (fun clauses claim => applyClaim checkpoint claim clauses) current =
        .ok next) : List.Forall₂ (ClauseAfter (done ++ claims)) clauses next := by
  induction claims generalizing done current with
  | nil =>
    cases h
    rw [append_nil]
    exact hcurrent
  | cons claim claims ih =>
    obtain ⟨turned, hturn, hrest⟩ := foldlM_cons_eq_ok.mp h
    have hnext := applyClaim_after hevidenced (hcites claim (by simp)) hids hcurrent hturn
    rw [append_cons]
    exact ih (fun other hother => hcites other (by simp [hother])) hnext hrest

theorem applyClauseEvidence_after {report : EpochReport} {revised : Option CompletionContract}
    (hvalid : checkpoint.validateStructure = .ok ())
    (hcites : ∀ claim ∈ report.clauseEvidence, claim.operationIds ≠ [])
    (h : applyClauseEvidence report checkpoint = .ok revised) :
    List.Forall₂ (ClauseAfter report.clauseEvidence) checkpoint.contract.clauses
      (revised.getD checkpoint.contract).clauses := by
  have hstart : List.Forall₂ (ClauseAfter []) checkpoint.contract.clauses
      checkpoint.contract.clauses :=
    forall₂_same.mpr fun clause _ => .start clause
  unfold applyClauseEvidence at h
  split at h
  · rename_i hnone
    cases h
    rw [hnone]
    exact hstart
  · simp only [ok_iff] at h
    obtain ⟨-, clauses, hclauses, _, -, rfl⟩ := h
    have hevidenced : OperationsEvidenced checkpoint :=
      fun operation hmem =>
        ((CanonicalCheckpoint.operations_of_valid hvalid).2 operation hmem).evidence
    have hids := CompletionContract.clauseIds_nodup (CanonicalCheckpoint.contract_of_valid hvalid)
    exact applyClaims_after hevidenced hcites hids hstart hclauses

/-! ## The end of the task -/

def completionEvents : List TaskEvent :=
  [.stateTransitioned .checkpointing .active "checkpoint committed",
    .stateTransitioned .active .completing "every required clause has durable evidence", .completed]

def reduceEvents (state : TaskSnapshot) (events : List (Nat × TaskEvent)) :
    Except TaskReduceErrorCode TaskSnapshot :=
  events.foldlM (fun state entry => reduceTask (some state)
    ⟨state.sessionId, entry.1, .taskLifecycle state.taskId entry.2⟩) state

theorem reduceEvents_cons {state next : TaskSnapshot} {sequence : Nat} {event : TaskEvent}
    {rest : List (Nat × TaskEvent)} :
    reduceEvents state ((sequence, event) :: rest) = .ok next ↔
      ∃ middle, TaskStep state sequence event middle ∧ reduceEvents middle rest = .ok next := by
  unfold reduceEvents
  rw [foldlM_cons_eq_ok]
  refine exists_congr fun middle => and_congr_left fun _ => ?_
  rw [reduceTask_some_iff]
  constructor
  · rintro ⟨found, hevent, -, hstep⟩
    cases hevent
    exact hstep
  · intro hstep
    exact ⟨event, rfl, rfl, hstep⟩

theorem completionEvents_accepted {state : TaskSnapshot} (hstatus : state.status = .checkpointing)
    (hboundary : SafeBoundary state) (hclauses : state.contract.requiredClausesSatisfied = true)
    (hroom : state.revision + 3 ≤ maxRevision) (first second third : Nat) :
    reduceEvents state ([first, second, third].zip completionEvents) =
      .ok { state with status := .completed, revision := state.revision + 3 } := by
  have hcounter : state.revision + 1 + 1 + 1 ≤ maxRevision := hroom
  refine reduceEvents_cons.mpr ⟨{ state with
    status := .active, revision := state.revision + 1 }, ?_, ?_⟩
  · refine ⟨by rw [hstatus]; rfl, by decide, ⟨_, .stateTransitioned (by simp)
      hstatus rfl, rfl⟩, by omega⟩
  · refine reduceEvents_cons.mpr ⟨{ state with
      status := .completing, revision := state.revision + 2 }, ?_, ?_⟩
    · exact ⟨rfl, by decide, ⟨_, .stateTransitioned (by simp) rfl rfl, rfl⟩,
        by simp only; omega⟩
    · refine reduceEvents_cons.mpr ⟨{ state with
        status := .completed, revision := state.revision + 3 }, ?_, rfl⟩
      exact ⟨rfl, rfl, ⟨_, .completed hboundary hclauses rfl, rfl⟩, by simp only; omega⟩

section

variable (hafter : List.Forall₂ (ClauseAfter claims) clauses later)
include hafter

theorem required_clauses_satisfied (hclaimed : ∀ clause ∈ clauses, clause.required = true →
      ∃ claim ∈ claims, claim.clauseId = clause.id) : ∀ clause ∈ later, clause.required = true →
      clause.status = .satisfied ∧ clause.evidence ≠ [] := by
  induction hafter with
  | nil => simp
  | cons hclause hrest ih =>
    intro clause hmem hrequired
    rcases mem_cons.mp hmem with rfl | hmem
    · exact hclause.claimed (hclaimed _ (by simp) (hclause.required ▸ hrequired))
    · refine ih ?_ clause hmem hrequired
      intro other hother
      exact hclaimed other (by simp [hother])

theorem clauses_keep_their_terms : later.map (fun clause => (clause.id, clause.description,
        clause.required)) =
      clauses.map (fun clause => (clause.id, clause.description, clause.required)) := by
  induction hafter with
  | nil => rfl
  | cons hclause hrest ih =>
    rw [map_cons, map_cons, ih, hclause.id, hclause.description, hclause.required]

theorem unclaimed_clauses_kept {i : Nat} (hclause : clauses[i]? = some clause)
    (hunclaimed : ∀ claim ∈ claims, claim.clauseId ≠ clause.id) : later[i]? = some clause := by
  induction hafter generalizing i with
  | nil => simp at hclause
  | cons hhead hrest ih =>
    cases i with
    | zero =>
      cases hclause
      simp [hhead.unclaimed hunclaimed]
    | succ i => exact ih hclause

end

/-- A decision to complete has evidence for every required clause, and the reducer accepts the
events that follow it. -/
theorem completion_decision_completes {report : EpochReport} {checkpoint : CanonicalCheckpoint}
    {items : List OperationEvidence} {revised : Option CompletionContract}
    (hvalid : checkpoint.validateStructure = .ok ())
    (hdecision : decideCompletion report checkpoint items = .ok .complete)
    (hrevised : applyClauseEvidence report checkpoint = .ok revised) :
    (∀ clause ∈ (revised.getD checkpoint.contract).clauses, clause.required = true →
        clause.status = .satisfied ∧ clause.evidence ≠ []) ∧
    (∀ claim ∈ report.clauseEvidence, ∀ operationId ∈ claim.operationIds,
      ∃ operation ∈ checkpoint.operations, operation.operationId = operationId ∧
        operation.status = .succeeded ∧
        ∃ item ∈ items, item.operationId = operationId ∧
          item.Succeeds checkpoint) ∧
    (revised.getD checkpoint.contract).clauses.map
        (fun clause => (clause.id, clause.description, clause.required)) =
      checkpoint.contract.clauses.map
        (fun clause => (clause.id, clause.description, clause.required)) ∧
    (∀ (i : Nat) clause, checkpoint.contract.clauses[i]? = some clause →
      (∀ claim ∈ report.clauseEvidence, claim.clauseId ≠ clause.id) →
        (revised.getD checkpoint.contract).clauses[i]? = some clause) ∧
    (∀ state : TaskSnapshot, state.status = .checkpointing →
      SafeBoundary state → state.contract = revised.getD checkpoint.contract →
      state.revision + 3 ≤ maxRevision → ∀ first second third : Nat,
        reduceEvents state ([first, second, third].zip completionEvents) =
          .ok { state with status := .completed, revision := state.revision + 3 }) := by
  obtain ⟨evidence, hcollect, -, hclaims, hrequired⟩ := decideCompletion_complete hdecision
  have hafter := applyClauseEvidence_after hvalid
    (fun claim hclaim => (hclaims claim hclaim).cites) hrevised
  have hsatisfied := required_clauses_satisfied hafter hrequired
  refine ⟨hsatisfied, ?_, clauses_keep_their_terms hafter, ?_, ?_⟩
  · intro claim hclaim operationId hoperation
    obtain ⟨⟨operation, hfind, hstatus, -⟩, ⟨item, hitem, hproof⟩⟩ :=
      (hclaims claim hclaim).operations operationId hoperation
    have hkeys : ((checkpoint.operations.map fun operation =>
        (operation.operationId, operation)).map Prod.fst).Nodup := by
      rw [map_map]
      exact (CanonicalCheckpoint.operations_of_valid hvalid).1
    have hmem := (OrderedMap.find?_ofList_of_nodup hkeys).mp hfind
    obtain ⟨source, hsource, heq⟩ := mem_map.mp hmem
    cases heq
    obtain ⟨hgiven, hid⟩ := collectEvidence_mem hcollect hitem
    exact ⟨operation, hsource, rfl, hstatus, item, hgiven, hid,
      succeeds_of_validNormalizedEvidence hproof⟩
  · intro i clause hclause hunclaimed
    exact unclaimed_clauses_kept hafter hclause hunclaimed
  · intro state hstatus hboundary hcontract hroom first second third
    refine completionEvents_accepted hstatus hboundary ?_ hroom first second third
    rw [hcontract]
    exact requiredClausesSatisfied_eq_true.mpr hsatisfied

/-! ## A report that completes a task -/

namespace Sample

open Task.Sample (firstBuilt operationId)

def completionReport : EpochReport where
  schemaVersion := 1
  disposition := .complete
  summary := "done"
  nextObjective := none
  clauseEvidence := [⟨"clause", [operationId], [], []⟩]
  exactIdentifiers := []

def completionEvidence : List OperationEvidence :=
  [.command operationId true (some 0)]

def satisfiedContract : CompletionContract :=
  { contract .satisfied [⟨10, none, some operationId⟩] with
    version := 2 }

def checkpointingTask (revision : Nat) : TaskSnapshot :=
  { TaskSnapshot.created taskId sessionId
      satisfiedContract .default with
    status := .checkpointing
    revision := revision }

def unevidenced : CanonicalCheckpoint :=
  { firstBuilt with
    operations := firstBuilt.operations.map fun operation =>
      { operation with evidenceSequences := [] } }

end Sample

open Sample

theorem sample_report_completes : firstBuilt.validateStructure = .ok () ∧
      decideCompletion completionReport firstBuilt completionEvidence = .ok .complete ∧
      applyClauseEvidence completionReport firstBuilt = .ok (some satisfiedContract) ∧
      reduceEvents (checkpointingTask 20) ([21, 22, 23].zip completionEvents) =
        .ok { checkpointingTask 20 with status := .completed, revision := 23 } := by
  have hvalid : firstBuilt.validateStructure = .ok () := by
    decide +kernel
  have hdecision : decideCompletion completionReport
      firstBuilt completionEvidence = .ok .complete := by
    decide +kernel
  have hrevised : applyClauseEvidence completionReport
      firstBuilt = .ok (some satisfiedContract) := by
    decide +kernel
  obtain ⟨-, -, -, -, hreduce⟩ := completion_decision_completes hvalid hdecision hrevised
  exact ⟨hvalid, hdecision, hrevised, hreduce (checkpointingTask 20)
    rfl ⟨rfl, rfl⟩ rfl (by decide) 21 22 23⟩

/-- At the end of the revision counter the reducer refuses the events, and
without the checks of its structure a checkpoint can yield a required clause
that has no evidence. -/
theorem completion_decision_without_room_or_structure :
    (∃ report checkpoint items revised state, checkpoint.validateStructure = .ok () ∧
      decideCompletion report checkpoint items = .ok .complete ∧
      applyClauseEvidence report checkpoint = .ok revised ∧
      state.status = .checkpointing ∧ SafeBoundary state ∧
      state.contract = revised.getD checkpoint.contract ∧
      reduceEvents state ([21, 22, 23].zip completionEvents) = .error .revisionOverflow) ∧
    (∃ report checkpoint items contract,
      checkpoint.validateStructure = .error .invalidEvidenceRange ∧
      decideCompletion report checkpoint items = .ok .complete ∧
      applyClauseEvidence report checkpoint = .ok (some contract) ∧
      ∃ clause ∈ contract.clauses, clause.required = true ∧
        clause.evidence = []) := by
  refine ⟨⟨completionReport, firstBuilt, completionEvidence, some satisfiedContract,
    checkpointingTask maxRevision, by decide +kernel,
    by decide +kernel, by decide +kernel, rfl, ⟨rfl, rfl⟩, rfl,
    by decide +kernel⟩, ?_⟩
  refine ⟨completionReport, unevidenced, completionEvidence,
    { contract .satisfied [] with version := 2 },
    by decide +kernel, by decide +kernel, by decide +kernel, ?_⟩
  exact ⟨_, List.mem_singleton.mpr rfl, rfl, rfl⟩

end CarlAgent.Engine
