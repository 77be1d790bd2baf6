import CarlAgent.Task.Canonical
import CarlAgent.Task.OperationReplay

/-!
# Building a checkpoint

`CanonicalCheckpoint.build` merges the previous checkpoint with what the
events and the caller add.  Along a chain of builds nothing that a checkpoint
records is lost or rewritten.
-/

namespace CarlAgent.Task

open Foundation OrderedMap

variable {decision : DecisionRecord} {first last : Nat}
  {previous : Option CanonicalCheckpoint}
  {byId : OrderedMap String DecisionRecord}

def maxNarrativeBytes : Nat := 64 * 1024

def maxU32 : Nat := 2 ^ 32 - 1

structure CheckpointBuildInput where
  checkpointId : CheckpointId
  snapshot : TaskSnapshot
  events : List EventEnvelope
  completedWork : List WorkEvidence
  decisions : List DecisionRecord
  exactIdentifiers : List ExactIdentifier
  requiredIdentifiers : List ExactIdentifier
  repository : RepositoryCheckpoint
  runningProcesses : List ProcessCheckpoint
  pendingApprovalDigests : List String
  pendingSteeringDigests : List String
  uncertainDeliveryDigests : List String
  nextObjective : String
  blockers : List String
  provider : ProviderCheckpoint
  compactionGeneration : Nat
  previousCheckpoint : Option CanonicalCheckpoint
  artifactContents : OrderedMap String (List UInt8)
  modelNarrative : Option String

def validateNarrative : Option String → Except CheckpointError Unit
  | none => .ok ()
  | some narrative => do
    rejectIf (narrative.utf8ByteSize > maxNarrativeBytes) .limitExceeded
    validateCheckpointText narrative
    (Security.inspect narrative.toList).mapError fun _ => .secretRejected

def validateGeneration (generation : Nat)
    (previous : Option CanonicalCheckpoint) : Except CheckpointError Unit :=
  match previous with
  | none => rejectIf (generation ≠ 0) .invalidGeneration
  | some previous =>
    rejectIf (¬ (previous.compactionGeneration + 1 ≤ maxU32 ∧
      previous.compactionGeneration + 1 = generation)) .invalidGeneration

def mergeDecision (byId : OrderedMap String DecisionRecord) (decision : DecisionRecord) :
    Except CheckpointError (OrderedMap String DecisionRecord) := do
  rejectIf (∃ existing ∈ byId.find? decision.id, existing ≠ decision) .invalidSource
  .ok (byId.insert decision.id decision)

def carriedDecisions : Option CanonicalCheckpoint → OrderedMap String DecisionRecord
  | none => OrderedMap.empty
  | some previous => OrderedMap.ofList
    (previous.decisions.map fun decision => (decision.id, decision))

def mergeDecisions (previous : Option CanonicalCheckpoint) (decisions : List DecisionRecord) :
    Except CheckpointError (List DecisionRecord) := do
  let byId ← decisions.foldlM mergeDecision (carriedDecisions previous)
  .ok byId.values

def carriedFrom {α : Type} (field : CanonicalCheckpoint → List α) :
    Option CanonicalCheckpoint → List α
  | none => []
  | some previous => field previous

def mergeIdentifiers (previous : Option CanonicalCheckpoint)
    (identifiers : List ExactIdentifier) : List ExactIdentifier :=
  sortDedup ExactIdentifier.sortKey (carriedFrom (·.exactIdentifiers) previous ++ identifiers)

def requireIdentifiers (identifiers required : List ExactIdentifier) :
    Except CheckpointError Unit :=
  rejectIf (¬ ∀ identifier ∈ required, identifier ∈ identifiers) .missingRequiredIdentifier

section Build

variable (sha256 : Sha256)

def validateArtifactContents (checkpoint : CanonicalCheckpoint)
    (contents : OrderedMap String (List UInt8)) : Except CheckpointError Unit :=
  checkpoint.artifactDigests.forM fun digest => do
    validateDigest digest
    let bytes ← requireSome (contents.find? digest) .artifactMissing
    rejectIf ((sha256 bytes).text ≠ digest) .artifactDigestMismatch
    (Security.inspectBytes bytes).mapError fun finding =>
      if finding = .nonUtf8 then .nonUtf8Artifact else .secretRejected

def digestOfPrevious : Option CanonicalCheckpoint → Except CheckpointError (Option String)
  | none => .ok none
  | some previous => (previous.digest sha256).map some

def CanonicalCheckpoint.build (input : CheckpointBuildInput) :
    Except CheckpointError CanonicalCheckpoint := do
  input.snapshot.contract.validate.mapError fun _ => .invalidSource
  validateNarrative input.modelNarrative
  let events := sortByKey (·.sequence) input.events
  validateEventOrder events input.snapshot input.previousCheckpoint
  let previousDigest ← digestOfPrevious sha256 input.previousCheckpoint
  validateGeneration input.compactionGeneration input.previousCheckpoint
  let range ← sourceRange input.previousCheckpoint events
  let completedWork := normalizeWork
    (carriedFrom (·.completedWork) input.previousCheckpoint ++ input.completedWork)
  let decisions ← mergeDecisions input.previousCheckpoint input.decisions
  let exactIdentifiers := mergeIdentifiers input.previousCheckpoint input.exactIdentifiers
  requireIdentifiers exactIdentifiers input.requiredIdentifiers
  let operations ← buildOperations input.previousCheckpoint events range.1 range.2
  operations.forM fun operation =>
    rejectIf (input.snapshot.operationStatus operation.operationId ≠
      some operation.status) .invalidSource
  validateProviderMetadata input.provider input.snapshot input.previousCheckpoint events
  let checkpoint : CanonicalCheckpoint :=
    { schemaVersion := checkpointSchemaVersion
      checkpointId := input.checkpointId
      taskId := input.snapshot.taskId
      contract := input.snapshot.contract
      completedWork := completedWork
      decisions := decisions
      exactIdentifiers := exactIdentifiers
      operations := operations
      repository := input.repository
      runningProcesses := sortDedup ProcessCheckpoint.sortKey input.runningProcesses
      pendingApprovalDigests := normalizeStrings input.pendingApprovalDigests
      pendingSteeringDigests := normalizeStrings input.pendingSteeringDigests
      uncertainDeliveryDigests := normalizeStrings input.uncertainDeliveryDigests
      verification := verificationFromContract input.snapshot.contract
      nextObjective := input.nextObjective
      blockers := normalizeStrings input.blockers
      provider := input.provider
      compactionGeneration := input.compactionGeneration
      sourceSequenceStart := range.1
      sourceSequenceEnd := range.2
      previousDigest := previousDigest }
  checkpoint.validateStructure
  validateArtifactContents sha256 checkpoint input.artifactContents
  .ok checkpoint

end Build

/-! ## What a successful build has checked -/

structure BuiltFrom (input : CheckpointBuildInput) (checkpoint : CanonicalCheckpoint) : Prop where
  order : validateEventOrder (sortByKey (·.sequence) input.events)
    input.snapshot input.previousCheckpoint = .ok ()
  generation : validateGeneration checkpoint.compactionGeneration input.previousCheckpoint = .ok ()
  range : sourceRange input.previousCheckpoint (sortByKey (·.sequence) input.events) =
      .ok (checkpoint.sourceSequenceStart, checkpoint.sourceSequenceEnd)
  completedWork : checkpoint.completedWork = normalizeWork
    (carriedFrom (·.completedWork) input.previousCheckpoint ++ input.completedWork)
  decisions : mergeDecisions input.previousCheckpoint input.decisions = .ok checkpoint.decisions
  exactIdentifiers : checkpoint.exactIdentifiers =
    mergeIdentifiers input.previousCheckpoint input.exactIdentifiers
  operations : buildOperations input.previousCheckpoint
    (sortByKey (·.sequence) input.events) checkpoint.sourceSequenceStart
      checkpoint.sourceSequenceEnd = .ok checkpoint.operations
  valid : checkpoint.validateStructure = .ok ()

theorem builtFrom_of_build {sha256 : Sha256} {input : CheckpointBuildInput}
    {checkpoint : CanonicalCheckpoint}
    (h : CanonicalCheckpoint.build sha256 input = .ok checkpoint) : BuiltFrom input checkpoint := by
  simp only [CanonicalCheckpoint.build, ok_iff, Prod.exists] at h
  obtain ⟨_, -, _, -, ⟨⟩, horder, digest, -, ⟨⟩, hgeneration, first, last, hrange, decisions,
    hdecisions, _, -, operations, hoperations, _, -, _, -, ⟨⟩, hvalid, _, -, rfl⟩ := h
  exact ⟨horder, hgeneration, hrange, rfl, hdecisions, rfl, hoperations, hvalid⟩

variable {next : OrderedMap String DecisionRecord}

theorem mergeDecision_eq_ok : mergeDecision byId decision = .ok next ↔
      (∀ existing, byId.find? decision.id = some existing →
        existing = decision) ∧ next = byId.insert decision.id decision := by
  simp only [mergeDecision, ok_iff, Option.mem_def, not_exists, not_and, ne_eq, not_not]
  exact and_congr_right fun _ => eq_comm

def KeyedById (byId : OrderedMap String DecisionRecord) : Prop :=
  ∀ id decision, byId.find? id = some decision → decision.id = id

theorem mergeDecision_keyed (hkeyed : KeyedById byId)
    (h : mergeDecision byId decision = .ok next) : KeyedById next := by
  obtain ⟨-, rfl⟩ := mergeDecision_eq_ok.mp h
  intro id found hfound
  rw [find?_insert] at hfound
  split at hfound
  · rename_i hid
    cases hfound
    exact hid.symm
  · exact hkeyed id found hfound

theorem mergeDecision_keeps {kept : DecisionRecord} (h : mergeDecision byId decision = .ok next)
    (hkept : byId.find? kept.id = some kept) : next.find? kept.id = some kept := by
  obtain ⟨hsame, rfl⟩ := mergeDecision_eq_ok.mp h
  rw [find?_insert]
  split
  · rename_i hid
    rw [← hsame kept (hid ▸ hkept)]
  · exact hkept

theorem carriedDecisions_spec (hids : ((carriedFrom (·.decisions) previous).map (·.id)).Nodup) :
    KeyedById (carriedDecisions previous) ∧ ∀ decision ∈ carriedFrom (·.decisions) previous,
        (carriedDecisions previous).find? decision.id = some decision := by
  cases previous with
  | none =>
    constructor
    · intro id decision hfind
      cases hfind
    · intro decision hdecision
      cases hdecision
  | some previous =>
    constructor
    · intro id decision hfind
      obtain ⟨_, -, rfl, rfl⟩ := (find?_ofList_map hids).mp hfind
      rfl
    · intro decision hdecision
      exact (find?_ofList_map hids).mpr ⟨decision, hdecision, rfl, rfl⟩

theorem mergeDecisions_spec {decisions merged : List DecisionRecord}
    (hids : ((carriedFrom (·.decisions) previous).map (·.id)).Nodup)
    (h : mergeDecisions previous decisions = .ok merged) :
    (merged.map (·.id)).Nodup ∧
      ∀ decision ∈ carriedFrom (·.decisions) previous, decision ∈ merged := by
  simp only [mergeDecisions, ok_iff] at h
  obtain ⟨byId, hfold, rfl⟩ := h
  obtain ⟨hkeyed, hcarried⟩ := carriedDecisions_spec hids
  have hkeyed' : KeyedById byId := foldlM_invariant
    (fun _ _ _ _ hold hturn => mergeDecision_keyed hold hturn) hkeyed hfold
  constructor
  · rw [map_values_eq_keys hkeyed']
    exact byId.keys_nodup
  · intro decision hdecision
    have hfind : byId.find? decision.id = some decision := foldlM_invariant
        (P := fun byId => byId.find? decision.id = some decision)
        (fun _ _ _ _ hold hturn => mergeDecision_keeps hturn hold)
        (hcarried decision hdecision) hfold
    exact mem_values_iff.mpr ⟨decision.id, hfind⟩

theorem BuildEffect.keeps_resolved {sequence : Nat} {operations next : OperationBuildMap}
    {event : TaskEvent} (heffect : BuildEffect first last operations sequence event next)
    {operationId : OperationId} {operation : OperationBuildState}
    (hfind : operations.find? operationId = some operation)
    (hresolved : operation.checkpoint.status.isResolved = true) :
    next.find? operationId = some operation := by
  have hother : ∀ {touched : OperationId} (state : OperationBuildState) (_ : operationId ≠ touched),
      (operations.insert touched state).find? operationId =
        some operation := by
    intro touched state hne
    rw [find?_insert_of_ne _ _ hne, hfind]
  cases heffect with
  | intent hnew =>
    apply hother
    rintro rfl
    rw [hfind] at hnew
    cases hnew
  | transition htouched _ hevidence =>
    apply hother
    rintro rfl
    rw [hfind] at htouched
    cases htouched
    obtain ⟨hsource, hedge, -⟩ := OperationEvidenceState.transition_eq_ok.mp hevidence
    rw [hsource, not_isResolved_of_legalOperationEdge hedge] at hresolved
    cases hresolved
  | record htouched _ hevidence =>
    apply hother
    rintro rfl
    rw [hfind] at htouched
    cases htouched
    obtain ⟨hstatus, -⟩ := OperationEvidenceState.record_eq_ok.mp hevidence
    rcases hstatus with hstatus | hstatus <;> rw [hstatus] at hresolved <;> cases hresolved
  | skip _ => exact hfind

theorem carriedOperations_spec
    (hids : ((carriedFrom (·.operations) previous).map (·.operationId)).Nodup) :
    WellFormedBuild (carriedOperations previous) ∧
      ∀ operation ∈ carriedFrom (·.operations) previous, ∃ state,
        (carriedOperations previous).find? operation.operationId =
          some state ∧ state.checkpoint = operation := by
  cases previous with
  | none =>
    constructor
    · intro id operation hfind
      cases hfind
    · intro operation hoperation
      cases hoperation
  | some previous =>
    constructor
    · intro id operation hfind
      obtain ⟨_, -, rfl, rfl⟩ := (find?_ofList_map hids).mp hfind
      exact ⟨rfl, rfl⟩
    · intro operation hoperation
      refine ⟨.carried previous.sourceSequenceEnd operation, ?_, rfl⟩
      exact (find?_ofList_map hids).mpr ⟨operation, hoperation, rfl, rfl⟩

theorem buildOperations_spec {events : List EventEnvelope} {result : List OperationCheckpoint}
    (hids : ((carriedFrom (·.operations) previous).map (·.operationId)).Nodup)
    (hresolved : ∀ operation ∈ carriedFrom (·.operations) previous,
      operation.status.isResolved = true)
    (h : buildOperations previous events first last = .ok result) :
    (result.map (·.operationId)).Nodup ∧
      (∀ operation ∈ result, operation.status.isResolved = true) ∧
      ∀ operation ∈ carriedFrom (·.operations) previous, operation ∈ result := by
  obtain ⟨operations, hfold, hledger, rfl⟩ := buildOperations_eq_ok.mp h
  obtain ⟨hwell, hcarried⟩ := carriedOperations_spec hids
  have hwell' := foldlM_buildOperation_wellFormed hwell hfold
  refine ⟨?_, ?_, ?_⟩
  · have hkeys : operations.values.map (·.checkpoint.operationId) = operations.keys :=
      map_values_eq_keys fun id operation hfind =>
        (hwell' id operation hfind).1
    rw [List.map_map]
    exact hkeys ▸ operations.keys_nodup
  · intro operation hoperation
    obtain ⟨state, hstate, rfl⟩ := List.mem_map.mp hoperation
    obtain ⟨id, hfind⟩ := mem_values_iff.mp hstate
    exact hledger id state.cell (by simp [buildLedger, hfind])
  · intro operation hoperation
    obtain ⟨state, hfind, rfl⟩ := hcarried operation hoperation
    have hkept := foldlM_invariant
      (P := fun operations =>
        operations.find? state.checkpoint.operationId = some state) (by
        intro before envelope after _ hbefore hturn
        obtain ⟨_, _, _, heffect⟩ := buildOperation_eq_ok.mp hturn
        exact heffect.keeps_resolved hbefore (hresolved _ hoperation))
      hfind hfold
    exact List.mem_map.mpr ⟨state, mem_values_iff.mpr ⟨_, hkept⟩, rfl⟩

end CarlAgent.Task
