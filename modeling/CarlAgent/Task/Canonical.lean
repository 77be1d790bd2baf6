import Mathlib.Data.Prod.Lex
import Mathlib.Order.WithBot
import CarlAgent.Security.SecretFilter
import CarlAgent.Task.Checkpoint
import CarlAgent.Task.Encoding

/-!
# The canonical form of a checkpoint

A checkpoint is normalized, checked and written as compact JSON; its digest is
the SHA-256 of that text.  The hash is a parameter: nothing here depends on
which function it is.
-/

namespace CarlAgent.Task

open Foundation List CanonicalCheckpoint

def optionKey {α : Type} (value : Option α) : WithBot α := value

def EvidenceRef.sortKey (evidence : EvidenceRef) : Nat ×ₗ WithBot String ×ₗ WithBot OperationId :=
  toLex (evidence.eventSequence,
    toLex (optionKey evidence.artifactDigest, optionKey evidence.operationId))

variable (work : WorkEvidence)

def WorkEvidence.sortKey : String ×ₗ List Nat ×ₗ List String :=
  toLex (work.summary, toLex (work.eventSequences, work.artifactDigests))

def DecisionRecord.sortKey (decision : DecisionRecord) : String ×ₗ String ×ₗ String :=
  toLex (decision.id, toLex (decision.decision, decision.rationale))

def ExactIdentifier.sortKey (identifier : ExactIdentifier) : String ×ₗ String :=
  toLex (identifier.kind, identifier.value)

def ProcessCheckpoint.sortKey (process : ProcessCheckpoint) :
    String ×ₗ String ×ₗ String ×ₗ String :=
  toLex (process.processId, toLex (process.itemId,
    toLex (process.commandDigest, process.cwdDigest)))

def normalizeStrings (values : List String) : List String :=
  sortDedup id values

def normalizeEvidence (evidence : List EvidenceRef) : List EvidenceRef :=
  sortDedup EvidenceRef.sortKey evidence

def WorkEvidence.normalize : WorkEvidence where
  summary := work.summary
  eventSequences := sortDedup id work.eventSequences
  artifactDigests := normalizeStrings work.artifactDigests

def normalizeWork (work : List WorkEvidence) : List WorkEvidence :=
  sortDedup WorkEvidence.sortKey (work.map WorkEvidence.normalize)

def ClauseEvidence.normalize (clause : ClauseEvidence) : ClauseEvidence where
  clauseId := clause.clauseId
  evidence := normalizeEvidence clause.evidence

def verificationFromContract (contract : CompletionContract) : List ClauseEvidence :=
  sortByKey (·.clauseId) (contract.clauses.map fun clause =>
    { clauseId := clause.id, evidence := normalizeEvidence clause.evidence })

variable (checkpoint : CanonicalCheckpoint)

def CanonicalCheckpoint.normalize : CanonicalCheckpoint :=
  { checkpoint with
    completedWork := normalizeWork checkpoint.completedWork
    decisions := sortDedup DecisionRecord.sortKey checkpoint.decisions
    exactIdentifiers := sortDedup ExactIdentifier.sortKey checkpoint.exactIdentifiers
    operations := sortByKey (·.operationId) checkpoint.operations
    runningProcesses := sortDedup ProcessCheckpoint.sortKey checkpoint.runningProcesses
    pendingApprovalDigests := normalizeStrings checkpoint.pendingApprovalDigests
    pendingSteeringDigests := normalizeStrings checkpoint.pendingSteeringDigests
    uncertainDeliveryDigests := normalizeStrings checkpoint.uncertainDeliveryDigests
    blockers := normalizeStrings checkpoint.blockers
    verification := sortByKey (·.clauseId) (checkpoint.verification.map ClauseEvidence.normalize) }

def checkpointSchemaVersion : Nat := 1
def maxCheckpointBytes : Nat := 8 * 1024 * 1024
def maxFieldBytes : Nat := 1024 * 1024

def isForbiddenControl (c : Char) : Bool :=
  c == '\x00' || (Text.isControl c && !(c == '\n' || c == '\r' || c == '\t'))

def validateCheckpointText (value : String) : Except CheckpointError Unit := do
  rejectIf (value.utf8ByteSize > maxFieldBytes) .limitExceeded
  rejectIf (value.toList.any isForbiddenControl) .invalidSource

def validateNonempty (value : String) : Except CheckpointError Unit := do
  rejectIf (Text.isBlank value) .invalidSource
  validateCheckpointText value

def validateEvidenceRange (first last : Nat) (sequences : List Nat) : Except CheckpointError Unit :=
  rejectIf (∃ sequence ∈ sequences, sequence < first ∨ last < sequence) .invalidEvidenceRange

def CanonicalCheckpoint.artifactDigests : List String :=
  sortDedup id (checkpoint.completedWork.flatMap (·.artifactDigests) ++
      checkpoint.repository.diffArtifactDigest.toList ++
      checkpoint.verification.flatMap fun clause =>
        clause.evidence.filterMap (·.artifactDigest))

section Structure

variable (checkpoint : CanonicalCheckpoint)

def CanonicalCheckpoint.validateWork (work : WorkEvidence) : Except CheckpointError Unit := do
  validateCheckpointText work.summary
  validateEvidenceRange checkpoint.sourceSequenceStart
    checkpoint.sourceSequenceEnd work.eventSequences

def DecisionRecord.validate (decision : DecisionRecord) : Except CheckpointError Unit := do
  validateNonempty decision.id
  validateNonempty decision.decision
  validateNonempty decision.rationale

def ExactIdentifier.validate (identifier : ExactIdentifier) : Except CheckpointError Unit := do
  validateNonempty identifier.kind
  validateNonempty identifier.value

/-- One turn of the loop over the operations, with the identifiers so far. -/
def CanonicalCheckpoint.validateOperation (operationIds : List OperationId)
    (operation : OperationCheckpoint) : Except CheckpointError (List OperationId) := do
  rejectIf (operation.operationId ∈ operationIds) .duplicateOperation
  validateDigest operation.requestDigest
  rejectIf (¬ operation.status.isResolved) .unpairedOperation
  rejectIf (operation.evidenceSequences = [] ∨
    ¬ isEvidenceList operation.evidenceSequences) .invalidEvidenceRange
  validateEvidenceRange checkpoint.sourceSequenceStart
    checkpoint.sourceSequenceEnd operation.evidenceSequences
  .ok (operation.operationId :: operationIds)

def RepositoryCheckpoint.validate (repository : RepositoryCheckpoint) :
    Except CheckpointError Unit := do
  validateDigest repository.workspaceDigest
  repository.gitStatusDigest.toList.forM validateDigest
  repository.diffArtifactDigest.toList.forM validateDigest
  repository.fileHashes.entries.forM fun entry => do
    validateNonempty entry.1
    validateDigest entry.2

def ProcessCheckpoint.validate (process : ProcessCheckpoint) : Except CheckpointError Unit := do
  validateNonempty process.processId
  validateNonempty process.itemId
  validateDigest process.commandDigest
  validateDigest process.cwdDigest

def ProviderCheckpoint.validate (provider : ProviderCheckpoint) : Except CheckpointError Unit := do
  validateNonempty provider.provider
  validateNonempty provider.model
  validateNonempty provider.effort
  provider.contextId.toList.forM validateNonempty
  rejectIf (provider.observedContextWindow = some 0) .invalidSource

def CanonicalCheckpoint.validateClause (clause : ClauseEvidence) : Except CheckpointError Unit := do
  validateNonempty clause.clauseId
  clause.evidence.forM fun evidence =>
    validateEvidenceRange checkpoint.sourceSequenceStart
      checkpoint.sourceSequenceEnd [evidence.eventSequence]

def CanonicalCheckpoint.validateStructure : Except CheckpointError Unit := do
  rejectIf (checkpoint.schemaVersion ≠ checkpointSchemaVersion ∨
    checkpoint.sourceSequenceStart = 0 ∨
    checkpoint.sourceSequenceEnd < checkpoint.sourceSequenceStart ∨
    Text.isBlank checkpoint.nextObjective) .invalidSource
  checkpoint.contract.validate.mapError fun _ => .invalidSource
  checkpoint.completedWork.forM checkpoint.validateWork
  checkpoint.decisions.forM DecisionRecord.validate
  checkpoint.exactIdentifiers.forM ExactIdentifier.validate
  let _ ← checkpoint.operations.foldlM checkpoint.validateOperation []
  checkpoint.repository.validate
  checkpoint.runningProcesses.forM ProcessCheckpoint.validate
  (checkpoint.pendingApprovalDigests ++ checkpoint.pendingSteeringDigests ++
    checkpoint.uncertainDeliveryDigests).forM validateDigest
  checkpoint.blockers.forM validateNonempty
  validateNonempty checkpoint.nextObjective
  checkpoint.provider.validate
  checkpoint.verification.forM checkpoint.validateClause
  rejectIf (checkpoint.verification ≠ verificationFromContract checkpoint.contract) .invalidSource
  checkpoint.previousDigest.toList.forM validateDigest
  checkpoint.artifactDigests.forM validateDigest

end Structure

structure OperationCheckpoint.Valid (checkpoint : CanonicalCheckpoint)
    (operation : OperationCheckpoint) : Prop where
  digest : validateDigest operation.requestDigest = .ok ()
  resolved : operation.status.isResolved = true
  evidence : operation.evidenceSequences ≠ []
  increasing : isEvidenceList operation.evidenceSequences = true
  range : ∀ sequence ∈ operation.evidenceSequences, checkpoint.sourceSequenceStart ≤ sequence ∧
      sequence ≤ checkpoint.sourceSequenceEnd

variable {checkpoint : CanonicalCheckpoint} {u : Unit}

theorem validateEvidenceRange_eq_ok {first last : Nat} {sequences : List Nat} :
    validateEvidenceRange first last sequences = .ok u ↔
      ∀ sequence ∈ sequences, first ≤ sequence ∧ sequence ≤ last := by
  simp only [validateEvidenceRange, rejectIf_eq_ok, not_exists, not_and, not_or, not_lt]

theorem CanonicalCheckpoint.validateOperation_eq_ok
    {seen next : List OperationId} {operation : OperationCheckpoint} :
    checkpoint.validateOperation seen operation = .ok next ↔
      operation.operationId ∉ seen ∧ operation.Valid checkpoint ∧
        next = operation.operationId :: seen := by
  simp only [validateOperation, ok_iff, validateEvidenceRange_eq_ok, not_or,
    not_not]
  constructor
  · rintro ⟨hfresh, ⟨⟩, hdigest, hresolved, ⟨hevidence, hincreasing⟩, hrange, rfl⟩
    exact ⟨hfresh, ⟨hdigest, hresolved, hevidence, hincreasing, hrange⟩, rfl⟩
  · rintro ⟨hfresh, ⟨hdigest, hresolved, hevidence, hincreasing, hrange⟩, rfl⟩
    exact ⟨hfresh, (), hdigest, hresolved, ⟨hevidence, hincreasing⟩, hrange, rfl⟩

theorem CanonicalCheckpoint.operations_of_valid (h : checkpoint.validateStructure = .ok u) :
    (checkpoint.operations.map (·.operationId)).Nodup ∧
      ∀ operation ∈ checkpoint.operations, operation.Valid checkpoint := by
  simp only [validateStructure, bind_eq_ok] at h
  obtain ⟨_, -, _, -, _, -, _, -, _, -, seen, hoperations, -⟩ := h
  obtain ⟨hnodup, hvalid, -⟩ := (@foldlM_distinct_eq_ok _ _ _
    OperationCheckpoint.operationId (OperationCheckpoint.Valid checkpoint) _
    (fun _ _ _ => validateOperation_eq_ok) _ _ _).mp hoperations
  exact ⟨hnodup, fun operation hmem => (hvalid operation hmem).2⟩

theorem CanonicalCheckpoint.contract_of_valid
    (h : checkpoint.validateStructure = .ok u) : checkpoint.contract.validate = .ok () := by
  simp only [validateStructure, ok_iff] at h
  obtain ⟨-, _, hcontract, -⟩ := h
  exact hcontract

/-! ## JSON form -/

def WorkEvidence.toJson : Json :=
  .obj [ ("summary", .str work.summary), ("event_sequences", .list .nat work.eventSequences),
    ("artifact_digests", .list .str work.artifactDigests)]

def DecisionRecord.toJson (decision : DecisionRecord) : Json :=
  .obj [ ("id", .str decision.id), ("decision", .str decision.decision),
    ("rationale", .str decision.rationale)]

def ExactIdentifier.toJson (identifier : ExactIdentifier) : Json :=
  .obj [("kind", .str identifier.kind), ("value", .str identifier.value)]

def OperationCheckpoint.toJson (operation : OperationCheckpoint) : Json :=
  .obj [ ("operation_id", operation.operationId.toJson), ("status", .str operation.status.asStr),
    ("effect_class", .str operation.effectClass.asStr),
    ("request_digest", .str operation.requestDigest),
    ("evidence_sequences", .list .nat operation.evidenceSequences)]

def RepositoryCheckpoint.toJson (repository : RepositoryCheckpoint) : Json :=
  .obj [ ("workspace_digest", .str repository.workspaceDigest),
    ("git_head", .option .str repository.gitHead),
    ("git_status_digest", .option .str repository.gitStatusDigest),
    ("diff_artifact_digest", .option .str repository.diffArtifactDigest),
    ("file_hashes", .obj (repository.fileHashes.entries.map fun entry =>
      (entry.1, .str entry.2)))]

def ProcessCheckpoint.toJson (process : ProcessCheckpoint) : Json :=
  .obj [ ("process_id", .str process.processId), ("item_id", .str process.itemId),
    ("command_digest", .str process.commandDigest), ("cwd_digest", .str process.cwdDigest)]

def ProviderCheckpoint.toJson (provider : ProviderCheckpoint) : Json :=
  .obj [ ("provider", .str provider.provider), ("model", .str provider.model),
    ("effort", .str provider.effort), ("context_id", .option .str provider.contextId),
    ("observed_total_tokens", .option .nat provider.observedTotalTokens),
    ("observed_context_window", .option .nat provider.observedContextWindow)]

def ClauseEvidence.toJson (clause : ClauseEvidence) : Json :=
  .obj [ ("clause_id", .str clause.clauseId),
    ("evidence", .list EvidenceRef.toJson clause.evidence)]

variable (checkpoint)

def CanonicalCheckpoint.toJson : Json :=
  .obj [ ("schema_version", .nat checkpoint.schemaVersion),
    ("checkpoint_id", checkpoint.checkpointId.toJson), ("task_id", checkpoint.taskId.toJson),
    ("contract", checkpoint.contract.toJson),
    ("completed_work", .list WorkEvidence.toJson checkpoint.completedWork),
    ("decisions", .list DecisionRecord.toJson checkpoint.decisions), ("exact_identifiers",
      .list ExactIdentifier.toJson checkpoint.exactIdentifiers),
    ("operations", .list OperationCheckpoint.toJson checkpoint.operations),
    ("repository", checkpoint.repository.toJson), ("running_processes",
      .list ProcessCheckpoint.toJson checkpoint.runningProcesses),
    ("pending_approval_digests", .list .str checkpoint.pendingApprovalDigests),
    ("pending_steering_digests", .list .str checkpoint.pendingSteeringDigests),
    ("uncertain_delivery_digests", .list .str checkpoint.uncertainDeliveryDigests),
    ("verification", .list ClauseEvidence.toJson checkpoint.verification),
    ("next_objective", .str checkpoint.nextObjective), ("blockers", .list .str checkpoint.blockers),
    ("provider", checkpoint.provider.toJson),
    ("compaction_generation", .nat checkpoint.compactionGeneration),
    ("source_sequence_start", .nat checkpoint.sourceSequenceStart),
    ("source_sequence_end", .nat checkpoint.sourceSequenceEnd),
    ("previous_digest", .option .str checkpoint.previousDigest)]

def CanonicalCheckpoint.canonicalBytes : Except CheckpointError (List UInt8) := do
  let canonical := checkpoint.normalize
  canonical.validateStructure
  let text := canonical.toJson.render
  rejectIf (Text.byteLen text > maxCheckpointBytes) .limitExceeded
  (Security.inspect text).mapError fun _ => .secretRejected
  .ok (Text.utf8 text)

variable (sha256 : Sha256)

def CanonicalCheckpoint.digest : Except CheckpointError String := do
  let bytes ← checkpoint.canonicalBytes
  .ok (sha256 bytes).text

theorem map_eq_self {α : Type} {f : α → α} {l : List α} (h : ∀ a ∈ l, f a = a) : l.map f = l := by
  rw [map_congr_left h, map_id']

theorem WorkEvidence.normalize_idem :
    work.normalize.normalize = work.normalize := by
  simp only [WorkEvidence.normalize, normalizeStrings, sortDedup_idem]

theorem ClauseEvidence.normalize_idem (clause : ClauseEvidence) :
    clause.normalize.normalize = clause.normalize := by
  simp only [ClauseEvidence.normalize, normalizeEvidence, sortDedup_idem]

theorem normalizeWork_idem (work : List WorkEvidence) :
    normalizeWork (normalizeWork work) = normalizeWork work := by
  have hfixed : ∀ item ∈ normalizeWork work, item.normalize = item := by
    intro item hitem
    obtain ⟨source, -, rfl⟩ := mem_map.mp (mem_of_mem_sortDedup hitem)
    exact source.normalize_idem
  unfold normalizeWork at hfixed ⊢
  rw [map_eq_self hfixed, sortDedup_idem]

theorem normalizeVerification_idem (verification : List ClauseEvidence) :
    sortByKey (·.clauseId) ((sortByKey (·.clauseId) (verification.map ClauseEvidence.normalize)).map
          ClauseEvidence.normalize) =
      sortByKey (·.clauseId) (verification.map ClauseEvidence.normalize) := by
  have hfixed : ∀ clause ∈ sortByKey (·.clauseId) (verification.map ClauseEvidence.normalize),
        clause.normalize = clause := by
    intro clause hclause
    obtain ⟨source, -, rfl⟩ := mem_map.mp (mem_sortByKey.mp hclause)
    exact source.normalize_idem
  rw [map_eq_self hfixed, sortByKey_idem]

theorem CanonicalCheckpoint.normalize_idem :
    checkpoint.normalize.normalize = checkpoint.normalize := by
  simp only [normalize, normalizeWork_idem, normalizeVerification_idem,
    normalizeStrings, sortDedup_idem, sortByKey_idem]

theorem CanonicalCheckpoint.canonicalBytes_normalize :
    checkpoint.normalize.canonicalBytes = checkpoint.canonicalBytes := by
  unfold canonicalBytes
  rw [checkpoint.normalize_idem]

variable {checkpoint}

theorem CanonicalCheckpoint.canonicalBytes_eq_utf8
    {bytes : List UInt8} (h : checkpoint.canonicalBytes = .ok bytes) :
    bytes = Text.utf8 checkpoint.normalize.toJson.render := by
  simp only [canonicalBytes, ok_iff] at h
  obtain ⟨-, -, -, -, -, rfl⟩ := h
  rfl

theorem CanonicalCheckpoint.artifactDigests_normalize {digest : String}
    (h : digest ∈ checkpoint.normalize.artifactDigests) : digest ∈ checkpoint.artifactDigests := by
  simp only [artifactDigests, normalize, mem_sortDedup_id,
    mem_append, mem_flatMap, mem_filterMap] at h ⊢
  rcases h with (⟨work, hwork, hdigest⟩ | hdiff) | ⟨clause, hclause, evidence, hevidence, hdigest⟩
  · obtain ⟨source, hsource, rfl⟩ := mem_map.mp (mem_of_mem_sortDedup hwork)
    exact .inl (.inl ⟨source, hsource, mem_of_mem_sortDedup hdigest⟩)
  · exact .inl (.inr hdiff)
  · obtain ⟨source, hsource, rfl⟩ := mem_map.mp (mem_sortByKey.mp hclause)
    exact .inr ⟨source, hsource, evidence, mem_of_mem_sortDedup hevidence, hdigest⟩

end CarlAgent.Task
