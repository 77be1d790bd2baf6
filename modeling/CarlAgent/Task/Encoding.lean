import CarlAgent.Foundation.Json
import CarlAgent.Task.Reducer

/-!
# JSON forms of the task records

The columns of the task tables hold compact JSON texts.  The writers below
give a record its JSON value, field by field in the order of the source.
-/

namespace CarlAgent.Task

open Foundation

def ClauseStatus.asStr : ClauseStatus → String
  | pending => "pending"
  | satisfied => "satisfied"
  | failed => "failed"

def TaskStatus.asStr : TaskStatus → String
  | queued => "queued"
  | active => "active"
  | checkpointing => "checkpointing"
  | paused => "paused"
  | blocked => "blocked"
  | cancelling => "cancelling"
  | cancelled => "cancelled"
  | completing => "completing"
  | completed => "completed"
  | failed => "failed"

def OperationStatus.asStr : OperationStatus → String
  | intentRecorded => "intent_recorded"
  | started => "started"
  | succeeded => "succeeded"
  | failed => "failed"
  | cancelled => "cancelled"
  | uncertain => "uncertain"
  | reconciled => "reconciled"

def EffectClass.asStr : EffectClass → String
  | observation => "observation"
  | idempotentMutation => "idempotent_mutation"
  | ambiguousConsequential => "ambiguous_consequential"

def RecoveryStrategy.asStr : RecoveryStrategy → String
  | reconstructFromEvidence => "reconstruct_from_evidence"
  | replaceApproach => "replace_approach"
  | freshContextDiagnosis => "fresh_context_diagnosis"
  | minimizeReproduction => "minimize_reproduction"
  | declareBlocked => "declare_blocked"

def TypedId.toJson {kind : IdKind} (id : TypedId kind) : Json :=
  .str id.text

def Sha256Digest.text (digest : Sha256Digest) : String :=
  String.ofList (Text.hexadecimal 64 digest.bits.toNat)

def Sha256Digest.toJson (digest : Sha256Digest) : Json :=
  .str digest.text

theorem Sha256Digest.isLowercaseSha256_text (digest : Sha256Digest) :
    Text.isLowercaseSha256 digest.text = true :=
  Text.isLowercaseSha256_hexadecimal digest.bits.isLt

theorem validateEventIdentifier_of_sha256 {value : String}
    (h : Text.isLowercaseSha256 value = true) : validateEventIdentifier value = .ok () := by
  simp only [Text.isLowercaseSha256, Bool.and_eq_true, beq_iff_eq, List.all_eq_true] at h
  obtain ⟨hsize, hchars⟩ := h
  have hplain : ∀ c ∈ value.toList, Text.isWhitespace c = false ∧ Text.isControl c = false := by
    intro c hc
    have hbounds := Text.isLowercaseHex_iff.mp (hchars c hc)
    simp only [Text.isWhitespace, Text.isControl, Bool.or_eq_false_iff,
      Bool.and_eq_false_iff, decide_eq_false_iff_not, beq_eq_false_iff_ne]
    omega
  have hsome : ∃ c, c ∈ value.toList := by
    apply List.exists_mem_of_ne_nil
    intro hnil
    rw [String.toList_eq_nil_iff] at hnil
    subst hnil
    cases hsize
  simp only [validateEventIdentifier, validateEventString, ok_iff, Bool.not_eq_true]
  refine ⟨?_, ?_, ?_⟩
  · obtain ⟨c, hc⟩ := hsome
    exact List.all_eq_false.mpr ⟨c, hc, by simp [(hplain c hc).1]⟩
  · unfold maxTaskEventIdentifierBytes
    omega
  · exact List.any_eq_false.mpr fun c hc => by simp [(hplain c hc).2]

def EvidenceRef.toJson (evidence : EvidenceRef) : Json :=
  .obj [ ("event_sequence", .nat evidence.eventSequence),
    ("artifact_digest", .option .str evidence.artifactDigest),
    ("operation_id", .option TypedId.toJson evidence.operationId)]

def CompletionClause.toJson (clause : CompletionClause) : Json :=
  .obj [ ("id", .str clause.id), ("description", .str clause.description),
    ("required", .bool clause.required), ("status", .str clause.status.asStr),
    ("evidence", .list EvidenceRef.toJson clause.evidence)]

def CompletionContract.toJson (contract : CompletionContract) : Json :=
  .obj [ ("version", .nat contract.version), ("goal", .str contract.goal),
    ("constraints", .list .str contract.constraints),
    ("clauses", .list CompletionClause.toJson contract.clauses)]

def TaskBudget.toJson (budget : TaskBudget) : Json :=
  .obj [ ("max_wall_time_seconds", .option .nat budget.maxWallTimeSeconds),
    ("max_provider_requests", .option .nat budget.maxProviderRequests),
    ("max_tool_calls", .option .nat budget.maxToolCalls),
    ("soft_epoch_seconds", .nat budget.softEpochSeconds),
    ("soft_epoch_tool_calls", .nat budget.softEpochToolCalls)]

def FilePostconditionEntry.toJson (entry : FilePostconditionEntry) : Json :=
  .obj [ ("relative_path", .str entry.relativePath), ("regular_file_digest",
      .option Sha256Digest.toJson entry.regularFileDigest)]

def FilePostcondition.toJson (postcondition : FilePostcondition) : Json :=
  .obj [("entries", .list FilePostconditionEntry.toJson postcondition.entries)]

def OperationEvidenceState.toJson (evidence : OperationEvidenceState) : Json :=
  .obj [ ("recorded_sequences", .list .nat evidence.recordedSequences.keys),
    ("consumed_sequences", .list .nat evidence.consumedSequences)]

def OperationSnapshot.toJson (operation : OperationSnapshot) : Json :=
  .obj [ ("epoch_id", operation.epochId.toJson), ("status", .str operation.status.asStr),
    ("last_transition_sequence", .nat operation.lastTransitionSequence), ("postcondition_digest",
      .option Sha256Digest.toJson operation.postconditionDigest), ("file_postcondition",
      .option FilePostcondition.toJson operation.filePostcondition),
    ("evidence", operation.evidence.toJson)]

def pendingRecoveryToJson (pending : EpochId × RecoveryStrategy × String) : Json :=
  .arr [pending.1.toJson, .str pending.2.1.asStr, .str pending.2.2]

def TaskSnapshot.toJson (snapshot : TaskSnapshot) : Json :=
  .obj [ ("task_id", snapshot.taskId.toJson), ("session_id", snapshot.sessionId.toJson),
    ("status", .str snapshot.status.asStr),
    ("contract", snapshot.contract.toJson), ("budget", snapshot.budget.toJson),
    ("active_epoch", .option TypedId.toJson snapshot.activeEpoch),
    ("latest_checkpoint", .option TypedId.toJson snapshot.latestCheckpoint),
    ("provider_context", .option .str snapshot.providerContext),
    ("revision", .nat snapshot.revision),
    ("operations", .obj (snapshot.operations.entries.map fun entry =>
      (entry.1.text, entry.2.toJson))), ("pending_recovery",
      .option pendingRecoveryToJson snapshot.pendingRecovery)]

end CarlAgent.Task
