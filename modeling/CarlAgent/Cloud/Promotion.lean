import CarlAgent.Foundation.Check
import CarlAgent.Foundation.Json

/-!
# Protected validation

The receipt of a protected validation comes in three schemas, and a later one
carries more fields.  Its signature is for the canonical text of the fields of
its schema.  A promotion names what it expects of the receipt.
-/

namespace CarlAgent.Cloud

open Foundation List

structure PromotionContractError where
  code : String
  deriving DecidableEq, Repr

def invalid (name : String) : PromotionContractError := ⟨"invalid_" ++ name⟩

def isIdentifier : List Char → Bool
  | [] => false
  | first :: rest =>
    Text.isAsciiAlphanumeric first && rest.all fun c =>
      Text.isAsciiAlphanumeric c || ['.', '_', '/', '-'].contains c

def checkIdentifier (name value : String) : Except PromotionContractError Unit :=
  rejectIf (value.utf8ByteSize > 256 ∨ ¬ isIdentifier value.toList) (invalid name)

def checkDigest (name value : String) : Except PromotionContractError Unit :=
  rejectIf (¬ Text.isLowercaseSha256 value) (invalid name)

def checkObjectId (name value : String) : Except PromotionContractError Unit :=
  rejectIf (¬ (value.length = 40 ∨ value.length = 64) ∨
    ¬ value.toList.all Text.isLowercaseHex) (invalid name)

def checkBasisPoints (name : String) (value : Int) : Except PromotionContractError Unit :=
  rejectIf (¬ (-10000 ≤ value ∧ value ≤ 10000)) (invalid name)

def checkCount (name : String) (value : Int) : Except PromotionContractError Unit :=
  rejectIf (value < 0) (invalid name)

/-- What the verification takes from the standard library: keys, signatures,
the canonical text of a dictionary and the reading of times. -/
structure Library (κ β : Type) where
  fromIsoFormat : String → Option Int
  decodeBase64 : String → Option (List UInt8)
  loadPublicKey : List UInt8 → Option κ
  verifies : κ → List UInt8 → β → Bool
  canonicalJson : List (String × Json) → β
  sha256 : β → String

/-- The fields that every receipt and every expectation have. -/
structure PromotionIdentity where
  experimentId : String
  manifestDigest : String
  policyDigest : String
  parentCommit : String
  candidateCommit : String
  candidateTree : String
  executableDigest : String
  adapterDigest : String
  taskSetDigest : String
  metricPackDigest : String
  model : String
  effort : String
  environmentDigest : String
  deriving DecidableEq

namespace PromotionIdentity

def fields (identity : PromotionIdentity) : List (String × String) :=
  [("experiment_id", identity.experimentId), ("manifest_digest", identity.manifestDigest),
    ("policy_digest", identity.policyDigest), ("parent_commit", identity.parentCommit),
    ("candidate_commit", identity.candidateCommit), ("candidate_tree", identity.candidateTree),
    ("executable_digest", identity.executableDigest), ("adapter_digest", identity.adapterDigest),
    ("task_set_digest", identity.taskSetDigest), ("metric_pack_digest", identity.metricPackDigest),
    ("model", identity.model), ("effort", identity.effort),
    ("environment_digest", identity.environmentDigest)]

/-- The checks of these fields, with the digests that a receipt has besides. -/
def check (identity : PromotionIdentity) (digests : List (String × String)) :
    Except PromotionContractError Unit := do
  checkIdentifier "experiment_id" identity.experimentId
  ([("manifest_digest", identity.manifestDigest), ("policy_digest", identity.policyDigest),
    ("executable_digest", identity.executableDigest), ("adapter_digest", identity.adapterDigest),
    ("task_set_digest", identity.taskSetDigest), ("metric_pack_digest", identity.metricPackDigest),
    ("environment_digest", identity.environmentDigest)] ++ digests).forM
    fun field => checkDigest field.1 field.2
  [("parent_commit", identity.parentCommit), ("candidate_commit", identity.candidateCommit),
    ("candidate_tree", identity.candidateTree)].forM
    fun field => checkObjectId field.1 field.2
  checkIdentifier "model" identity.model
  checkIdentifier "effort" identity.effort

def errors : List String :=
  ["protected_experiment_mismatch", "protected_manifest_mismatch",
    "protected_policy_mismatch", "protected_parent_mismatch",
    "protected_candidate_mismatch", "protected_candidate_tree_mismatch",
    "protected_executable_mismatch", "protected_adapter_mismatch",
    "protected_task_set_mismatch", "protected_metric_pack_mismatch",
    "protected_model_mismatch", "protected_effort_mismatch", "protected_environment_mismatch"]

def compare (receipt expected : PromotionIdentity) : Except PromotionContractError Unit :=
  ((receipt.fields.zip expected.fields).zip errors).forM fun field =>
    rejectIf (field.1.1 ≠ field.1.2) ⟨field.2⟩

end PromotionIdentity

structure ProtectedValidationReceipt extends PromotionIdentity where
  schemaVersion : Int
  validationId : String
  deterministicChecksDigest : String
  repositoryTestsDigest : String
  pairedScoreDeltaBasisPoints : Int
  pairedConfidenceLowerBasisPoints : Int
  guardDeltaBasisPoints : Int
  workflowPassed : Bool
  safetyPassed : Bool
  flakeRateBasisPoints : Int
  invalidRunCount : Int
  costMicrodollars : Int
  latencyMs : Int
  holdoutAggregateBasisPoints : Int
  holdoutLeakageDetected : Bool
  proposalReviewDigest : String
  buildReviewDigest : String
  securityReviewDigest : String
  createdAt : String
  expiresAt : String
  decision : String
  capabilityReportDigest : Option String
  transferGainBasisPoints : Option Int
  protectedRunManifestDigest : Option String

structure SignedProtectedValidation where
  receipt : ProtectedValidationReceipt
  keyId : String
  signatureBase64 : String

structure PromotionExpectation extends PromotionIdentity where
  capabilityReportDigest : Option String
  transferGainBasisPoints : Option Int
  capabilityClaimType : Option String
  affectedContractCasesImproved : Option Bool
  capabilityGuardsNonInferior : Option Bool
  protectedRunManifestDigest : Option String

structure VerifiedProtectedValidation where
  validationId : String
  receiptDigest : String
  candidateCommit : String
  candidateTree : String
  expiresAt : String
  deriving DecidableEq

section Checks

variable {κ β : Type} (library : Library κ β)

def parseUtc (name value : String) : Except PromotionContractError Int :=
  match value.toList.reverse with
  | 'Z' :: rest =>
    requireSome (library.fromIsoFormat (String.ofList rest.reverse ++ "+00:00")) (invalid name)
  | _ => .error (invalid name)

variable (receipt : ProtectedValidationReceipt)

def ProtectedValidationReceipt.checkSchema : Except PromotionContractError Unit :=
  if receipt.schemaVersion = 1 then
    rejectIf (receipt.capabilityReportDigest ≠ none ∨
      receipt.transferGainBasisPoints ≠ none ∨
      receipt.protectedRunManifestDigest ≠ none) (invalid "protected_receipt_schema")
  else do
    let report ← requireSome receipt.capabilityReportDigest (invalid "capability_report_digest")
    checkDigest "capability_report_digest" report
    let transferGain ← requireSome receipt.transferGainBasisPoints
      (invalid "transfer_gain_basis_points")
    checkBasisPoints "transfer_gain_basis_points" transferGain
    if receipt.schemaVersion = 2 then
      rejectIf (receipt.protectedRunManifestDigest ≠ none) (invalid "protected_receipt_schema")
    else do
      let runManifest ← requireSome receipt.protectedRunManifestDigest
        (invalid "protected_run_manifest_digest")
      checkDigest "protected_run_manifest_digest" runManifest

def ProtectedValidationReceipt.postInit : Except PromotionContractError Unit := do
  rejectIf (receipt.schemaVersion ∉ [1, 2, 3]) (invalid "protected_receipt_schema")
  checkIdentifier "validation_id" receipt.validationId
  receipt.check [("deterministic_checks_digest", receipt.deterministicChecksDigest),
      ("repository_tests_digest", receipt.repositoryTestsDigest),
      ("proposal_review_digest", receipt.proposalReviewDigest),
      ("build_review_digest", receipt.buildReviewDigest),
      ("security_review_digest", receipt.securityReviewDigest)]
  rejectIf (receipt.decision ∉ ["pass", "fail"]) (invalid "protected_decision")
  [("paired_score_delta_basis_points", receipt.pairedScoreDeltaBasisPoints),
    ("paired_confidence_lower_basis_points", receipt.pairedConfidenceLowerBasisPoints),
    ("guard_delta_basis_points", receipt.guardDeltaBasisPoints), ("holdout_aggregate_basis_points",
      receipt.holdoutAggregateBasisPoints)].forM
    fun field => checkBasisPoints field.1 field.2
  [("flake_rate_basis_points", receipt.flakeRateBasisPoints),
    ("invalid_run_count", receipt.invalidRunCount), ("cost_microdollars", receipt.costMicrodollars),
    ("latency_ms", receipt.latencyMs)].forM
    fun field => checkCount field.1 field.2
  rejectIf (receipt.flakeRateBasisPoints > 10000) (invalid "flake_rate_basis_points")
  receipt.checkSchema
  let created ← parseUtc library "created_at" receipt.createdAt
  let expires ← parseUtc library "expires_at" receipt.expiresAt
  rejectIf (expires ≤ created) (invalid "protected_receipt_window")

def ProtectedValidationReceipt.baseFields : List (String × Json) :=
  receipt.fields.map (fun field => (field.1, .str field.2)) ++
  [("schema_version", .num receipt.schemaVersion), ("validation_id", .str receipt.validationId),
    ("deterministic_checks_digest", .str receipt.deterministicChecksDigest),
    ("repository_tests_digest", .str receipt.repositoryTestsDigest),
    ("paired_score_delta_basis_points", .num receipt.pairedScoreDeltaBasisPoints),
    ("paired_confidence_lower_basis_points", .num receipt.pairedConfidenceLowerBasisPoints),
    ("guard_delta_basis_points", .num receipt.guardDeltaBasisPoints),
    ("workflow_passed", .bool receipt.workflowPassed),
    ("safety_passed", .bool receipt.safetyPassed),
    ("flake_rate_basis_points", .num receipt.flakeRateBasisPoints),
    ("invalid_run_count", .num receipt.invalidRunCount),
    ("cost_microdollars", .num receipt.costMicrodollars),
    ("latency_ms", .num receipt.latencyMs), ("holdout_aggregate_basis_points",
      .num receipt.holdoutAggregateBasisPoints),
    ("holdout_leakage_detected", .bool receipt.holdoutLeakageDetected),
    ("proposal_review_digest", .str receipt.proposalReviewDigest),
    ("build_review_digest", .str receipt.buildReviewDigest),
    ("security_review_digest", .str receipt.securityReviewDigest),
    ("created_at", .str receipt.createdAt),
    ("expires_at", .str receipt.expiresAt), ("decision", .str receipt.decision)]

def ProtectedValidationReceipt.toCanonicalDict : List (String × Json) :=
  receipt.baseFields ++ (if receipt.schemaVersion = 1 then []
    else [("capability_report_digest", (receipt.capabilityReportDigest.map .str).getD .null),
      ("transfer_gain_basis_points", (receipt.transferGainBasisPoints.map .num).getD .null)]) ++
    if receipt.schemaVersion = 1 ∨ receipt.schemaVersion = 2 then []
    else [("protected_run_manifest_digest",
      (receipt.protectedRunManifestDigest.map .str).getD .null)]

variable (envelope : SignedProtectedValidation)

def SignedProtectedValidation.signature :
    Except PromotionContractError (List UInt8) :=
  requireSome (library.decodeBase64 envelope.signatureBase64) (invalid "protected_signature")

def SignedProtectedValidation.postInit :
    Except PromotionContractError Unit := do
  envelope.receipt.postInit library
  checkIdentifier "protected_key_id" envelope.keyId
  let signature ← envelope.signature library
  rejectIf (signature.length ≠ 64) (invalid "protected_signature")

variable (expected : PromotionExpectation)

def PromotionExpectation.postInit :
    Except PromotionContractError Unit := do
  expected.check []
  match expected.capabilityReportDigest, expected.transferGainBasisPoints,
    expected.capabilityClaimType, expected.affectedContractCasesImproved,
    expected.capabilityGuardsNonInferior with
  | none, none, none, none, none => .ok ()
  | some report, some transferGain, some claimType, some _, some _ => do
    checkDigest "capability_report_digest" report
    checkBasisPoints "transfer_gain_basis_points" transferGain
    rejectIf (claimType ∉ ["capability", "compatibility", "correctness"])
      (invalid "capability_claim_type")
  | _, _, _, _, _ => .error (invalid "capability_expectation")
  expected.protectedRunManifestDigest.forM (checkDigest "protected_run_manifest_digest")

def constitutionalExact : List String :=
  ["AGENTS.md", "Cargo.lock", "Cargo.toml", "SECURITY.md", "docs/benchmarks.md"]

def constitutionalPrefixes : List String :=
  [".codex/", ".github/", "benchmarks/",
    "docs/superpowers/plans/2026-08-18-carl-autonomous-main-promotion",
    "docs/superpowers/specs/2026-08-10-codex-carl-improvement-factory-design",
    "docs/superpowers/specs/2026-08-18-carl-autonomous-main-promotion",
    "scripts/benchmark", "scripts/live-codex"]

def isConstitutional (path : String) : Except PromotionContractError Bool := do
  rejectIf (path.isEmpty ∨ '\\' ∈ path.toList) (invalid "changed_path")
  rejectIf (Text.startsWith ['/'] path.toList ∨ (path.toList.splitOn '/').any
      [[], ['.'], ['.', '.']].contains) (invalid "changed_path")
  .ok (constitutionalExact.contains path || constitutionalPrefixes.any fun start =>
      Text.startsWith start.toList path.toList)

def PromotionExpectation.contractException : Prop :=
  (expected.capabilityClaimType = some "compatibility" ∨
    expected.capabilityClaimType = some "correctness") ∧
  expected.affectedContractCasesImproved = some true ∧
  expected.capabilityGuardsNonInferior = some true
  deriving Decidable

def verifySchema : Except PromotionContractError Unit :=
  if receipt.schemaVersion = 1 then
    rejectIf (expected.capabilityReportDigest ≠ none) ⟨"protected_capability_report_missing"⟩
  else do
    rejectIf (expected.capabilityReportDigest = none) ⟨"protected_capability_report_missing"⟩
    rejectIf (receipt.capabilityReportDigest ≠ expected.capabilityReportDigest)
      ⟨"protected_capability_report_mismatch"⟩
    rejectIf (expected.transferGainBasisPoints = none) ⟨"protected_transfer_gain_missing"⟩
    rejectIf (receipt.transferGainBasisPoints ≠
      expected.transferGainBasisPoints) ⟨"protected_transfer_gain_mismatch"⟩
    rejectIf (receipt.transferGainBasisPoints.any (· ≤ 0) ∧
      ¬ expected.contractException) ⟨"protected_transfer_gain_required"⟩
    if receipt.schemaVersion = 3 then do
      rejectIf (expected.protectedRunManifestDigest = none) ⟨"protected_run_manifest_missing"⟩
      rejectIf (receipt.protectedRunManifestDigest ≠ expected.protectedRunManifestDigest)
        ⟨"protected_run_manifest_mismatch"⟩
    else
      rejectIf (expected.protectedRunManifestDigest ≠ none) ⟨"protected_run_manifest_missing"⟩

def verifyProtectedValidation (publicKeyPem : List UInt8)
    (expected : PromotionExpectation) (now : Option Int) (changedPaths : List String) :
    Except PromotionContractError VerifiedProtectedValidation := do
  let now ← requireSome now ⟨"invalid_verification_time"⟩
  let publicKey ← requireSome (library.loadPublicKey publicKeyPem) ⟨"protected_public_key_invalid"⟩
  let receipt := envelope.receipt
  let payload := library.canonicalJson receipt.toCanonicalDict
  let signature ← envelope.signature library
  rejectIf (¬ library.verifies publicKey signature payload) ⟨"protected_signature_invalid"⟩
  receipt.compare expected.toPromotionIdentity
  verifySchema receipt expected
  let created ← parseUtc library "created_at" receipt.createdAt
  rejectIf (now < created) ⟨"protected_receipt_not_yet_valid"⟩
  let expires ← parseUtc library "expires_at" receipt.expiresAt
  rejectIf (now > expires) ⟨"protected_receipt_expired"⟩
  rejectIf (receipt.decision ≠ "pass") ⟨"protected_validation_not_passed"⟩
  rejectIf receipt.holdoutLeakageDetected ⟨"protected_holdout_leakage"⟩
  rejectIf (¬ receipt.workflowPassed) ⟨"protected_workflow_failed"⟩
  rejectIf (¬ receipt.safetyPassed) ⟨"protected_safety_failed"⟩
  let constitutional ← changedPaths.anyM isConstitutional
  rejectIf constitutional ⟨"constitutional_change_requires_owner"⟩
  .ok ⟨receipt.validationId, library.sha256 payload, receipt.candidateCommit,
    receipt.candidateTree, receipt.expiresAt⟩

end Checks

section Trust

variable {κ β : Type} {library : Library κ β}
  {receipt other : ProtectedValidationReceipt}
  {expected : PromotionExpectation}

/-- What a promotion may rely on once a receipt is verified. -/
structure Trusts (library : Library κ β) (signed : κ → β → Prop)
    (receipt : ProtectedValidationReceipt) (publicKeyPem : List UInt8)
    (expected : PromotionExpectation) (now : Option Int)
    (changedPaths : List String) : Prop where
  signed : ∃ publicKey, library.loadPublicKey publicKeyPem = some publicKey ∧
    signed publicKey (library.canonicalJson receipt.toCanonicalDict)
  exactly : ∀ other, other.postInit library = .ok () → library.canonicalJson other.toCanonicalDict =
      library.canonicalJson receipt.toCanonicalDict → other = receipt
  identity : receipt.toPromotionIdentity = expected.toPromotionIdentity
  report : expected.capabilityReportDigest ≠ none →
    receipt.capabilityReportDigest = expected.capabilityReportDigest
  transferGain : expected.transferGainBasisPoints ≠ none →
    receipt.transferGainBasisPoints = expected.transferGainBasisPoints
  runManifest : expected.protectedRunManifestDigest ≠ none →
    receipt.protectedRunManifestDigest = expected.protectedRunManifestDigest
  gain : ∀ gain ∈ receipt.transferGainBasisPoints, gain ≤ 0 → expected.contractException
  window : ∃ time created expires, now = some time ∧
    parseUtc library "created_at" receipt.createdAt = .ok created ∧
    parseUtc library "expires_at" receipt.expiresAt = .ok expires ∧
    created ≤ time ∧ time ≤ expires
  gates : receipt.decision = "pass" ∧ receipt.holdoutLeakageDetected = false ∧
    receipt.workflowPassed = true ∧ receipt.safetyPassed = true
  paths : ∀ path ∈ changedPaths, isConstitutional path = .ok false

theorem eq_of_perm_of_keys {α ν : Type} {a b : List (α × ν)} (h : a.Perm b)
    (hkeys : a.map Prod.fst = b.map Prod.fst) (hnodup : (a.map Prod.fst).Nodup) : a = b := by
  induction a generalizing b with
  | nil => exact h.nil_eq
  | cons first a ih =>
    cases b with
    | nil => cases hkeys
    | cons second b =>
      obtain ⟨hkey, hrest⟩ := cons.inj hkeys
      obtain ⟨hfresh, hnodup⟩ := nodup_cons.mp hnodup
      have hfirst : first = second := by
        rcases mem_cons.mp (h.subset mem_cons_self) with
          hsame | hlater
        · exact hsame
        · rw [hrest] at hfresh
          exact absurd (mem_map_of_mem hlater) hfresh
      subst hfirst
      rw [ih h.cons_inv hrest hnodup]

theorem anyM_isConstitutional {paths : List String} (h : paths.anyM isConstitutional = .ok false) :
    ∀ path ∈ paths, isConstitutional path = .ok false := by
  induction paths with
  | nil => simp
  | cons path paths ih =>
    rw [anyM, bind_eq_ok] at h
    obtain ⟨found, hpath, h⟩ := h
    cases found with
    | true => cases h
    | false => exact forall_mem_cons.mpr ⟨hpath, ih h⟩

theorem ProtectedValidationReceipt.baseFields_inj (h : receipt.baseFields = other.baseFields)
    (hreport : receipt.capabilityReportDigest = other.capabilityReportDigest)
    (hgain : receipt.transferGainBasisPoints = other.transferGainBasisPoints)
    (hmanifest : receipt.protectedRunManifestDigest = other.protectedRunManifestDigest) :
    receipt = other := by
  obtain ⟨⟨⟩⟩ := receipt
  obtain ⟨⟨⟩⟩ := other
  simp only [baseFields, PromotionIdentity.fields, map_cons, map_nil,
    cons_append, nil_append, cons.injEq, Prod.mk.injEq, Json.num.injEq,
    Json.str.injEq, Json.bool.injEq, true_and, and_true] at h
  simp_all

theorem ProtectedValidationReceipt.schema_of_postInit (h : receipt.postInit library = .ok ()) :
    (receipt.schemaVersion = 1 ∨ receipt.schemaVersion = 2 ∨
      receipt.schemaVersion = 3) ∧ receipt.checkSchema = .ok () := by
  simp only [postInit, ok_iff, checkIdentifier, forM_eq_ok] at h
  obtain ⟨hversion, -, ⟨⟩, -, -, -, -, -, ⟨⟩, hschema, -⟩ := h
  rw [not_not] at hversion
  exact ⟨by simpa using hversion, hschema⟩

theorem getD_str_inj {x y : Option String}
    (h : (x.map Json.str).getD .null = (y.map Json.str).getD .null) : x = y := by
  cases x <;> cases y <;> simp_all

theorem getD_num_inj {x y : Option Int}
    (h : (x.map Json.num).getD .null = (y.map Json.num).getD .null) : x = y := by
  cases x <;> cases y <;> simp_all

/-- The number of its fields tells the schema of a receipt. -/
theorem ProtectedValidationReceipt.toCanonicalDict_inj (h : receipt.postInit library = .ok ())
    (hother : other.postInit library = .ok ())
    (hperm : receipt.toCanonicalDict.Perm other.toCanonicalDict) : receipt = other := by
  obtain ⟨hversion, hschema⟩ := schema_of_postInit h
  obtain ⟨hversion', hschema'⟩ := schema_of_postInit hother
  have hlength := hperm.length_eq
  have hsame : receipt.schemaVersion = other.schemaVersion := by
    rcases hversion with hv | hv | hv <;> rcases hversion' with hv' | hv' | hv' <;>
      simp [toCanonicalDict, baseFields, PromotionIdentity.fields, hv, hv'] at hlength ⊢
  have heq : receipt.toCanonicalDict = other.toCanonicalDict := by
    refine eq_of_perm_of_keys hperm ?_ ?_
    · simp only [toCanonicalDict, hsame]
      split_ifs <;> rfl
    · simp only [toCanonicalDict]
      split_ifs <;> simp [baseFields, PromotionIdentity.fields]
  rw [toCanonicalDict, toCanonicalDict, append_assoc, append_assoc, hsame] at heq
  obtain ⟨hbase, hrest⟩ := append_inj heq rfl
  rw [hsame] at hversion
  rcases hversion with hv | hv | hv
  all_goals simp [checkSchema, hsame, hv, bind_eq_ok] at hschema hschema' hrest
  · exact baseFields_inj hbase (hschema.1.trans hschema'.1.symm)
      (hschema.2.1.trans hschema'.2.1.symm) (hschema.2.2.trans hschema'.2.2.symm)
  · obtain ⟨-, -, -, -, -, -, hnone⟩ := hschema
    obtain ⟨-, -, -, -, -, -, hnone'⟩ := hschema'
    exact baseFields_inj hbase (getD_str_inj hrest.1) (getD_num_inj hrest.2)
      (hnone.trans hnone'.symm)
  · exact baseFields_inj hbase (getD_str_inj hrest.1)
      (getD_num_inj hrest.2.1) (getD_str_inj hrest.2.2)

theorem PromotionExpectation.transferGain_eq_none (h : expected.postInit = .ok ())
    (hreport : expected.capabilityReportDigest = none) :
    expected.transferGainBasisPoints = none := by
  simp only [postInit, bind_eq_ok, hreport] at h
  obtain ⟨-, -, h⟩ := h
  split at h
  next hgain _ _ _ => exact hgain
  next hsome _ _ _ _ => cases hsome
  next => cases h

theorem verifySchema_fields (h : verifySchema receipt expected = .ok ())
    (hexpected : expected.postInit = .ok ()) : (expected.capabilityReportDigest ≠ none →
      receipt.capabilityReportDigest = expected.capabilityReportDigest) ∧
    (expected.transferGainBasisPoints ≠ none →
      receipt.transferGainBasisPoints = expected.transferGainBasisPoints) ∧
    (receipt.schemaVersion ≠ 1 → (expected.protectedRunManifestDigest ≠ none →
      receipt.protectedRunManifestDigest = expected.protectedRunManifestDigest) ∧
      ∀ gain ∈ receipt.transferGainBasisPoints, gain ≤ 0 → expected.contractException) := by
  rw [verifySchema] at h
  split at h
  next hversion =>
    rw [rejectIf_eq_ok, not_not] at h
    have hgain := PromotionExpectation.transferGain_eq_none hexpected h
    simp [h, hgain, hversion]
  next hversion =>
    simp only [ok_iff, not_not] at h
    obtain ⟨-, hreport, -, hgain, hrequired, h⟩ := h
    refine ⟨fun _ => hreport, fun _ => hgain, fun _ => ⟨fun hmanifest => ?_, ?_⟩⟩
    · split at h
      · simp only [ok_iff, ne_eq, not_not] at h
        exact h.2
      · rw [rejectIf_eq_ok, not_not] at h
        exact absurd h hmanifest
    · intro gain hmem hnegative
      by_contra hexception
      rw [Option.mem_def.mp hmem] at hrequired
      exact hrequired ⟨by simpa using hnegative, hexception⟩

theorem PromotionIdentity.eq_of_compare {a b : PromotionIdentity}
    (h : a.compare b = .ok ()) : a = b := by
  cases a
  cases b
  rw [compare, forM_eq_ok] at h
  simpa [fields, errors] using h

/-- What was verified can be trusted, except that a receipt of the first schema says nothing about
the run manifest that was expected. -/
theorem verifyProtectedValidation_trusts_iff {signed : κ → β → Prop}
    {envelope : SignedProtectedValidation} {publicKeyPem : List UInt8} {now : Option Int}
    {changedPaths : List String} {verified : VerifiedProtectedValidation}
    (hcanonical : ∀ a b : ProtectedValidationReceipt,
      library.canonicalJson a.toCanonicalDict = library.canonicalJson b.toCanonicalDict →
        a.toCanonicalDict.Perm b.toCanonicalDict)
    (hsigned : ∀ publicKey signature payload, library.verifies publicKey signature payload = true →
        signed publicKey payload) (henvelope : envelope.postInit library = .ok ())
    (hexpected : expected.postInit = .ok ())
    (h : verifyProtectedValidation library envelope publicKeyPem expected now
      changedPaths = .ok verified) :
    Trusts library signed envelope.receipt publicKeyPem expected now changedPaths ↔
      ¬ (envelope.receipt.schemaVersion = 1 ∧ expected.protectedRunManifestDigest ≠ none) := by
  simp only [SignedProtectedValidation.postInit, bind_eq_ok] at henvelope
  obtain ⟨⟨⟩, hreceipt, -⟩ := henvelope
  simp only [verifyProtectedValidation, ok_iff, not_not, Bool.not_eq_true, Bool.not_eq_false] at h
  obtain ⟨time, rfl, publicKey, hkey, signature, -, hverifies, ⟨⟩, hidentity, ⟨⟩, hschema, created,
    hcreated, hafter, expires, hexpires, hbefore, hdecision, hleakage, hworkflow, hsafety,
    constitutional, hpaths, hconstitutional, -⟩ := h
  subst hconstitutional
  obtain ⟨hreport, hgain, hlater⟩ := verifySchema_fields hschema hexpected
  have hfirst : envelope.receipt.schemaVersion = 1 →
      envelope.receipt.transferGainBasisPoints = none ∧
        envelope.receipt.protectedRunManifestDigest = none := by
    intro hversion
    have hcheck := (ProtectedValidationReceipt.schema_of_postInit hreceipt).2
    rw [ProtectedValidationReceipt.checkSchema, if_pos hversion, rejectIf_eq_ok] at hcheck
    simp_all
  constructor
  · rintro htrusts ⟨hversion, hset⟩
    exact hset ((htrusts.runManifest hset).symm.trans (hfirst hversion).2)
  · intro hnamed
    refine ⟨⟨publicKey, hkey, hsigned _ _ _ hverifies⟩, ?_, ?_, hreport, hgain,
      ?_, ?_, ⟨time, created, expires, rfl, hcreated, hexpires, not_lt.mp hafter,
        not_lt.mp hbefore⟩, ⟨hdecision, hleakage, hworkflow, hsafety⟩, anyM_isConstitutional hpaths⟩
    · intro other hother hsame
      exact ProtectedValidationReceipt.toCanonicalDict_inj hother hreceipt (hcanonical _ _ hsame)
    · exact PromotionIdentity.eq_of_compare hidentity
    · intro hset
      exact (hlater fun hversion => hnamed ⟨hversion, hset⟩).1 hset
    · by_cases hversion : envelope.receipt.schemaVersion = 1
      · simp [(hfirst hversion).1]
      · exact (hlater hversion).2

end Trust

namespace Downgrade

def digest : String := String.ofList (List.replicate 64 '0')

def identity : PromotionIdentity :=
  ⟨"experiment", digest, digest, digest, digest, digest, digest, digest, digest,
    digest, "model", "low", digest⟩

def receipt : ProtectedValidationReceipt :=
  ⟨identity, 1, "validation", digest, digest, 0, 0, 0, true, true, 0, 0, 0, 0, 0, false, digest,
    digest, digest, "2026-08-18T00:00:00Z", "2026-08-19T00:00:00Z", "pass", none, none, none⟩

/-- Of 64 zero bytes. -/
def signature : String := String.ofList (List.replicate 86 'A') ++ "=="

def envelope : SignedProtectedValidation := ⟨receipt, "key", signature⟩

def publicKeyPem : List UInt8 :=
  ("-----BEGIN PUBLIC KEY-----\nMCowBQYDK2VwAyEA" ++ String.ofList (List.replicate 43 'A') ++
    "=\n-----END PUBLIC KEY-----\n").toList.map fun c => .ofNat c.toNat

def expectation (runManifest : Option String) : PromotionExpectation :=
  ⟨identity, none, none, none, none, none, runManifest⟩

def texts (fields : List (String × Json)) : List (String × (String ⊕ List Char)) :=
  fields.map fun field => (field.1, match field.2 with
    | .str text => .inl text
    | value => .inr value.render)

def Signed (_ : Unit) (payload : List (String × Json)) : Prop :=
  texts payload = texts receipt.toCanonicalDict
  deriving Decidable

/-- Reads the two times, the key and the signature above, which signs the receipt. -/
def library : Library Unit (List (String × Json)) where
  fromIsoFormat text :=
    if text = "2026-08-18T00:00:00+00:00" then some 1787011200
    else if text = "2026-08-19T00:00:00+00:00" then some 1787097600
    else none
  decodeBase64 text := if text = signature then some (List.replicate 64 0) else none
  loadPublicKey bytes := if bytes = publicKeyPem then some () else none
  verifies publicKey bytes payload := bytes = List.replicate 64 0 ∧ Signed publicKey payload
  canonicalJson := id
  sha256 _ := digest

def verified : VerifiedProtectedValidation :=
  ⟨"validation", digest, digest, digest, "2026-08-19T00:00:00Z"⟩

theorem envelope_postInit : envelope.postInit library = .ok () := by decide +kernel

end Downgrade

open Downgrade

theorem verifyProtectedValidation_trusts_first_schema :
    Trusts library Signed receipt publicKeyPem (expectation none) (some 1787050000)
      ["src/main.rs"] := by
  have hverified : verifyProtectedValidation library envelope publicKeyPem (expectation none)
      (some 1787050000) ["src/main.rs"] = .ok verified := by
    decide +kernel
  have hsigned : ∀ publicKey bytes payload, library.verifies publicKey bytes payload = true →
      Signed publicKey payload := by
    intro publicKey bytes payload hverifies
    exact (of_decide_eq_true hverifies).2
  exact (verifyProtectedValidation_trusts_iff (fun _ _ h => .of_eq h) hsigned
    envelope_postInit (by decide +kernel) hverified).mpr fun h => h.2 rfl

/-- A receipt of the first schema passes where a run manifest is expected. -/
theorem verifyProtectedValidation_accepts_downgrade : envelope.postInit library = .ok () ∧
    (expectation (some digest)).postInit = .ok () ∧
    verifyProtectedValidation library envelope publicKeyPem (expectation (some digest))
      (some 1787050000) [] = .ok verified ∧
    ¬ Trusts library Signed receipt publicKeyPem
      (expectation (some digest)) (some 1787050000) [] := by
  refine ⟨envelope_postInit, by decide +kernel, by decide +kernel, ?_⟩
  intro h
  cases h.runManifest (Option.some_ne_none digest)

end CarlAgent.Cloud
