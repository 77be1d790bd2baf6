import CarlAgent.Task.Canonical
import CarlAgent.Task.Report

/-!
# Progress and recovery

After every epoch the checkpoint is reduced to a fingerprint.  A fingerprint
that was seen before means that the epoch brought nothing new, and a recovery
strategy is selected from those that have not failed for it.
-/

namespace CarlAgent.Task

open Foundation

def maxRecoveryAttempts : Nat := 64

structure RecoveryAttempt where
  strategy : RecoveryStrategy
  strategyFingerprint : String
  outcome : RecoveryAttemptOutcome
  deriving DecidableEq, Repr

structure ProgressAssessment where
  fingerprint : String
  newInformation : Bool
  resolvedClauseIds : List String
  stallCount : Nat
  recovery : Option RecoveryStrategy
  deriving DecidableEq, Repr

variable (checkpoint : CanonicalCheckpoint)

def hasMissingAuthority : Bool :=
  checkpoint.blockers.any (· == "missing_authority")

def isFingerprint (value : String) : Bool :=
  Text.isLowercaseSha256 value

def validateRecoveryAttempts (attempts : List RecoveryAttempt) : Except ReportErrorCode Unit :=
  rejectIf (attempts.length > maxRecoveryAttempts ∨
    ∃ attempt ∈ attempts, attempt.strategy = .declareBlocked ∨
      ¬ isFingerprint attempt.strategyFingerprint) .invalidProgressInput

def resolvedClauseIds : List String :=
  sortDedup id ((checkpoint.contract.clauses.filter fun clause =>
    decide (clause.status = .satisfied) && !clause.evidence.isEmpty).map (·.id))

def OperationStatus.debugName : OperationStatus → String
  | intentRecorded => "IntentRecorded"
  | started => "Started"
  | succeeded => "Succeeded"
  | failed => "Failed"
  | cancelled => "Cancelled"
  | uncertain => "Uncertain"
  | reconciled => "Reconciled"

def failureSignatures : List String :=
  sortDedup id (checkpoint.blockers ++ checkpoint.uncertainDeliveryDigests ++
    (checkpoint.operations.filter fun operation =>
      decide (operation.status = .failed ∨ operation.status = .uncertain)).map
        fun operation => "operation:" ++ operation.requestDigest ++ ":" ++
          operation.status.debugName)

structure VerificationOutcome where
  clauseId : String
  status : Option ClauseStatus
  evidence : List EvidenceRef

def VerificationOutcome.sortKey (outcome : VerificationOutcome) :
    String ×ₗ List (Nat ×ₗ WithBot String ×ₗ WithBot OperationId) :=
  toLex (outcome.clauseId, outcome.evidence.map EvidenceRef.sortKey)

def VerificationOutcome.toJson (outcome : VerificationOutcome) : Json :=
  .obj [ ("clause_id", .str outcome.clauseId),
    ("status", .option (fun status => .str status.asStr) outcome.status),
    ("evidence", .list (fun item => .arr [.nat item.eventSequence,
      .option .str item.artifactDigest, .option TypedId.toJson item.operationId]) outcome.evidence)]

def verificationOutcomes : List VerificationOutcome :=
  let statuses := OrderedMap.ofList
    (checkpoint.contract.clauses.map fun clause => (clause.id, clause.status))
  sortByKey VerificationOutcome.sortKey (checkpoint.verification.map
    fun outcome =>
      { clauseId := outcome.clauseId, status := statuses.find? outcome.clauseId,
        evidence := sortByKey EvidenceRef.sortKey outcome.evidence })

section

variable (sha256 : Sha256)

variable (checkpoint : CanonicalCheckpoint)

def fingerprint (resolvedClauseIds : List String) (nextObjective : String) : String :=
  (sha256 (Text.utf8 (Json.render (.obj [
    ("changed_files", .list (fun entry => .arr [.str entry.1, .str entry.2])
      checkpoint.repository.fileHashes.entries),
    ("verification_outcomes", .list VerificationOutcome.toJson (verificationOutcomes checkpoint)),
    ("failure_signatures", .list .str (failureSignatures checkpoint)),
    ("resolved_clause_ids", .list .str resolvedClauseIds), ("decision_ids", .list .str
      (sortDedup id (checkpoint.decisions.map (·.id)))),
    ("next_objective", .str nextObjective)])))).text

/-- The identity that binds an attempted recovery to a stalled state. -/
def recoveryAttemptFingerprint (progressFingerprint : String)
    (strategy : RecoveryStrategy) : String :=
  (sha256 (Text.utf8 (Json.render (.obj [ ("progress_fingerprint", .str progressFingerprint),
    ("strategy", .str strategy.asStr)])))).text

def failedStrategies (fingerprint : String)
    (recoveryAttempts : List RecoveryAttempt) : List RecoveryStrategy :=
  ((recoveryAttempts.filter fun attempt =>
    decide (attempt.outcome = .failed ∧ attempt.strategy ≠ .declareBlocked ∧
      attempt.strategyFingerprint =
        recoveryAttemptFingerprint sha256 fingerprint attempt.strategy)).map (·.strategy)).dedup

def recoveryOrder : List RecoveryStrategy :=
  [.reconstructFromEvidence, .replaceApproach, .minimizeReproduction, .freshContextDiagnosis]

def selectRecovery (fingerprint : String)
    (recoveryAttempts : List RecoveryAttempt) : RecoveryStrategy :=
  if hasMissingAuthority checkpoint then .declareBlocked
  else
    let failed := failedStrategies sha256 fingerprint recoveryAttempts
    if failed.length ≥ 3 then .declareBlocked
    else (recoveryOrder.find? fun strategy =>
      decide (strategy ∉ failed)).getD .declareBlocked

def assessProgressWithRecoveryAttempts (report : EpochReport) (history : List ProgressAssessment)
    (recoveryAttempts : List RecoveryAttempt) : Except ReportErrorCode ProgressAssessment := do
  validateRecoveryAttempts recoveryAttempts
  let nextObjective := report.nextObjective.getD checkpoint.nextObjective
  rejectIf (Text.isBlank nextObjective) .invalidReport
  let resolvedClauseIds := resolvedClauseIds checkpoint
  let fingerprint := fingerprint sha256 checkpoint resolvedClauseIds nextObjective
  let newInformation := !history.any fun assessment =>
    assessment.fingerprint == fingerprint
  let stallCount := if newInformation then 0
    else min (history.reverse.takeWhile fun assessment =>
      assessment.fingerprint == fingerprint).length 255
  let recovery := if hasMissingAuthority checkpoint || !newInformation
    then some (selectRecovery sha256 checkpoint fingerprint recoveryAttempts)
    else none
  .ok { fingerprint, newInformation, resolvedClauseIds, stallCount, recovery }

end

/-! ## What an assessment depends on -/

variable {sha256 : Sha256}

theorem any_fingerprint (history : List ProgressAssessment) (fingerprint : String) :
    (history.any fun assessment => assessment.fingerprint == fingerprint) =
      (history.map (·.fingerprint)).any (· == fingerprint) := by
  rw [List.any_map]
  rfl

theorem length_takeWhile_fingerprint (history : List ProgressAssessment) (fingerprint : String) :
    (history.takeWhile fun assessment => assessment.fingerprint == fingerprint).length =
      ((history.map (·.fingerprint)).takeWhile (· == fingerprint)).length := by
  rw [List.takeWhile_map, List.length_map]
  rfl

theorem assessProgress_of_fingerprints {checkpoint : CanonicalCheckpoint} {report : EpochReport}
    {history later : List ProgressAssessment} {recoveryAttempts : List RecoveryAttempt}
    (h : history.map (·.fingerprint) = later.map (·.fingerprint)) :
    assessProgressWithRecoveryAttempts sha256 checkpoint report history recoveryAttempts =
      assessProgressWithRecoveryAttempts sha256 checkpoint report later recoveryAttempts := by
  have hreverse : history.reverse.map (·.fingerprint) = later.reverse.map (·.fingerprint) := by
    rw [List.map_reverse, List.map_reverse, h]
  simp only [assessProgressWithRecoveryAttempts, any_fingerprint,
    length_takeWhile_fingerprint, h, hreverse]

end CarlAgent.Task
