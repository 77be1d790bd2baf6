import CarlAgent.Task.Canonical

/-!
# Context packages

The rendered context that is stored with a canonical checkpoint, and the check
of its ledger: the included sources, in order, are exactly the rendered bytes.
-/

namespace CarlAgent.Task

open Foundation

inductive ContextSourceKind where
  | runtimeInstructions
  | ownerInstructions
  | projectInstructions
  | completionContract
  | checkpoint
  | recentTail
  | retrievedEvidence
  | epochObjective
  | untrustedContent
  deriving DecidableEq, Repr

def ContextSourceKind.asStr : ContextSourceKind → String
  | runtimeInstructions => "runtime_instructions"
  | ownerInstructions => "owner_instructions"
  | projectInstructions => "project_instructions"
  | completionContract => "completion_contract"
  | checkpoint => "checkpoint"
  | recentTail => "recent_tail"
  | retrievedEvidence => "retrieved_evidence"
  | epochObjective => "epoch_objective"
  | untrustedContent => "untrusted_content"

structure ContextLedgerEntry where
  kind : ContextSourceKind
  byteCount : Nat
  tokenCount : Nat
  actualTokens : Bool
  digest : String
  included : Bool
  omissionReason : Option String
  deriving DecidableEq, Repr

structure ContextPackage where
  schemaVersion : Nat
  packageId : ContextPackageId
  checkpointId : CheckpointId
  rendered : String
  ledger : List ContextLedgerEntry
  sourceSequenceStart : Nat
  sourceSequenceEnd : Nat
  deriving DecidableEq, Repr

inductive ContextError where
  | invalidSource
  | mandatorySourcesExceedBudget
  | arithmeticOverflow
  | secretRejected
  deriving DecidableEq, Repr

def ContextLedgerEntry.toJson (entry : ContextLedgerEntry) : Json :=
  .obj [ ("kind", .str entry.kind.asStr), ("byte_count", .nat entry.byteCount),
    ("token_count", .nat entry.tokenCount),
    ("actual_tokens", .bool entry.actualTokens), ("digest", .str entry.digest),
    ("included", .bool entry.included), ("omission_reason", .option .str entry.omissionReason)]

def ContextPackage.toJson (package : ContextPackage) : Json :=
  .obj [ ("schema_version", .nat package.schemaVersion), ("package_id", package.packageId.toJson),
    ("checkpoint_id", package.checkpointId.toJson), ("rendered", .str package.rendered),
    ("ledger", .list ContextLedgerEntry.toJson package.ledger),
    ("source_sequence_start", .nat package.sourceSequenceStart),
    ("source_sequence_end", .nat package.sourceSequenceEnd)]

def contextPackageSchemaVersion : Nat := 1
def maxContextSourceBytes : Nat := 8 * 1024 * 1024
def maxContextPackageBytes : Nat := 8 * 1024 * 1024
def maxContextLedgerEntries : Nat := 4096
def maxOmissionReasonBytes : Nat := 256

def maxU64 : Nat := 2 ^ 64 - 1

def validateSource (source : String) : Except ContextError Unit := do
  rejectIf (source.utf8ByteSize > maxContextSourceBytes ∨
    source.toList.any isForbiddenControl) .invalidSource
  (Security.inspect source.toList).mapError fun _ => .secretRejected

def validateContextDigest (value : String) : Except ContextError Unit :=
  rejectIf (¬ Text.isLowercaseSha256 value) .invalidSource

def addTokens (total : Nat) (entry : ContextLedgerEntry) : Except ContextError Nat := do
  rejectIf (total + entry.tokenCount > maxU64) .arithmeticOverflow
  .ok (total + entry.tokenCount)

def ContextPackage.totalTokens (package : ContextPackage) : Except ContextError Nat :=
  (package.ledger.filter (·.included)).foldlM addTokens 0

def isOmissionReason (reason : String) : Bool :=
  !reason.isEmpty && decide (reason.utf8ByteSize ≤ maxOmissionReasonBytes) &&
    !Text.hasControl reason

section

variable (sha256 : Sha256)

/-- One turn of the loop over the ledger, with the rendered bytes so far. -/
def validateLedgerEntry (rendered : List UInt8) (renderedOffset : Nat)
    (entry : ContextLedgerEntry) : Except ContextError Nat := do
  validateContextDigest entry.digest
  rejectIf (entry.included = entry.omissionReason.isSome) .invalidSource
  rejectIf (∃ reason ∈ entry.omissionReason, ¬ isOmissionReason reason) .invalidSource
  rejectIf (¬ entry.actualTokens ∧ entry.tokenCount ≠ entry.byteCount) .invalidSource
  if entry.included then
    let last := renderedOffset + entry.byteCount
    rejectIf (last > maxU64) .arithmeticOverflow
    rejectIf (last > rendered.length) .invalidSource
    let source := (rendered.drop renderedOffset).take entry.byteCount
    rejectIf ((sha256 source).text ≠ entry.digest) .invalidSource
    .ok last
  else
    .ok renderedOffset

def ContextPackage.validate (package : ContextPackage) : Except ContextError Unit := do
  rejectIf (package.schemaVersion ≠ contextPackageSchemaVersion ∨
    package.rendered.isEmpty ∨ package.sourceSequenceStart = 0 ∨
    package.sourceSequenceEnd < package.sourceSequenceStart) .invalidSource
  validateSource package.rendered
  rejectIf (package.ledger.length > maxContextLedgerEntries) .invalidSource
  let rendered := Text.utf8 package.rendered.toList
  let renderedOffset ← package.ledger.foldlM (validateLedgerEntry sha256 rendered) 0
  rejectIf (renderedOffset ≠ rendered.length) .invalidSource
  let _ ← package.totalTokens
  .ok ()

def ContextPackage.canonicalBytes (package : ContextPackage) :
    Except ContextError (List UInt8) := do
  rejectIf (package.rendered.utf8ByteSize ≥ maxContextPackageBytes ∨
    package.ledger.length > maxContextLedgerEntries) .invalidSource
  let text := package.toJson.render
  rejectIf (Text.byteLen text > maxContextPackageBytes) .invalidSource
  package.validate sha256
  .ok (Text.utf8 text)

def ContextPackage.digest (package : ContextPackage) : Except ContextError String := do
  let bytes ← package.canonicalBytes sha256
  .ok (sha256 bytes).text

end

end CarlAgent.Task
