import CarlAgent.Engine.Clauses

/-!
# The agent port

What the engine hears from a provider: identifiers, items and usage, and the
normal form of what an item did.
-/

namespace CarlAgent.Engine

open Foundation CarlAgent.Task

structure AgentCapabilities where
  preDispatchEffects : Bool
  backgroundProcesses : Bool
  deriving DecidableEq, Repr

def maxAgentIdBytes : Nat := 128

def validateBoundedString (value : String) (maximumBytes : Nat) : Bool :=
  !value.isEmpty && decide (value.utf8ByteSize ≤ maximumBytes) && !value.toList.any (· == '\x00')

/-- The constructors check the text, so every identifier is bounded. -/
structure AgentContextId where
  asStr : String
  valid : validateBoundedString asStr maxAgentIdBytes = true
  deriving DecidableEq

inductive AgentItem where
  | command (itemId command cwd status : String) (exitCode : Option Int)
    (aggregatedOutput processId : Option String)
  | fileChange (itemId status : String) (changes : Json)
  | contextCompaction (itemId : String)
  | other (itemId itemType : String)

structure AgentProcess where
  processId : String
  itemId : String
  command : String
  cwd : String
  osPid : Option Nat
  deriving DecidableEq, Repr

inductive EffectDecision where
  | allow
  | deny
  deriving DecidableEq, Repr

structure AgentUsage where
  lastTotalTokens : Nat
  totalTokens : Nat
  modelContextWindow : Option Nat
  deriving DecidableEq, Repr

/-! ## Outcomes -/

def eqIgnoreAsciiCase (value terminal : String) : Bool :=
  value.toList.map Text.toAsciiLowercase == terminal.toList.map Text.toAsciiLowercase

def isSuccessStatus (status : String) : Bool :=
  ["completed", "success", "succeeded"].any (eqIgnoreAsciiCase status)

def endStatus (status : String) (succeeded : Bool) : OperationStatus :=
  if eqIgnoreAsciiCase status "cancelled" then .cancelled
  else if succeeded && isSuccessStatus status then .succeeded
  else .failed

def terminalStatus : AgentItem → OperationStatus
  | .command _ _ _ status exitCode _ _ =>
    endStatus status (decide (exitCode = some 0))
  | .fileChange _ status _ => endStatus status true
  | .contextCompaction _ | .other _ _ => .failed

def recoveryTerminalOutcome (status : String) : RecoveryAttemptOutcome :=
  if isSuccessStatus status then .succeeded else .failed

section

variable (sha256 : Sha256)

def textDigest (text : String) : String :=
  (sha256 (Text.utf8 text.toList)).text

def jsonDigest (json : Json) : String :=
  (sha256 (Text.utf8 json.render)).text

def normalizeOperationEvidence (item : AgentItem) (status : OperationStatus) :
    Except TaskEngineErrorCode NormalizedOperationEvidence :=
  match item with
  | .command _ _ _ _ exitCode _ _ =>
    .ok (.command (decide (status = .succeeded)) exitCode)
  | .fileChange _ _ changes =>
    .ok (.fileChange (decide (status = .succeeded)) [jsonDigest sha256 changes])
  | .contextCompaction _ | .other _ _ => .error .verification

end

def operationEvidenceFromEvent (operationId : OperationId) :
    NormalizedOperationEvidence → OperationEvidence
  | .command completed exitCode => .command operationId completed exitCode
  | .fileChange completed artifactDigests =>
    .fileChange operationId completed artifactDigests

def maxChangedPaths : Nat := 256
def maxChangedPathBytes : Nat := 4 * 1024

def changedPath : Json → Option String
  | .obj fields =>
    match fields.find? fun field => field.1 == "path" with
    | some (_, .str path) => some path
    | _ => none
  | _ => none

def withChangedPath (path : String) : Json → Json
  | .obj fields => .obj (fields.map fun field =>
    if field.1 == "path" then (field.1, .str path) else field)
  | json => json

def isRelativePath (path : String) : Bool :=
  !path.isEmpty && decide (path.utf8ByteSize ≤ maxChangedPathBytes) &&
    !path.toList.any (fun c => c == '\\' || c == '\x00' || c == ':') &&
    !Text.hasControl path &&
    !(path.toList.splitOn '/').any fun component =>
      component.isEmpty || component == ['.'] || component == ['.', '.']

def changesOf : AgentItem → Except TaskEngineErrorCode (List Json)
  | .fileChange _ _ (.arr changes) => do
    rejectIf (changes = [] ∨ changes.length > maxChangedPaths) .verification
    .ok changes
  | _ => .error .verification

def validatedFileChangePaths (item : AgentItem) :
    Except TaskEngineErrorCode (List String) := do
  let changes ← changesOf item
  let paths ← changes.mapM fun change => do
    let path ← requireSome (changedPath change) .verification
    rejectIf (¬ isRelativePath path) .verification
    (Security.inspect path.toList).mapError fun _ => .verification
    .ok path
  let distinct := sortDedup id paths
  rejectIf (distinct.length ≠ changes.length) .verification
  .ok distinct

end CarlAgent.Engine
