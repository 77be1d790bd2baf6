import CarlAgent.Access.Types
import CarlAgent.Foundation.Service

/-!
# Memory writes, settings and records

What a caller may ask the memory store to keep, under which limits, and the
checks on the texts.
-/

namespace CarlAgent.Memory

open Foundation CarlAgent.Task Storage Access

inductive BudgetResource where
  | memoryItems
  | memoryBytes
  | memoryProposals
  deriving DecidableEq, Repr

/-- What ends a memory call.  A time past the last one that can be represented
is a panic; the transaction is rolled back then too. -/
inductive MemoryError where
  | carl (error : CarlError)
  | budgetExceeded (resource : BudgetResource) (limit : Nat)
  | panic
  deriving DecidableEq, Repr

def validationError (detail : String) : MemoryError :=
  .carl (.validation detail)

def storedMemoryError (detail : String) : MemoryError :=
  .carl (.storage detail)

def maxMemoryContentBytes : Nat := 2 * 1024
def maxMemoryKeyBytes : Nat := 128
def maxMemoryProvenanceBytes : Nat := 512
def maxMemoryPartitionBytes : Nat := 128
def maxMemoryScopeKeyBytes : Nat := 4 * 1024
def defaultProposalTtlDays : Nat := 7

def validateText (label value : String) (maxBytes : Nat) : Except MemoryError Unit :=
  rejectIf (Text.isBlank value ∨ value.utf8ByteSize > maxBytes ∨
    value.toList.any fun c =>
      Text.isControl c && !(c == '\n' || c == '\r' || c == '\t'))
    (validationError (label ++ " is invalid or too large"))

def isIdentifierChar (c : Char) : Bool :=
  Text.isAsciiAlphanumeric c || c == '-' || c == '_' || c == '.' || c == ':' || c == '/'

def validateIdentifier (label value : String) (maxBytes : Nat) : Except MemoryError Unit := do
  validateText label value maxBytes
  rejectIf (¬ value.toList.all isIdentifierChar)
    (validationError (label ++ " contains unsupported characters"))

def validateScopeKey (value : String) : Except MemoryError Unit :=
  validateText "memory scope" value maxMemoryScopeKeyBytes

def injectionMarkers : List String :=
  ["ignore all previous instructions", "ignore previous instructions",
    "ignore system instructions", "ignore developer instructions",
    "reveal the system prompt", "show the system prompt", "bypass policy",
    "bypass safety", "disable safety", "grant yourself", "exfiltrate"]

def normalizedWords (content : List Char) : List Char :=
  let words := (content.splitOnP Text.isWhitespace).filter (!·.isEmpty)
  ([' '].intercalate words).map Text.toAsciiLowercase

def validateMemoryCaptureText (content : String) : Except MemoryError Unit :=
  rejectIf (injectionMarkers.any fun marker =>
    Text.containsSub marker.toList (normalizedWords content.toList))
    (validationError "memory capture was rejected by the prompt-injection safety filter")

structure MemoryPartition where
  ownerId : String
  agentId : String
  deriving DecidableEq, Repr

def MemoryPartition.new (ownerId agentId : String) : Except MemoryError MemoryPartition := do
  validateIdentifier "memory owner" ownerId maxMemoryPartitionBytes
  validateIdentifier "memory agent" agentId maxMemoryPartitionBytes
  .ok ⟨ownerId, agentId⟩

inductive MemoryScopeKind where
  | global
  | workspace
  | session
  deriving DecidableEq, Repr

structure MemoryScope where
  kind : MemoryScopeKind
  key : String
  deriving DecidableEq, Repr

def MemoryScope.isStorable (scope : MemoryScope) : Bool :=
  match scope.kind with
  | .global => scope.key == "*"
  | .workspace => !scope.key.isEmpty
  | .session => !scope.key.isEmpty

inductive MemoryKind where
  | profile
  | preference
  | fact
  | goal
  | episode
  deriving DecidableEq, Repr

structure MemorySettings where
  enabled : Bool
  maxContextItems : Nat
  contextBytes : Nat
  maxMemories : Nat
  maxStorageBytes : Nat
  episodeTtlDays : Nat
  deriving DecidableEq, Repr

def MemorySettings.default : MemorySettings where
  enabled := true
  maxContextItems := 8
  contextBytes := 8 * 1024
  maxMemories := 500
  maxStorageBytes := 1024 * 1024
  episodeTtlDays := 90

def isBetween (first last value : Nat) : Bool :=
  decide (first ≤ value) && decide (value ≤ last)

def MemorySettings.validate (settings : MemorySettings) : Except MemoryError Unit :=
  rejectIf (¬ isBetween 1 32 settings.maxContextItems ∨
    ¬ isBetween 256 (64 * 1024) settings.contextBytes ∨
    ¬ isBetween 1 5000 settings.maxMemories ∨
    ¬ isBetween 64 (64 * 1024 * 1024) settings.maxStorageBytes ∨
    ¬ isBetween 1 3650 settings.episodeTtlDays)
    (validationError "memory settings are outside supported bounds")

structure MemoryWrite where
  partition : MemoryPartition
  scope : MemoryScope
  kind : MemoryKind
  key : String
  content : String
  provenance : String
  importance : Nat
  expiresAt : Option Timestamp
  deriving DecidableEq

/-- `MemoryWrite::new`, which leaves the default importance and no expiry. -/
def MemoryWrite.new (partition : MemoryPartition) (scope : MemoryScope) (kind : MemoryKind)
    (key content provenance : String) : Except MemoryError MemoryWrite := do
  validateIdentifier "memory key" key maxMemoryKeyBytes
  validateText "memory content" content maxMemoryContentBytes
  validateText "memory provenance" provenance maxMemoryProvenanceBytes
  .ok { partition, scope, kind, key, content, provenance, importance := 50, expiresAt := none }

def MemoryWrite.withImportance (write : MemoryWrite) (importance : Nat) : MemoryWrite :=
  { write with importance := min importance 100 }

/-- A memory and, with its texts for times, a row of `memories`. -/
structure MemoryRecord where
  id : BitVec 128
  partition : MemoryPartition
  scope : MemoryScope
  kind : MemoryKind
  key : String
  content : String
  provenance : String
  importance : Nat
  revision : Nat
  createdAt : Timestamp
  updatedAt : Timestamp
  expiresAt : Option Timestamp
  deriving DecidableEq

inductive ProposalOrigin where
  | ownerInput
  | verifiedEpisode
  deriving DecidableEq, Repr

structure MemoryProposal where
  id : BitVec 128
  write : MemoryWrite
  origin : ProposalOrigin
  sourceSession : Option SessionId
  createdAt : Timestamp
  expiresAt : Timestamp
  deriving DecidableEq

def secretRuleName : Security.SecretRule → String
  | .privateKey => "PrivateKey"
  | .providerToken => "ProviderToken"
  | .credentialAssignment => "CredentialAssignment"
  | .connectionString => "ConnectionString"
  | .inputLimit => "InputLimit"

def inspectField (label content : String) : Except MemoryError Unit :=
  (Security.inspect content.toList).mapError fun rule =>
    validationError (label ++ " was rejected by secret filter rule " ++ secretRuleName rule)

def validateMemoryWrite (write : MemoryWrite) : Except MemoryError Unit := do
  inspectField "memory capture" write.content
  inspectField "memory provenance" write.provenance
  validateMemoryCaptureText write.content
  validateMemoryCaptureText write.provenance

/-!
## The memory store

Memories, their settings and the proposals that wait for approval.  Each call
is one transaction; after its commit the call truncates the write-ahead log,
which may fail.
-/

abbrev Memories := Table MemoryRecord.id
abbrev Proposals := Table MemoryProposal.id

structure MemoryDb where
  memories : Memories
  settings : MemoryPartition → Option MemorySettings
  proposals : Proposals

def MemoryDb.empty : MemoryDb := ⟨Table.empty, fun _ => none, Table.empty⟩

/-- The columns of the UNIQUE constraint. -/
def MemoryRecord.slot (memory : MemoryRecord) :
    MemoryPartition × MemoryScope × MemoryKind × String :=
  (memory.partition, memory.scope, memory.kind, memory.key)

def MemoryWrite.slot (write : MemoryWrite) : MemoryPartition × MemoryScope × MemoryKind × String :=
  (write.partition, write.scope, write.kind, write.key)

def MemoryRecord.bytes (memory : MemoryRecord) : Nat :=
  memory.content.utf8ByteSize

def measure (weight : MemoryRecord → Nat) (partition : MemoryPartition)
    (memories : Memories) : Nat :=
  (memories.rows.map fun row =>
    if row.partition = partition then weight row else 0).sum

def storedBytes (partition : MemoryPartition) (memories : Memories) : Nat :=
  measure MemoryRecord.bytes partition memories

def memoryCount (partition : MemoryPartition) (memories : Memories) : Nat :=
  measure (fun _ => 1) partition memories

/-- The parts of the runtime that the store relies on. -/
structure MemoryEnv where
  texts : TimestampText
  isSessionText : String → Bool
  latest : Timestamp

def nanosPerDay : Int := 24 * 60 * 60 * 1000000000

section Calls

variable (env : MemoryEnv)

def addDays (now : Timestamp) (days : Nat) : Except MemoryError Timestamp := do
  let later := now + days * nanosPerDay
  rejectIf (env.latest < later) .panic
  .ok later

def defaultExpiration (kind : MemoryKind) (requested : Option Timestamp) (settings : MemorySettings)
    (now : Timestamp) : Except MemoryError (Option Timestamp) :=
  match requested with
  | some expiresAt => .ok (some expiresAt)
  | none =>
    if kind = .episode then
      (addDays env now settings.episodeTtlDays).map some
    else .ok none

def loadMemorySettings (db : MemoryDb) (partition : MemoryPartition) :
    Except MemoryError MemorySettings :=
  match db.settings partition with
  | none => .ok .default
  | some settings => do
    settings.validate.mapError fun _ =>
      storedMemoryError "stored memory settings are invalid"
    .ok settings

variable (partition : MemoryPartition)

def updateMemorySettings (settings : MemorySettings) (db : MemoryDb) :
    Except MemoryError (MemoryDb × Unit) := do
  settings.validate
  .ok ({ db with settings := Function.update db.settings partition (some settings) }, ())

def isExpired (now : Timestamp) (row : MemoryRecord) : Bool :=
  row.partition == partition && row.expiresAt.any fun expiresAt => env.texts.le expiresAt now

/-- The columns that a write sets in a memory it replaces. -/
def MemoryRecord.rewrite (row : MemoryRecord) (write : MemoryWrite) (revision : Nat)
    (expiresAt : Option Timestamp) (now : Timestamp) : MemoryRecord :=
  { row with
    content := write.content, provenance := write.provenance, importance := write.importance,
    revision, updatedAt := now, expiresAt }

def replaceMemory (write : MemoryWrite) (expiresAt : Option Timestamp) (now : Timestamp)
    (existing : MemoryRecord) (memories : Memories) :
    Except MemoryError (Memories × MemoryRecord) := do
  let revision := existing.revision + 1
  rejectIf (revision > maxI64) (storedMemoryError "memory revision overflowed")
  rejectIf (write.importance > 100) (.carl (.sqlite (.check "importance")))
  let updated := memories.update existing.id (fun _ => true)
    (fun row => row.rewrite write revision expiresAt now) (fun _ => rfl)
  let createdAt ← (env.texts.parseTimestamp existing.createdAt).mapError .carl
  rejectIf (revision ≥ 2 ^ 32) (storedMemoryError "memory revision is invalid")
  .ok (updated.getD memories,
    { existing.rewrite write revision expiresAt now with
      createdAt := createdAt })

variable (id : BitVec 128)

def insertMemory (settings : MemorySettings)
    (write : MemoryWrite) (expiresAt : Option Timestamp) (now : Timestamp)
    (memories : Memories) : Except MemoryError (Memories × MemoryRecord) := do
  rejectIf (memoryCount write.partition memories ≥ settings.maxMemories)
    (.budgetExceeded .memoryItems settings.maxMemories)
  let record : MemoryRecord :=
    { id, partition := write.partition, scope := write.scope, kind := write.kind, key := write.key,
      content := write.content, provenance := write.provenance, importance := write.importance,
      revision := 1, createdAt := now, updatedAt := now, expiresAt }
  rejectIf (¬ write.scope.isStorable) (.carl (.sqlite (.check "scope_key")))
  rejectIf (write.importance > 100) (.carl (.sqlite (.check "importance")))
  rejectIf (write.slot ∈ memories.rows.map MemoryRecord.slot)
    (.carl (.sqlite (.unique "memories.memory_key")))
  let memories ← requireSome (memories.insert record) (.carl (.sqlite (.unique "memories.id")))
  .ok (memories, record)

/-- Put a write into the memories, which hold no expired one any more. -/
def storeMemory (settings : MemorySettings)
    (write : MemoryWrite) (expiresAt : Option Timestamp) (now : Timestamp)
    (memories : Memories) : Except MemoryError (Memories × MemoryRecord) := do
  let existing := memories.rows.find? fun row => row.slot = write.slot
  let totalBytes := storedBytes write.partition memories
  let retainedBytes := totalBytes - (existing.map MemoryRecord.bytes).getD 0
  let projectedBytes := retainedBytes + write.content.utf8ByteSize
  rejectIf (projectedBytes > maxI64) (storedMemoryError "memory storage accounting overflowed")
  rejectIf (projectedBytes > settings.maxStorageBytes)
    (.budgetExceeded .memoryBytes (min settings.maxStorageBytes (2 ^ 32 - 1)))
  match existing with
  | some row => replaceMemory env write expiresAt now row memories
  | none => insertMemory id settings write expiresAt now memories

def rememberMemoryInTransaction (write : MemoryWrite) (now : Timestamp)
    (db : MemoryDb) : Except MemoryError (MemoryDb × MemoryRecord) := do
  let settings ← loadMemorySettings db write.partition
  rejectIf (¬ settings.enabled) (.carl (.policy "memory capture is disabled"))
  let expiresAt ← defaultExpiration env write.kind write.expiresAt settings now
  rejectIf (∃ time ∈ expiresAt, time ≤ now)
    (validationError "memory expiration must be in the future")
  let kept := db.memories.deleteWhere (isExpired env write.partition now)
  let (memories, record) ← storeMemory env id settings write expiresAt now kept
  .ok ({ db with memories }, record)

/-- Run a transaction, then truncate the write-ahead log; what is committed
stays when the truncation fails. -/
def commit {α : Type} (truncation : Except CarlError Unit)
    (body : MemoryDb → Except MemoryError (MemoryDb × α)) (db : MemoryDb) :
    MemoryDb × Except MemoryError α :=
  match body db with
  | .error error => (db, .error error)
  | .ok (next, answer) =>
    (next, (truncation.mapError .carl).map fun _ => answer)

def rememberValidated (write : MemoryWrite) (now : Timestamp) (db : MemoryDb) :
    Except MemoryError (MemoryDb × MemoryRecord) := do
  validateMemoryWrite write
  rememberMemoryInTransaction env id write now db

def rememberMemory (write : MemoryWrite) (now : Timestamp)
    (truncation : Except CarlError Unit) (db : MemoryDb) :
    MemoryDb × Except MemoryError MemoryRecord :=
  commit truncation (rememberValidated env id write now) db

/-! ## Proposals -/

def maxPendingProposals : Nat := 50

def isExpiredProposal (now : Timestamp) (row : MemoryProposal) : Bool :=
  row.write.partition == partition && env.texts.le row.expiresAt now

def proposeMemoryInTransaction (write : MemoryWrite) (origin : ProposalOrigin)
    (sourceSession : Option SessionId) (now : Timestamp) (db : MemoryDb) :
    Except MemoryError (MemoryDb × MemoryProposal) := do
  validateMemoryWrite write
  rejectIf (origin = .verifiedEpisode ∧ write.kind ≠ .episode)
    (validationError "verified-event proposals must be episodic memories")
  let settings ← loadMemorySettings db write.partition
  rejectIf (¬ settings.enabled) (.carl (.policy "memory capture is disabled"))
  let kept := db.proposals.deleteWhere (isExpiredProposal env write.partition now)
  let pending := kept.rows.countP fun row =>
    row.write.partition == write.partition && env.texts.after row.expiresAt now
  rejectIf (pending ≥ maxPendingProposals) (.budgetExceeded .memoryProposals maxPendingProposals)
  let expiresAt ← addDays env now defaultProposalTtlDays
  let proposal : MemoryProposal := { id, write, origin, sourceSession, createdAt := now, expiresAt }
  rejectIf (¬ write.scope.isStorable) (.carl (.sqlite (.check "scope_key")))
  rejectIf (write.importance > 100) (.carl (.sqlite (.check "importance")))
  let proposals ← requireSome (kept.insert proposal)
    (.carl (.sqlite (.unique "memory_proposals.id")))
  .ok ({ db with proposals }, proposal)

/-- The log is truncated only when proposals were purged. -/
def proposeMemory (write : MemoryWrite) (origin : ProposalOrigin)
    (sourceSession : Option SessionId) (now : Timestamp) (truncation : Except CarlError Unit)
    (db : MemoryDb) : MemoryDb × Except MemoryError MemoryProposal :=
  let purged := db.proposals.rows.any (isExpiredProposal env write.partition now)
  commit (if purged then truncation else .ok ())
    (proposeMemoryInTransaction env id write origin sourceSession now) db

def MemoryScope.fromStored (scope : MemoryScope) : Except MemoryError MemoryScope :=
  match scope.kind with
  | .global =>
    if scope.key = "*" then .ok scope
    else .error (storedMemoryError "global memory scope is invalid")
  | .workspace => do
    validateScopeKey scope.key
    .ok scope
  | .session => do
    rejectIf (¬ env.isSessionText scope.key) (storedMemoryError "memory session scope is invalid")
    .ok scope

def readProposalWrite (row : MemoryWrite) : Except MemoryError MemoryWrite := do
  rejectIf (row.importance ≥ 256) (storedMemoryError "stored memory proposal importance is invalid")
  let partition ← MemoryPartition.new row.partition.ownerId row.partition.agentId
  let scope ← MemoryScope.fromStored env row.scope
  let write ← MemoryWrite.new partition scope row.kind row.key row.content row.provenance
  let expiresAt ← (env.texts.parseOptional row.expiresAt).mapError .carl
  .ok { write.withImportance row.importance with expiresAt }

def readProposal (row : MemoryProposal) : Except MemoryError MemoryProposal := do
  let write ← readProposalWrite env row.write
  let createdAt ← (env.texts.parseTimestamp row.createdAt).mapError .carl
  let expiresAt ← (env.texts.parseTimestamp row.expiresAt).mapError .carl
  .ok { row with write, createdAt, expiresAt }

def loadProposal (db : MemoryDb) : Except MemoryError MemoryProposal := do
  let row ← requireSome ((db.proposals.find? id).filter fun row => row.write.partition = partition)
    (validationError "memory proposal is unavailable")
  readProposal env row

def MemoryDb.removeProposal (db : MemoryDb) (id : BitVec 128) : MemoryDb :=
  { db with proposals := db.proposals.deleteWhere fun row => row.id = id }

def approveInTransaction (id fresh : BitVec 128) (write : MemoryWrite) (now : Timestamp)
    (db : MemoryDb) : Except MemoryError (MemoryDb × MemoryRecord) := do
  let (next, record) ← rememberValidated env fresh write now db
  .ok (next.removeProposal id, record)

/-- An expired proposal is deleted, and the deletion is committed, before the
call fails. -/
def approveMemoryProposal (id fresh : BitVec 128) (now : Timestamp)
    (truncation : Except CarlError Unit) (db : MemoryDb) :
    MemoryDb × Except MemoryError MemoryRecord :=
  match loadProposal env partition id db with
  | .error error => (db, .error error)
  | .ok proposal =>
    if proposal.expiresAt ≤ now then
      (db.removeProposal id, do
        truncation.mapError .carl
        .error (validationError "memory proposal has expired"))
    else
      commit truncation (approveInTransaction env id fresh proposal.write now) db

inductive MemoryCall where
  | updateSettings (partition : MemoryPartition) (settings : MemorySettings)
  | remember (id : BitVec 128) (write : MemoryWrite) (now : Timestamp)
    (truncation : Except CarlError Unit)
  | propose (id : BitVec 128) (write : MemoryWrite) (origin : ProposalOrigin)
    (sourceSession : Option SessionId) (now : Timestamp)
    (truncation : Except CarlError Unit)
  | approve (partition : MemoryPartition) (id fresh : BitVec 128)
    (now : Timestamp) (truncation : Except CarlError Unit)

inductive MemoryAnswer where
  | updated
  | remembered (record : MemoryRecord)
  | proposed (proposal : MemoryProposal)

def memoryStep (db : MemoryDb) : MemoryCall → MemoryDb × Except MemoryError MemoryAnswer
  | .updateSettings partition settings =>
    let result := transact (updateMemorySettings partition settings) db
    (result.1, result.2.map fun _ => .updated)
  | .remember id write now truncation =>
    let result := rememberMemory env id write now truncation db
    (result.1, result.2.map .remembered)
  | .propose id write origin sourceSession now truncation =>
    let result := proposeMemory env id write origin sourceSession now truncation db
    (result.1, result.2.map .proposed)
  | .approve partition id fresh now truncation =>
    let result := approveMemoryProposal env partition id fresh now truncation db
    (result.1, result.2.map .remembered)

def memoryService : Service MemoryDb MemoryCall (Except MemoryError MemoryAnswer) :=
  ⟨memoryStep env⟩

end Calls

def MemoryCall.partition : MemoryCall → MemoryPartition
  | .updateSettings partition _ => partition
  | .remember _ write _ _ => write.partition
  | .propose _ write _ _ _ _ => write.partition
  | .approve partition _ _ _ _ => partition

def MemoryCall.stores : MemoryCall → Bool
  | .remember _ _ _ _ => true
  | .approve _ _ _ _ _ => true
  | _ => false

/-- The log can be truncated after the call. -/
def MemoryCall.truncates : MemoryCall → Bool
  | .updateSettings _ _ => true
  | .remember _ _ _ truncation => truncation.toBool
  | .propose _ _ _ _ _ truncation => truncation.toBool
  | .approve _ _ _ _ truncation => truncation.toBool

end CarlAgent.Memory
