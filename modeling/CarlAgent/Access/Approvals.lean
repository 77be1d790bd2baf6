import CarlAgent.Access.Types
import CarlAgent.Foundation.Service

/-!
# Bound approvals and remote codes

An approval is bound to one request and may be consumed once, directly or with
a remote code.  A transaction is one step.  Resolving an approval is not a
transaction: it reads the approval in one step and writes the resolution in
another, and any calls may come in between.
-/

namespace CarlAgent.Access

open Foundation CarlAgent.Task Storage TimestampText Service

structure ApprovalId where
  uuid : BitVec 128
  deriving DecidableEq

structure TurnId where
  uuid : BitVec 128
  deriving DecidableEq

structure ToolCallId where
  uuid : BitVec 128
  deriving DecidableEq

inductive ApprovalStatus where
  | pending
  | allowed
  | denied
  | expired
  deriving DecidableEq, Repr

def maxBoundApprovalLifetime : Int := 15 * 60 * 1000000000

def isBoundLifetime (createdAt expiresAt : Timestamp) : Bool :=
  decide (0 < expiresAt - createdAt) && decide (expiresAt - createdAt ≤ maxBoundApprovalLifetime)

structure BoundApprovalBinding where
  sessionId : SessionId
  turnId : TurnId
  toolCallId : ToolCallId
  actorId : ActorId
  requestDigest : Sha256Digest
  createdAt : Timestamp
  expiresAt : Timestamp
  lifetime : isBoundLifetime createdAt expiresAt = true
  deriving DecidableEq

structure BoundApprovalRecord where
  id : ApprovalId
  binding : BoundApprovalBinding
  summary : String
  status : ApprovalStatus
  resolvedAt : Option Timestamp
  consumedAt : Option Timestamp
  deriving DecidableEq

structure ConsumedApproval where
  id : ApprovalId
  requestDigest : Sha256Digest
  consumedAt : Timestamp
  deriving DecidableEq

inductive RemoteCodeKind where
  | approval
  | bypassConfirmation
  deriving DecidableEq, Repr

structure NewRemoteCode where
  displayCode : String
  kind : RemoteCodeKind
  externalSessionId : ExternalSessionId
  approvalId : Option ApprovalId
  providerRequestId : Option ProviderRequestId
  requestDigest : Sha256Digest
  actorId : ActorId
  createdAt : Timestamp
  expiresAt : Timestamp
  deriving DecidableEq

structure RemoteCodeClaim where
  displayCode : String
  kind : RemoteCodeKind
  externalSessionId : ExternalSessionId
  approvalId : Option ApprovalId
  providerRequestId : Option ProviderRequestId
  requestDigest : Sha256Digest
  actorId : ActorId
  now : Timestamp
  deriving DecidableEq

structure RemoteCodeRecord where
  codeDigest : Sha256Digest
  kind : RemoteCodeKind
  externalSessionId : ExternalSessionId
  approvalId : Option ApprovalId
  providerRequestId : Option ProviderRequestId
  requestDigest : Sha256Digest
  actorId : ActorId
  createdAt : Timestamp
  expiresAt : Timestamp
  consumedAt : Option Timestamp
  deriving DecidableEq

abbrev Approvals := Table BoundApprovalRecord.id
abbrev RemoteCodes := Table RemoteCodeRecord.codeDigest

structure ApprovalDb where
  approvals : Approvals
  codes : RemoteCodes

section Calls

variable (sha256 : Sha256) (texts : TimestampText)

def boundRecordFromRaw (row : BoundApprovalRecord) : Except CarlError BoundApprovalRecord := do
  let _ ← texts.parseTimestamp row.binding.createdAt
  let _ ← texts.parseTimestamp row.binding.expiresAt
  let resolvedAt ← texts.parseOptional row.resolvedAt
  let consumedAt ← texts.parseOptional row.consumedAt
  .ok { row with resolvedAt, consumedAt }

variable (approvals : Approvals) (id : ApprovalId)

def getBoundApproval : Except CarlError (Option BoundApprovalRecord) :=
  match approvals.find? id with
  | none => .ok none
  | some row => (boundRecordFromRaw texts row).map some

def loadBoundApproval : Except CarlError BoundApprovalRecord := do
  let row ← requireSome (approvals.find? id) (.policy "bound approval is unavailable")
  boundRecordFromRaw texts row

def readRemoteCode (row : RemoteCodeRecord) : Except CarlError RemoteCodeRecord := do
  let createdAt ← texts.parseTimestamp row.createdAt
  let expiresAt ← texts.parseTimestamp row.expiresAt
  let consumedAt ← texts.parseOptional row.consumedAt
  .ok { row with createdAt, expiresAt, consumedAt }

def getRemoteCode (codes : RemoteCodes) (codeDigest : Sha256Digest) :
    Except CarlError (Option RemoteCodeRecord) :=
  match codes.find? codeDigest with
  | none => .ok none
  | some row => (readRemoteCode texts row).map some

def remoteCodeDomain : String := "carl.remote-code.v1\x00"

def remoteCodeDigest (displayCode : String) : Sha256Digest :=
  sha256 (Text.utf8 remoteCodeDomain.toList ++ Text.utf8 displayCode.toList)

def maxApprovalSummaryBytes : Nat := 4 * 1024

def createBoundApproval (sessions : SessionId → Bool) (id : ApprovalId)
    (binding : BoundApprovalBinding) (summary : String) (db : ApprovalDb) :
    Except CarlError (ApprovalDb × BoundApprovalRecord) := do
  rejectIf (Text.isBlank summary ∨ summary.utf8ByteSize > maxApprovalSummaryBytes)
    (.validation "bound approval summary is invalid")
  let record : BoundApprovalRecord :=
    { id, binding, summary, status := .pending, resolvedAt := none, consumedAt := none }
  let approvals ← requireSome (db.approvals.insert record) (.sqlite (.unique "bound_approvals.id"))
  rejectIf (¬ sessions binding.sessionId) (.sqlite .foreignKey)
  .ok ({ db with approvals }, record)

/-- A resolution that has read its approval and not written it yet. -/
structure Resolution where
  id : ApprovalId
  status : ApprovalStatus
  resolvedAt : Timestamp
  deriving DecidableEq

/-- The checks of `resolve_bound_approval` on the approval it reads. -/
def beginResolution (resolution : Resolution) (db : ApprovalDb) : Except CarlError Resolution := do
  rejectIf (resolution.status = .pending)
    (.validation "a bound approval must resolve to a terminal status")
  let existing ← getBoundApproval texts db.approvals resolution.id
  let existing ← requireSome existing (.policy "bound approval is unavailable")
  rejectIf (resolution.resolvedAt < existing.binding.createdAt ∨
    resolution.resolvedAt ≥ existing.binding.expiresAt ∧ resolution.status ≠ .expired)
    (.policy "bound approval resolution is outside its lifetime")
  .ok resolution

def resolveApproval (resolution : Resolution) : Option Approvals :=
  approvals.update resolution.id (fun row => row.status == .pending && row.consumedAt.isNone)
    (fun row => { row with status := resolution.status, resolvedAt := some resolution.resolvedAt })
    (fun _ => rfl)

def finishResolution (resolution : Resolution) (db : ApprovalDb) :
    ApprovalDb × Except CarlError BoundApprovalRecord :=
  match resolveApproval db.approvals resolution with
  | none => (db, .error (.policy "bound approval is unavailable"))
  | some approvals =>
    ({ db with approvals }, do
      let record ← getBoundApproval texts approvals resolution.id
      requireSome record (.storage "bound approval disappeared after resolution"))

/-! ## Consuming approvals -/

def expireApproval (now : Timestamp) : Approvals :=
  (approvals.update id (fun row => row.consumedAt.isNone)
    (fun row => { row with status := .expired, resolvedAt := row.resolvedAt.or (some now) })
    (fun _ => rfl)).getD approvals

def markConsumed (now : Timestamp) : Option Approvals :=
  approvals.update id (fun row => row.status == .allowed && row.consumedAt.isNone &&
      texts.after row.binding.expiresAt now)
    (fun row => { row with consumedAt := some now })
    (fun _ => rfl)

def matchBoundApproval (binding : BoundApprovalBinding)
    (db : ApprovalDb) : Except CarlError BoundApprovalRecord := do
  let record ← loadBoundApproval texts db.approvals id
  rejectIf (record.binding ≠ binding ∨ record.status ≠ .allowed ∨
    record.consumedAt.isSome) (.policy "bound approval does not match the request")
  .ok record

def consumeBoundApproval (binding : BoundApprovalBinding) (now : Timestamp)
    (db : ApprovalDb) : ApprovalDb × Except CarlError ConsumedApproval :=
  match matchBoundApproval texts id binding db with
  | .error error => (db, .error error)
  | .ok record =>
    if now ≥ record.binding.expiresAt then
      ({ db with approvals := expireApproval db.approvals id now },
        .error (.policy "bound approval has expired"))
    else
      match markConsumed texts db.approvals id now with
      | none => (db, .error (.policy "bound approval is unavailable"))
      | some approvals =>
        ({ db with approvals }, .ok ⟨id, binding.requestDigest, now⟩)

def isDisplayCode (displayCode : String) : Bool :=
  displayCode.utf8ByteSize == 10 && displayCode.toList.all Text.isLowercaseHex

def validateRemoteDisplayCode (displayCode : String) : Except CarlError Unit :=
  rejectIf (¬ isDisplayCode displayCode) (.validation "remote display code is invalid")

def isRemoteCodeShape (approvalId : Option ApprovalId)
    (providerRequestId : Option ProviderRequestId) : RemoteCodeKind → Bool
  | .approval => approvalId.isSome && providerRequestId.isSome
  | .bypassConfirmation => approvalId.isNone && providerRequestId.isNone

def validateRemoteCodeShape (kind : RemoteCodeKind) (approvalId : Option ApprovalId)
    (providerRequestId : Option ProviderRequestId) : Except CarlError Unit :=
  rejectIf (¬ isRemoteCodeShape approvalId providerRequestId kind)
    (.validation "remote code binding is invalid")

def createRemoteCode (frontendSessions : ExternalSessionId → Bool) (input : NewRemoteCode)
    (db : ApprovalDb) : Except CarlError (ApprovalDb × RemoteCodeRecord) := do
  validateRemoteDisplayCode input.displayCode
  validateRemoteCodeShape input.kind input.approvalId input.providerRequestId
  rejectIf (¬ isBoundLifetime input.createdAt input.expiresAt)
    (.validation "remote code lifetime is invalid")
  let record : RemoteCodeRecord :=
    { codeDigest := remoteCodeDigest sha256 input.displayCode, kind := input.kind,
      externalSessionId := input.externalSessionId, approvalId := input.approvalId,
      providerRequestId := input.providerRequestId, requestDigest := input.requestDigest,
      actorId := input.actorId, createdAt := input.createdAt, expiresAt := input.expiresAt,
      consumedAt := none }
  let codes ← requireSome (db.codes.insert record) (.sqlite (.unique "remote_codes.code_digest"))
  rejectIf (¬ frontendSessions input.externalSessionId ∨
    ∃ id ∈ input.approvalId, (db.approvals.find? id).isNone) (.sqlite .foreignKey)
  .ok ({ db with codes }, record)

variable (claim : RemoteCodeClaim)

def matchRemoteCode (db : ApprovalDb) :
    Except CarlError RemoteCodeRecord := do
  let existing ← getRemoteCode texts db.codes (remoteCodeDigest sha256 claim.displayCode)
  let existing ← requireSome existing (.policy "remote code is unavailable")
  rejectIf (existing.kind ≠ claim.kind ∨
    existing.externalSessionId ≠ claim.externalSessionId ∨
    existing.approvalId ≠ claim.approvalId ∨
    existing.providerRequestId ≠ claim.providerRequestId ∨
    existing.requestDigest ≠ claim.requestDigest ∨
    existing.actorId ≠ claim.actorId ∨ existing.consumedAt.isSome ∨
    claim.now ≥ existing.expiresAt) (.policy "remote code does not match the request")
  .ok existing

def markCodeConsumed (codes : RemoteCodes) (codeDigest : Sha256Digest)
    (now : Timestamp) : Option RemoteCodes :=
  codes.update codeDigest (fun row => row.consumedAt.isNone && texts.after row.expiresAt now)
    (fun row => { row with consumedAt := some now })
    (fun _ => rfl)

def consumeRemoteCodeInTransaction
    (db : ApprovalDb) : Except CarlError ApprovalDb := do
  validateRemoteDisplayCode claim.displayCode
  validateRemoteCodeShape claim.kind claim.approvalId claim.providerRequestId
  let _ ← matchRemoteCode sha256 texts claim db
  let codes ← requireSome
    (markCodeConsumed texts db.codes (remoteCodeDigest sha256 claim.displayCode) claim.now)
    (.policy "remote code is unavailable")
  .ok { db with codes }

def consumeRemoteCode (db : ApprovalDb) :
    ApprovalDb × Except CarlError RemoteCodeRecord :=
  match consumeRemoteCodeInTransaction sha256 texts claim db with
  | .error error => (db, .error error)
  | .ok next =>
    (next, do
      let record ← getRemoteCode texts next.codes (remoteCodeDigest sha256 claim.displayCode)
      requireSome record (.storage "consumed remote code disappeared"))

def resolveAndConsume
    (status : ApprovalStatus) (now : Timestamp) : Option Approvals :=
  approvals.update id (fun row => row.status == .pending && row.consumedAt.isNone &&
      texts.after row.binding.expiresAt now)
    (fun row => { row with
      status := status
      resolvedAt := some now
      consumedAt := if status = .allowed then some now else none })
    (fun _ => rfl)

def consumeRemoteBoundApproval
    (binding : BoundApprovalBinding) (status : ApprovalStatus)
    (db : ApprovalDb) : Except CarlError (ApprovalDb × RemoteCodeRecord) := do
  validateRemoteDisplayCode claim.displayCode
  validateRemoteCodeShape claim.kind claim.approvalId claim.providerRequestId
  rejectIf (claim.kind ≠ .approval ∨
    ¬ (status = .allowed ∨ status = .denied) ∨
    claim.requestDigest ≠ binding.requestDigest ∨
    claim.actorId ≠ binding.actorId ∨ claim.now ≥ binding.expiresAt)
    (.policy "remote approval claim is invalid")
  let approvalId ← requireSome claim.approvalId (.policy "remote approval has no bound approval")
  let existing ← matchRemoteCode sha256 texts claim db
  let approval ← loadBoundApproval texts db.approvals approvalId
  rejectIf (approval.binding ≠ binding ∨ approval.status ≠ .pending ∨
    approval.consumedAt.isSome ∨ claim.now ≥ approval.binding.expiresAt)
    (.policy "bound approval does not match the request")
  let codes ← requireSome
    (markCodeConsumed texts db.codes (remoteCodeDigest sha256 claim.displayCode) claim.now)
    (.policy "remote approval is unavailable")
  let approvals ← requireSome (resolveAndConsume texts db.approvals approvalId status claim.now)
    (.policy "remote approval is unavailable")
  .ok (⟨approvals, codes⟩, { existing with consumedAt := some claim.now })

end Calls

/-! ## Interleavings -/

/-- The tables, and the resolutions of all callers that are between their read
and their write. -/
structure ApprovalWorld where
  db : ApprovalDb
  resolving : List Resolution

def ApprovalWorld.empty : ApprovalWorld := ⟨⟨Table.empty, Table.empty⟩, []⟩

inductive ApprovalCall where
  | createBoundApproval (sessions : SessionId → Bool) (id : ApprovalId)
    (binding : BoundApprovalBinding) (summary : String)
  | beginResolution (resolution : Resolution)
  | finishResolution (index : Nat)
  | consumeBoundApproval (id : ApprovalId) (binding : BoundApprovalBinding) (now : Timestamp)
  | createRemoteCode (frontendSessions : ExternalSessionId → Bool) (input : NewRemoteCode)
  | consumeRemoteCode (claim : RemoteCodeClaim)
  | consumeRemoteBoundApproval (claim : RemoteCodeClaim)
    (binding : BoundApprovalBinding) (status : ApprovalStatus)

inductive ApprovalAnswer where
  | idle
  | begun (answer : Except CarlError Resolution)
  | approval (answer : Except CarlError BoundApprovalRecord)
  | code (answer : Except CarlError RemoteCodeRecord)
  | consumed (answer : Except CarlError ConsumedApproval)

def approvalStep (sha256 : Sha256) (texts : TimestampText)
    (world : ApprovalWorld) : ApprovalCall → ApprovalWorld × ApprovalAnswer
  | .createBoundApproval sessions id binding summary =>
    let result := transact (createBoundApproval sessions id binding summary) world.db
    ({ world with db := result.1 }, .approval result.2)
  | .beginResolution resolution =>
    match beginResolution texts resolution world.db with
    | .error error => (world, .begun (.error error))
    | .ok begun =>
      ({ world with resolving := world.resolving ++ [begun] }, .begun (.ok begun))
  | .finishResolution index =>
    match world.resolving[index]? with
    | none => (world, .idle)
    | some resolution =>
      let result := finishResolution texts resolution world.db
      (⟨result.1, world.resolving.eraseIdx index⟩, .approval result.2)
  | .consumeBoundApproval id binding now =>
    let result := consumeBoundApproval texts id binding now world.db
    ({ world with db := result.1 }, .consumed result.2)
  | .createRemoteCode frontendSessions input =>
    let result := transact (createRemoteCode sha256 frontendSessions input) world.db
    ({ world with db := result.1 }, .code result.2)
  | .consumeRemoteCode claim =>
    let result := consumeRemoteCode sha256 texts claim world.db
    ({ world with db := result.1 }, .code result.2)
  | .consumeRemoteBoundApproval claim binding status =>
    let result := transact (consumeRemoteBoundApproval sha256 texts claim binding status) world.db
    ({ world with db := result.1 }, .code result.2)

def approvalService (sha256 : Sha256) (texts : TimestampText) :
    Service ApprovalWorld ApprovalCall ApprovalAnswer :=
  ⟨approvalStep sha256 texts⟩

/-- The approval that an entry consumes, with the binding it presents and the
time of the call. -/
def consumption (entry : Service.Entry ApprovalWorld ApprovalCall ApprovalAnswer) :
    Option (ApprovalId × BoundApprovalBinding × Timestamp) :=
  match entry.call, entry.answer with
  | .consumeBoundApproval id binding now, .consumed (.ok _) =>
    some (id, binding, now)
  | .consumeRemoteBoundApproval claim binding .allowed, .code (.ok _) =>
    claim.approvalId.map fun id => (id, binding, claim.now)
  | _, _ => none

variable {sha256 : Sha256} {texts : TimestampText}
  {db : ApprovalDb} {world : ApprovalWorld}

variable {record : BoundApprovalRecord}

variable {status : ApprovalStatus} {claim : RemoteCodeClaim}
  {resolution : Resolution} {now : Timestamp}

theorem boundRecordFromRaw_eq_ok {row : BoundApprovalRecord}
    (h : boundRecordFromRaw texts row = .ok record) : record = row := by
  simp only [boundRecordFromRaw, ok_iff] at h
  obtain ⟨_, _, _, _, resolvedAt, hresolved, consumedAt, hconsumed, rfl⟩ := h
  rw [parseOptional_eq_ok hresolved, parseOptional_eq_ok hconsumed]

variable {id : ApprovalId} {approvals : Approvals}

theorem getBoundApproval_eq_ok_some (h : getBoundApproval texts approvals id = .ok (some record)) :
    approvals.find? id = some record := by
  rw [getBoundApproval] at h
  cases hrow : approvals.find? id with
  | none => simp [hrow] at h
  | some row =>
    simp only [hrow, map_eq_ok_iff, Option.some.injEq] at h
    obtain ⟨read, hread, rfl⟩ := h
    rw [boundRecordFromRaw_eq_ok hread]

theorem loadBoundApproval_eq_ok
    (h : loadBoundApproval texts approvals id = .ok record) : approvals.find? id = some record := by
  simp only [loadBoundApproval, ok_iff] at h
  obtain ⟨row, hrow, hread⟩ := h
  rw [hrow, boundRecordFromRaw_eq_ok hread]

theorem matchRemoteCode_eq_ok {record : RemoteCodeRecord}
    (h : matchRemoteCode sha256 texts claim db = .ok record) :
    db.codes.find? (remoteCodeDigest sha256 claim.displayCode) = some record ∧
      record.consumedAt = none := by
  simp only [matchRemoteCode, ok_iff, not_or, Bool.not_eq_true, Option.isSome_eq_false_iff,
    Option.isNone_iff_eq_none] at h
  obtain ⟨existing, hget, found, rfl, hmatch, rfl⟩ := h
  rw [getRemoteCode] at hget
  cases hrow : db.codes.find? (remoteCodeDigest sha256 claim.displayCode) with
  | none => simp [hrow] at hget
  | some row =>
    simp only [hrow, map_eq_ok_iff, Option.some.injEq, readRemoteCode, ok_iff,
      parseTimestamp_eq_ok] at hget
    obtain ⟨_, ⟨_, ⟨-, rfl⟩, _, ⟨-, rfl⟩, _, hconsumed, rfl⟩, rfl⟩ := hget
    have hsame := parseOptional_eq_ok hconsumed
    subst hsame
    exact ⟨rfl, hmatch.2.2.2.2.2.2.1⟩

/-! ## What a step does to the approvals -/

/-- An approval that is allowed was resolved before its expiry. -/
def BoundApprovalRecord.Lawful (record : BoundApprovalRecord) : Prop :=
  record.status = .allowed → ∃ resolvedAt,
    record.resolvedAt = some resolvedAt ∧ resolvedAt < record.binding.expiresAt

def Resolution.Checked (approvals : Approvals) (resolution : Resolution) : Prop :=
  ∃ row, approvals.find? resolution.id = some row ∧
    (resolution.status ≠ .expired → resolution.resolvedAt < row.binding.expiresAt)

structure ApprovalWorld.Sound (world : ApprovalWorld) : Prop where
  lawful : ∀ id row, world.db.approvals.find? id = some row → row.Lawful
  checked : ∀ resolution ∈ world.resolving, resolution.Checked world.db.approvals

/-- One approval, not consumed before, is rewritten and keeps its binding. -/
structure Rewrites (approvals next : Approvals) (id : ApprovalId)
    (row later : BoundApprovalRecord) : Prop where
  found : approvals.find? id = some row
  unused : row.consumedAt = none
  binding : later.binding = row.binding
  lawful : later.Lawful
  rest : ∀ other, next.find? other =
    if other = id then some later else approvals.find? other

inductive ApprovalsChange (approvals next : Approvals) :
    Option (ApprovalId × BoundApprovalBinding × Timestamp) → Prop
  | same (h : next = approvals) : ApprovalsChange approvals next none
  | created {record : BoundApprovalRecord} (hinsert : approvals.insert record = some next)
    (hpending : record.status = .pending)
    (hunused : record.consumedAt = none) :
    ApprovalsChange approvals next none
  | rewritten {id : ApprovalId} {row later : BoundApprovalRecord}
    (h : Rewrites approvals next id row later)
    (hunused : later.consumedAt = none) : ApprovalsChange approvals next none
  | consumed {id : ApprovalId} {row later : BoundApprovalRecord}
    {now : Timestamp} (h : Rewrites approvals next id row later)
    (hallowed : later.status = .allowed)
    (hlive : now < row.binding.expiresAt)
    (hused : later.consumedAt = some now) :
    ApprovalsChange approvals next (some (id, row.binding, now))

theorem rewrites_of_update {approvals next : Approvals}
    {row : BoundApprovalRecord} {guard : BoundApprovalRecord → Bool}
    {f : BoundApprovalRecord → BoundApprovalRecord} {hf : ∀ row, (f row).id = row.id}
    (hupdate : approvals.update id guard f hf = some next) (hrow : approvals.find? id = some row)
    (hunused : row.consumedAt = none) (hbinding : (f row).binding = row.binding)
    (hlawful : (f row).Lawful) : Rewrites approvals next id row (f row) := by
  refine ⟨hrow, hunused, hbinding, hlawful, ?_⟩
  intro other
  rw [Table.find?_update hupdate, hrow]
  rfl

section Change

variable {approvals next : Approvals} {id : ApprovalId}
  {row later : BoundApprovalRecord}
  {used : Option (ApprovalId × BoundApprovalBinding × Timestamp)}

theorem Rewrites.keeps (h : Rewrites approvals next id row later) {other : ApprovalId}
    {old : BoundApprovalRecord} (hold : approvals.find? other = some old) :
    ∃ kept, next.find? other = some kept ∧ kept.binding = old.binding ∧
      (old.consumedAt ≠ none → kept = old) := by
  rw [h.rest]
  split
  · rename_i heq
    rw [heq, h.found] at hold
    cases hold
    exact ⟨later, rfl, h.binding, fun hused => absurd h.unused hused⟩
  · exact ⟨old, hold, rfl, fun _ => rfl⟩

theorem Rewrites.lawful_all (h : Rewrites approvals next id row later)
    (hlawful : ∀ id row, approvals.find? id = some row → row.Lawful) {other : ApprovalId}
    {kept : BoundApprovalRecord} (hkept : next.find? other = some kept) : kept.Lawful := by
  rw [h.rest] at hkept
  split at hkept
  · cases hkept
    exact h.lawful
  · exact hlawful other kept hkept

theorem ApprovalsChange.keeps (h : ApprovalsChange approvals next used)
    (hrow : approvals.find? id = some row) :
    ∃ later, next.find? id = some later ∧ later.binding = row.binding ∧
      (row.consumedAt ≠ none → later = row) := by
  cases h with
  | same h => exact ⟨row, by rw [h, hrow], rfl, fun _ => rfl⟩
  | created hinsert _ _ =>
    exact ⟨row, Table.find?_insert_of_some hinsert hrow, rfl, fun _ => rfl⟩
  | rewritten h _ | consumed h _ _ _ => exact h.keeps hrow

theorem ApprovalsChange.lawful (h : ApprovalsChange approvals next used)
    (hlawful : ∀ id row, approvals.find? id = some row → row.Lawful)
    (hlater : next.find? id = some later) : later.Lawful := by
  cases h with
  | same h =>
    rw [h] at hlater
    exact hlawful id later hlater
  | created hinsert hpending _ =>
    rw [Table.find?_insert hinsert] at hlater
    split at hlater
    · cases hlater
      intro hallowed
      rw [hpending] at hallowed
      cases hallowed
    · exact hlawful id later hlater
  | rewritten h _ | consumed h _ _ _ => exact h.lawful_all hlawful hlater

theorem ApprovalsChange.used_of_consumedAt (h : ApprovalsChange approvals next used)
    (hlater : next.find? id = some later) (hused : later.consumedAt ≠ none)
    (hrow : ∀ row, approvals.find? id = some row → row.consumedAt = none) :
    ∃ binding now, used = some (id, binding, now) := by
  cases h with
  | same h =>
    rw [h] at hlater
    exact absurd (hrow later hlater) hused
  | created hinsert _ hunused =>
    rw [Table.find?_insert hinsert] at hlater
    split at hlater
    · cases hlater
      exact absurd hunused hused
    · exact absurd (hrow later hlater) hused
  | rewritten h hunused =>
    rw [h.rest] at hlater
    split at hlater
    · cases hlater
      exact absurd hunused hused
    · exact absurd (hrow later hlater) hused
  | consumed h _ _ _ =>
    rw [h.rest] at hlater
    split at hlater
    · rename_i heq
      rw [heq]
      exact ⟨_, _, rfl⟩
    · exact absurd (hrow later hlater) hused

theorem Resolution.Checked.change (h : resolution.Checked approvals)
    (hchange : ApprovalsChange approvals next used) : resolution.Checked next := by
  obtain ⟨row, hrow, htime⟩ := h
  obtain ⟨later, hlater, hbinding, -⟩ := hchange.keeps hrow
  exact ⟨later, hlater, by rwa [hbinding]⟩

end Change

theorem beginResolution_eq_ok {begun : Resolution}
    (h : beginResolution texts resolution db = .ok begun) : begun.Checked db.approvals := by
  simp only [beginResolution, ok_iff, not_or, not_and, not_not] at h
  obtain ⟨_, existing, hget, record, rfl, ⟨-, htime⟩, rfl⟩ := h
  refine ⟨record, getBoundApproval_eq_ok_some hget, ?_⟩
  intro hstatus
  by_contra hlate
  exact hstatus (htime (not_lt.mp hlate))

theorem finishResolution_change (hchecked : resolution.Checked db.approvals) :
    ApprovalsChange db.approvals (finishResolution texts resolution db).1.approvals none := by
  rw [finishResolution]
  cases hresolve : resolveApproval db.approvals resolution with
  | none => exact .same rfl
  | some approvals =>
    obtain ⟨row, hrow, hguard⟩ := (Table.update_eq_some.mp hresolve).1
    simp only [Bool.and_eq_true, Option.isNone_iff_eq_none] at hguard
    refine .rewritten (rewrites_of_update hresolve hrow hguard.2 rfl ?_) hguard.2
    intro hallowed
    obtain ⟨checked, hfound, htime⟩ := hchecked
    rw [hrow] at hfound
    cases hfound
    refine ⟨resolution.resolvedAt, rfl, htime ?_⟩
    intro hexpired
    rw [hexpired] at hallowed
    cases hallowed

theorem expireApproval_change :
    ApprovalsChange approvals (expireApproval approvals id now) none := by
  rw [expireApproval]
  cases hupdate : approvals.update id (fun row => row.consumedAt.isNone)
      (fun row => { row with status := .expired, resolvedAt := row.resolvedAt.or (some now) })
      (fun _ => rfl) with
  | none => exact .same rfl
  | some expired =>
    obtain ⟨row, hrow, hguard⟩ := (Table.update_eq_some.mp hupdate).1
    have hunused := Option.isNone_iff_eq_none.mp hguard
    refine .rewritten (rewrites_of_update hupdate hrow hunused rfl ?_) hunused
    intro hallowed
    cases hallowed

theorem consumeBoundApproval_change (hsound : world.Sound) (id : ApprovalId)
    (binding : BoundApprovalBinding) (now : Timestamp) : ApprovalsChange world.db.approvals
      (consumeBoundApproval texts id binding now world.db).1.approvals
      (match (consumeBoundApproval texts id binding now world.db).2 with
        | .ok _ => some (id, binding, now)
        | .error _ => none) := by
  rw [consumeBoundApproval]
  cases hmatch : matchBoundApproval texts id binding world.db with
  | error error => exact .same rfl
  | ok record =>
    simp only [matchBoundApproval, ok_iff, not_or, ne_eq, not_not, Bool.not_eq_true,
      Option.isSome_eq_false_iff, Option.isNone_iff_eq_none] at hmatch
    obtain ⟨found, hload, ⟨rfl, hstatus, hunused⟩, rfl⟩ := hmatch
    have hrow := loadBoundApproval_eq_ok hload
    simp only
    split
    · exact expireApproval_change
    · rename_i hlive
      cases hmark : markConsumed texts world.db.approvals id now with
      | none => exact .same rfl
      | some approvals =>
        exact .consumed (rewrites_of_update hmark hrow hunused rfl (hsound.lawful id found hrow))
          hstatus (not_le.mp hlive) rfl

theorem consumeRemoteCode_approvals (claim : RemoteCodeClaim) :
    (consumeRemoteCode sha256 texts claim db).1.approvals = db.approvals := by
  rw [consumeRemoteCode]
  cases h : consumeRemoteCodeInTransaction sha256 texts claim db with
  | error error => rfl
  | ok next =>
    simp only [consumeRemoteCodeInTransaction, ok_iff] at h
    obtain ⟨_, _, _, _, _, _, codes, _, rfl⟩ := h
    rfl

/-- What `consume_remote_bound_approval` has done when it returns a code. -/
structure RemoteUse (sha256 : Sha256)
    (claim : RemoteCodeClaim) (binding : BoundApprovalBinding)
    (status : ApprovalStatus) (db next : ApprovalDb) (id : ApprovalId)
    (code : RemoteCodeRecord) (approval : BoundApprovalRecord) : Prop where
  named : claim.approvalId = some id
  verdict : status = .allowed ∨ status = .denied
  bound : approval.binding = binding
  live : claim.now < binding.expiresAt
  code_found : db.codes.find? (remoteCodeDigest sha256 claim.displayCode) = some code
  code_unused : code.consumedAt = none
  approval_found : db.approvals.find? id = some approval
  approval_pending : approval.status = .pending
  approval_unused : approval.consumedAt = none
  codes : ∀ digest, next.codes.find? digest =
    if digest = remoteCodeDigest sha256 claim.displayCode then
      some { code with consumedAt := some claim.now }
    else db.codes.find? digest
  approvals : ∀ other, next.approvals.find? other =
    if other = id then
      some { approval with
        status := status
        resolvedAt := some claim.now
        consumedAt := if status = .allowed then some claim.now else none }
    else db.approvals.find? other

theorem consumeRemoteBoundApproval_eq_ok {binding : BoundApprovalBinding} {next : ApprovalDb}
    {record : RemoteCodeRecord}
    (h : consumeRemoteBoundApproval sha256 texts claim binding status db = .ok (next, record)) :
    ∃ id code approval, RemoteUse sha256 claim binding status db next id code approval := by
  simp only [consumeRemoteBoundApproval, ok_iff, not_or, not_not, ne_eq, not_le, ge_iff_le,
    Bool.not_eq_true, Option.isSome_eq_false_iff, Option.isNone_iff_eq_none, Prod.mk.injEq] at h
  obtain ⟨_, _, _, _, ⟨-, hverdict, -, -, hlive⟩, id, hid, code, hmatch, approval, hload, ⟨hbinding,
    hpending, hunused, -⟩, codes, hcodes, approvals, happrovals, rfl, -⟩ := h
  obtain ⟨hcode, hfresh⟩ := matchRemoteCode_eq_ok hmatch
  have hfound := loadBoundApproval_eq_ok hload
  refine ⟨id, code, approval, hid, by tauto, hbinding, hlive, hcode, hfresh,
    hfound, hpending, hunused, ?_, ?_⟩
  · intro digest
    rw [Table.find?_update hcodes, hcode]
    rfl
  · intro other
    rw [Table.find?_update happrovals, hfound]
    rfl

theorem RemoteUse.change {binding : BoundApprovalBinding} {next : ApprovalDb}
    {code : RemoteCodeRecord} {approval : BoundApprovalRecord}
    (h : RemoteUse sha256 claim binding status db next id code approval) :
    ApprovalsChange db.approvals next.approvals
      (if status = .allowed then some (id, binding, claim.now) else none) := by
  have hbound := h.bound
  subst hbound
  have hrewrites : Rewrites db.approvals next.approvals id approval
      { approval with
        status := status
        resolvedAt := some claim.now
        consumedAt := if status = .allowed then some claim.now else none } :=
    ⟨h.approval_found, h.approval_unused, rfl, fun _ => ⟨claim.now, rfl, h.live⟩, h.approvals⟩
  by_cases hallowed : status = .allowed
  · rw [if_pos hallowed]
    exact .consumed hrewrites hallowed h.live (if_pos hallowed)
  · rw [if_neg hallowed]
    exact .rewritten hrewrites (if_neg hallowed)

theorem approvalStep_change (hsound : world.Sound) (call : ApprovalCall) :
    ApprovalsChange world.db.approvals (approvalStep sha256 texts world call).1.db.approvals
      (consumption ((approvalService sha256 texts).serve world call)) := by
  cases call with
  | createBoundApproval sessions id binding summary =>
    obtain ⟨next, answer, hbody, hresult⟩ | ⟨error, _, hresult⟩ :=
      transact_cases (createBoundApproval sessions id binding summary) world.db
    · simp only [createBoundApproval, ok_iff, Prod.mk.injEq] at hbody
      obtain ⟨_, approvals, hinsert, _, rfl, _⟩ := hbody
      simp only [consumption, approvalStep, hresult, serve]
      exact .created hinsert rfl rfl
    · simp only [consumption, approvalStep, hresult, serve]
      exact .same rfl
  | beginResolution resolution =>
    have hsame : (approvalStep sha256 texts world
        (.beginResolution resolution)).1.db = world.db := by
      simp only [approvalStep]
      split <;> rfl
    exact .same (congrArg ApprovalDb.approvals hsame)
  | finishResolution index =>
    cases hindex : world.resolving[index]? with
    | none =>
      simp only [approvalStep, hindex]
      exact .same rfl
    | some resolution =>
      simp only [approvalStep, hindex]
      exact finishResolution_change (hsound.checked resolution (List.mem_of_getElem? hindex))
  | consumeBoundApproval id binding now =>
    have hchange := @consumeBoundApproval_change texts world hsound id binding now
    simp only [consumption, approvalStep, serve, approvalService]
    revert hchange
    cases (consumeBoundApproval texts id binding now world.db).2 with
    | ok answer | error error => intro hchange; exact hchange
  | createRemoteCode frontendSessions input =>
    obtain ⟨next, answer, hbody, hresult⟩ | ⟨error, _, hresult⟩ :=
      transact_cases (createRemoteCode sha256 frontendSessions input) world.db
    · simp only [createRemoteCode, ok_iff, Prod.mk.injEq] at hbody
      obtain ⟨_, _, _, _, _, codes, _, _, rfl, _⟩ := hbody
      simp only [consumption, approvalStep, hresult, serve]
      exact .same rfl
    · simp only [consumption, approvalStep, hresult, serve]
      exact .same rfl
  | consumeRemoteCode claim =>
    simp only [consumption, approvalStep, serve]
    exact .same (consumeRemoteCode_approvals claim)
  | consumeRemoteBoundApproval claim binding status =>
    obtain ⟨next, answer, hbody, hresult⟩ | ⟨error, _, hresult⟩ := transact_cases
        (consumeRemoteBoundApproval sha256 texts claim binding status)
        world.db
    · obtain ⟨id, code, approval, huse⟩ := consumeRemoteBoundApproval_eq_ok hbody
      have hchange := huse.change
      cases status <;>
        simpa only [consumption, approvalStep, hresult, serve, approvalService, huse.named,
          Option.map_some, reduceCtorEq, if_true, if_false] using hchange
    · simp only [consumption, approvalStep, hresult, serve, approvalService]
      exact .same rfl

theorem approvalStep_resolving (call : ApprovalCall) :
    ∀ resolution ∈ (approvalStep sha256 texts world call).1.resolving,
      resolution ∈ world.resolving ∨ resolution.Checked world.db.approvals := by
  intro resolution hmem
  cases call with
  | beginResolution asked =>
    cases hbegin : beginResolution texts asked world.db with
    | error error =>
      simp only [approvalStep, hbegin] at hmem
      exact .inl hmem
    | ok begun =>
      simp only [approvalStep, hbegin, List.mem_append, List.mem_singleton] at hmem
      cases hmem with
      | inl hmem => exact .inl hmem
      | inr heq =>
        rw [heq]
        exact .inr (beginResolution_eq_ok hbegin)
  | finishResolution index =>
    cases hindex : world.resolving[index]? with
    | none =>
      simp only [approvalStep, hindex] at hmem
      exact .inl hmem
    | some finished =>
      simp only [approvalStep, hindex] at hmem
      exact .inl (List.mem_of_mem_eraseIdx hmem)
  | createBoundApproval _ _ _ _ | consumeBoundApproval _ _ _ | createRemoteCode _ _
  | consumeRemoteCode _ | consumeRemoteBoundApproval _ _ _ => exact .inl hmem

theorem ApprovalWorld.sound_empty : ApprovalWorld.empty.Sound where
  lawful := by
    intro id row hrow
    cases hrow
  checked := by
    intro resolution hmem
    cases hmem

theorem ApprovalWorld.Sound.step (hsound : world.Sound)
    (call : ApprovalCall) : (approvalStep sha256 texts world call).1.Sound where
  lawful := fun _ _ hrow =>
    (approvalStep_change hsound call).lawful hsound.lawful hrow
  checked := by
    intro resolution hmem
    have hbefore : resolution.Checked world.db.approvals :=
      (approvalStep_resolving call resolution hmem).elim (hsound.checked resolution) (fun h => h)
    exact hbefore.change (approvalStep_change hsound call)

theorem approvalService_sound (calls : List ApprovalCall) :
    ((approvalService sha256 texts).run .empty calls).Sound :=
  run_invariant (P := ApprovalWorld.Sound)
    (fun _ call hsound => hsound.step call) ApprovalWorld.sound_empty

/-! ## Consumption -/

def ApprovalWorld.Consumed (id : ApprovalId) (world : ApprovalWorld) : Prop :=
  ∃ row, world.db.approvals.find? id = some row ∧ row.consumedAt ≠ none

def consumes (id : ApprovalId)
    (entry : Service.Entry ApprovalWorld ApprovalCall ApprovalAnswer) : Bool :=
  (consumption entry).any fun used => used.1 == id

theorem consumes_eq_true {entry : Service.Entry ApprovalWorld ApprovalCall ApprovalAnswer} :
    consumes id entry = true ↔ ∃ binding now, consumption entry = some (id, binding, now) := by
  simp only [consumes, Option.any_eq_true, Prod.exists, beq_iff_eq]
  constructor
  · rintro ⟨used, binding, now, hused, rfl⟩
    exact ⟨binding, now, hused⟩
  · rintro ⟨binding, now, hused⟩
    exact ⟨id, binding, now, hused, rfl⟩

/-- The approval that a step consumes was open and in its lifetime, with the
binding that the caller presents; it is allowed and consumed afterwards. -/
structure Consumes (before after : Approvals) (id : ApprovalId)
    (binding : BoundApprovalBinding) (now : Timestamp) : Prop where
  stored : ∃ row, before.find? id = some row ∧ row.binding = binding ∧ row.consumedAt = none
  live : now < binding.expiresAt
  left : ∃ row resolvedAt, after.find? id = some row ∧
    row.binding = binding ∧ row.status = .allowed ∧
    row.resolvedAt = some resolvedAt ∧ resolvedAt < binding.expiresAt ∧
    row.consumedAt = some now

theorem ApprovalsChange.consumes {approvals next : Approvals} {binding : BoundApprovalBinding}
    (h : ApprovalsChange approvals next (some (id, binding, now))) :
    Consumes approvals next id binding now := by
  cases h with
  | @consumed _ row later _ h hallowed hlive hused =>
    obtain ⟨resolvedAt, hresolved, htime⟩ := h.lawful hallowed
    refine ⟨⟨row, h.found, rfl, h.unused⟩, hlive, later, resolvedAt, ?_,
      h.binding, hallowed, hresolved, ?_, hused⟩
    · rw [h.rest, if_pos rfl]
    · rw [← h.binding]
      exact htime

theorem countP_consumes_le_one (id : ApprovalId) (calls : List ApprovalCall) :
    ((approvalService sha256 texts).log .empty calls).countP (consumes id) ≤ 1 := by
  refine countP_log_le_one (P := ApprovalWorld.Sound) (U := ApprovalWorld.Consumed id)
    (fun _ call hsound => hsound.step call) ?_ ?_ ?_ ApprovalWorld.sound_empty
  · intro world call hsound hconsumes
    obtain ⟨binding, now, hused⟩ := consumes_eq_true.mp hconsumes
    have hchange := @approvalStep_change sha256 texts world hsound call
    rw [hused] at hchange
    obtain ⟨row, _, hrow, _, _, _, _, hconsumed⟩ := hchange.consumes.left
    exact ⟨row, hrow, by rw [hconsumed]; exact Option.some_ne_none now⟩
  · intro world call hsound ⟨row, hrow, hconsumed⟩
    obtain ⟨later, hlater, _, hsame⟩ := (approvalStep_change hsound call).keeps hrow
    rw [hsame hconsumed] at hlater
    exact ⟨row, hlater, hconsumed⟩
  · intro world call hsound ⟨row, hrow, hconsumed⟩
    by_contra hconsumes
    rw [Bool.not_eq_false] at hconsumes
    obtain ⟨binding, now, hused⟩ := consumes_eq_true.mp hconsumes
    have hchange := @approvalStep_change sha256 texts world hsound call
    rw [hused] at hchange
    obtain ⟨unused, hstored, _, hunused⟩ := hchange.consumes.stored
    rw [hrow] at hstored
    cases hstored
    exact hconsumed hunused

/-- In every interleaving an approval is consumed at most once, by either
path, allowed and in its lifetime, for the stored binding. -/
theorem approval_consumed_once (sha256 : Sha256) (texts : TimestampText)
    (calls : List ApprovalCall) :
    let log := (approvalService sha256 texts).log .empty calls
    (∀ id, log.countP (consumes id) ≤ 1) ∧ ∀ entry ∈ log,
        (∀ id binding now, consumption entry = some (id, binding, now) →
          Consumes entry.before.db.approvals entry.after.db.approvals id binding now) ∧
        (∀ id, entry.after.Consumed id → ¬ entry.before.Consumed id →
          consumes id entry = true) ∧
        ∀ claim binding status, entry.call = .consumeRemoteBoundApproval claim binding status →
          (entry.after = entry.before ∧
              ∃ error, entry.answer = .code (.error error)) ∨
            (∃ record, entry.answer = .code (.ok record)) ∧
              ∃ id code approval, RemoteUse sha256 claim binding status
                entry.before.db entry.after.db id code approval := by
  refine ⟨fun id => countP_consumes_le_one id calls, ?_⟩
  intro entry hentry
  obtain ⟨before, call, _, _, rfl⟩ := mem_log.mp hentry
  have hsound := @approvalService_sound sha256 texts before
  have hchange := @approvalStep_change sha256 texts _ hsound call
  refine ⟨?_, ?_, ?_⟩
  · intro id binding now hused
    rw [hused] at hchange
    exact hchange.consumes
  · rintro id ⟨later, hlater, hconsumed⟩ hbefore
    refine consumes_eq_true.mpr (hchange.used_of_consumedAt hlater hconsumed ?_)
    intro row hrow
    by_contra hrowused
    exact hbefore ⟨row, hrow, hrowused⟩
  · rintro claim binding status rfl
    obtain ⟨next, record, hbody, hresult⟩ | ⟨error, _, hresult⟩ := transact_cases
        (consumeRemoteBoundApproval sha256 texts claim binding status)
        ((approvalService sha256 texts).run .empty before).db
    · simp only [serve, approvalService, approvalStep] at hresult ⊢
      rw [hresult]
      exact .inr ⟨⟨record, rfl⟩, consumeRemoteBoundApproval_eq_ok hbody⟩
    · simp only [serve, approvalService, approvalStep] at hresult ⊢
      rw [hresult]
      exact .inl ⟨rfl, error, rfl⟩

namespace Contested

def binding : BoundApprovalBinding where
  sessionId := ⟨1⟩
  turnId := ⟨2⟩
  toolCallId := ⟨3⟩
  actorId := ⟨"owner", by decide⟩
  requestDigest := ⟨4⟩
  createdAt := 0
  expiresAt := 100
  lifetime := by decide

/-- Both resolutions read the approval before either writes it; the first
write stands. -/
def calls : List ApprovalCall :=
  [.createBoundApproval (fun _ => true) ⟨5⟩ binding "run the tests",
    .beginResolution ⟨⟨5⟩, .allowed, 10⟩, .beginResolution ⟨⟨5⟩, .denied, 11⟩,
    .finishResolution 0, .finishResolution 0,
    .consumeBoundApproval ⟨5⟩ binding 20, .consumeBoundApproval ⟨5⟩ binding 21]

end Contested

open Contested

theorem contested_approval_consumed_once :
    ∃ entry ∈ (approvalService (fun _ => ⟨0⟩) plain).log .empty calls,
      consumption entry = some (⟨5⟩, binding, 20) ∧
      Consumes entry.before.db.approvals entry.after.db.approvals ⟨5⟩ binding 20 := by
  have hmem : (approvalService (fun _ => ⟨0⟩) plain).serve
      ((approvalService (fun _ => ⟨0⟩) plain).run .empty (calls.take 5))
      (.consumeBoundApproval ⟨5⟩ binding 20) ∈
      (approvalService (fun _ => ⟨0⟩) plain).log .empty
        calls :=
    mem_log.mpr ⟨_, _, calls.drop 6, rfl, rfl⟩
  refine ⟨_, hmem, by decide +kernel, ?_⟩
  exact ((approval_consumed_once (fun _ => ⟨0⟩) plain calls).2 _ hmem).1 _ _ _ (by decide +kernel)

end CarlAgent.Access
