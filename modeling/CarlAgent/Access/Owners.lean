import CarlAgent.Access.Types
import CarlAgent.Foundation.Service

/-!
# Trusted frontend owners

A workspace of a frontend has one trusted owner, who may be replaced.  A
message of the owner is admitted once, under its external event identifier;
recovering it later answers from the stored event and does not look at who the
owner is by then.
-/

namespace CarlAgent.Access

open Foundation CarlAgent.Task Storage Service TimestampText

structure OwnerRow where
  frontend : Frontend
  workspaceDigest : Sha256Digest
  actorId : ActorId
  channelId : Option ChannelId
  permissionMode : PermissionMode
  createdAt : Timestamp
  updatedAt : Timestamp
  deriving DecidableEq

abbrev OwnerKey := Frontend × Sha256Digest

def OwnerRow.key (row : OwnerRow) : OwnerKey :=
  (row.frontend, row.workspaceDigest)

structure TrustedEventRow where
  eventId : String
  frontend : Frontend
  workspaceDigest : Sha256Digest
  actorId : ActorId
  channelId : ChannelId
  admittedAt : Timestamp
  deriving DecidableEq

def TrustedEventRow.ownerKey (row : TrustedEventRow) : OwnerKey :=
  (row.frontend, row.workspaceDigest)

structure OwnerDb where
  owners : Table OwnerRow.key
  events : Table TrustedEventRow.eventId

def OwnerDb.empty : OwnerDb := ⟨Table.empty, Table.empty⟩

inductive DirectoryProbe where
  | unavailable
  | found (canonical : PathBuf) (isDir : Bool)
  deriving DecidableEq

def maxFrontendCwdBytes : Nat := 32 * 1024

def validateCanonicalFrontendCwd (probe : DirectoryProbe) : PathBuf → Except CarlError String
  | .nonUtf8 =>
    .error (.validation "frontend working directory is not UTF-8")
  | .utf8 encoded => do
    rejectIf (encoded.toList.head? ≠ some '/' ∨ encoded.isEmpty ∨
      encoded.utf8ByteSize > maxFrontendCwdBytes ∨ '\x00' ∈ encoded.toList)
      (.validation "frontend working directory is invalid")
    match probe with
    | .unavailable =>
      .error (.validation "frontend working directory is unavailable")
    | .found canonical isDir =>
      rejectIf (canonical ≠ .utf8 encoded ∨ ¬ isDir)
        (.validation "frontend working directory is not canonical")
      .ok encoded

def workspaceDomain : String := "carl.trusted-frontend-workspace.v1\x00"

def frontendWorkspaceDigest (sha256 : Sha256) (workspace : String) : Sha256Digest :=
  sha256 (Text.utf8 workspaceDomain.toList ++ Text.utf8 workspace.toList)

structure TrustedFrontendOwnerInput where
  frontend : Frontend
  actorId : ActorId
  workspace : PathBuf
  permissionMode : PermissionMode
  trustedAt : Timestamp
  deriving DecidableEq

structure TrustedFrontendOwnerRecord where
  frontend : Frontend
  actorId : ActorId
  channelId : Option ChannelId
  workspaceDigest : Sha256Digest
  permissionMode : PermissionMode
  createdAt : Timestamp
  updatedAt : Timestamp
  deriving DecidableEq

def asWireStr : PermissionMode → String
  | .plan => "plan"
  | .default => "default"
  | .acceptEdits => "acceptEdits"
  | .dontAsk => "dontAsk"
  | .fullAccess => "fullAccess"
  | .bypassPermissions => "bypassPermissions"

def storedPermissionMode : PermissionMode → PermissionMode
  | .fullAccess => .bypassPermissions
  | mode => mode

def readOwner (texts : TimestampText) (row : OwnerRow) :
    Except CarlError TrustedFrontendOwnerRecord := do
  rejectIf (row.permissionMode.profile ≠ .fullAccess)
    (.storage ("invalid stored trusted frontend permission mode \"" ++
      asWireStr row.permissionMode ++ "\""))
  let createdAt ← texts.parseTimestamp row.createdAt
  let updatedAt ← texts.parseTimestamp row.updatedAt
  .ok
    { frontend := row.frontend, actorId := row.actorId, channelId := row.channelId,
      workspaceDigest := row.workspaceDigest, permissionMode := .fullAccess, createdAt, updatedAt }

def getTrustedFrontendOwner (texts : TimestampText) (db : OwnerDb)
    (key : OwnerKey) : Except CarlError (Option TrustedFrontendOwnerRecord) :=
  match db.owners.find? key with
  | none => .ok none
  | some row => (readOwner texts row).map some

def requireOwner (texts : TimestampText) (db : OwnerDb) (key : OwnerKey)
    (detail : String) : Except CarlError TrustedFrontendOwnerRecord := do
  let owner ← getTrustedFrontendOwner texts db key
  requireSome owner (.storage detail)

/-- `INSERT … ON CONFLICT DO UPDATE`: the new owner, with no channel yet. -/
def upsertOwner (owners : Table OwnerRow.key) (input : TrustedFrontendOwnerInput)
    (workspaceDigest : Sha256Digest) : Table OwnerRow.key :=
  match owners.update (input.frontend, workspaceDigest) (fun _ => true)
      (fun row => { row with
        actorId := input.actorId, channelId := none,
        permissionMode := storedPermissionMode input.permissionMode, createdAt := input.trustedAt,
        updatedAt := input.trustedAt })
      (fun _ => rfl) with
  | some updated => updated
  | none =>
    (owners.insert
      { frontend := input.frontend, workspaceDigest, actorId := input.actorId, channelId := none,
        permissionMode := storedPermissionMode input.permissionMode, createdAt := input.trustedAt,
        updatedAt := input.trustedAt }).getD owners

section Calls

variable (sha256 : Sha256) (texts : TimestampText)

def validateTrust (input : TrustedFrontendOwnerInput)
    (probe : DirectoryProbe) : Except CarlError Sha256Digest := do
  rejectIf (input.frontend ≠ .buzz ∨ input.permissionMode.profile ≠ .fullAccess)
    (.policy "trusted frontend owner binding is invalid")
  let workspace ← validateCanonicalFrontendCwd probe input.workspace
  .ok (frontendWorkspaceDigest sha256 workspace)

def trustFrontendOwner (input : TrustedFrontendOwnerInput) (probe : DirectoryProbe) (db : OwnerDb) :
    OwnerDb × Except CarlError TrustedFrontendOwnerRecord :=
  match validateTrust sha256 input probe with
  | .error error => (db, .error error)
  | .ok workspaceDigest =>
    let key := (input.frontend, workspaceDigest)
    match getTrustedFrontendOwner texts db key with
    | .error error => (db, .error error)
    | .ok existing =>
      match existing.filter fun owner =>
          owner.actorId == input.actorId &&
            owner.permissionMode.profile == .fullAccess with
      | some owner => (db, .ok owner)
      | none =>
        let next := { db with owners := upsertOwner db.owners input workspaceDigest }
        (next, requireOwner texts next key "trusted frontend owner disappeared")

/-! ## Admission -/

structure Admission where
  frontend : Frontend
  actorId : ActorId
  channelId : ChannelId
  workspace : PathBuf
  probe : DirectoryProbe
  eventId : String
  admittedAt : Timestamp
  deriving DecidableEq

def fillChannel (owners : Table OwnerRow.key) (row : OwnerRow)
    (admission : Admission) : Except CarlError (Table OwnerRow.key) :=
  if row.channelId.isNone then
    requireSome (owners.update row.key (fun row => row.actorId == admission.actorId &&
          row.channelId.isNone && texts.le row.updatedAt admission.admittedAt)
        (fun row => { row with
          channelId := some admission.channelId,
          updatedAt := admission.admittedAt }) (fun _ => rfl))
      (.policy "trusted frontend channel fill was not applied")
  else .ok owners

variable (admission : Admission)

def admitInTransaction (workspaceDigest : Sha256Digest) (db : OwnerDb) :
    Except CarlError OwnerDb := do
  let row ← requireSome (db.owners.find? (admission.frontend, workspaceDigest))
    (.policy "trusted frontend owner is unavailable")
  rejectIf (row.actorId ≠ admission.actorId ∨ ∃ bound ∈ row.channelId, bound ≠ admission.channelId)
    (.policy "trusted frontend owner does not match")
  let owners ← fillChannel texts db.owners row admission
  let events ← requireSome (db.events.insert
    { eventId := admission.eventId, frontend := admission.frontend, workspaceDigest,
      actorId := admission.actorId, channelId := admission.channelId,
      admittedAt := admission.admittedAt })
    (.policy "trusted frontend event is unavailable")
  .ok ⟨owners, events⟩

def validateAdmission : Except CarlError Sha256Digest := do
  rejectIf (¬ Text.isLowercaseSha256 admission.eventId)
    (.policy "trusted frontend event is invalid")
  let workspace ← validateCanonicalFrontendCwd admission.probe admission.workspace
  .ok (frontendWorkspaceDigest sha256 workspace)

def admitTrustedFrontendMessage (db : OwnerDb) :
    OwnerDb × Except CarlError TrustedFrontendOwnerRecord :=
  match validateAdmission sha256 admission with
  | .error error => (db, .error error)
  | .ok workspaceDigest =>
    match admitInTransaction texts admission workspaceDigest db with
    | .error error => (db, .error error)
    | .ok next =>
      (next, requireOwner texts next (admission.frontend, workspaceDigest)
        "admitted trusted frontend owner disappeared")

def TrustedEventRow.isFor (row : TrustedEventRow) (admission : Admission)
    (workspaceDigest : Sha256Digest) : Bool :=
  row.frontend == admission.frontend &&
    row.workspaceDigest == workspaceDigest &&
    row.actorId == admission.actorId && row.channelId == admission.channelId

def recoverOrAdmitTrustedFrontendMessage
    (db : OwnerDb) : OwnerDb × Except CarlError TrustedFrontendOwnerRecord :=
  match validateCanonicalFrontendCwd admission.probe admission.workspace with
  | .error error => (db, .error error)
  | .ok workspace =>
    let workspaceDigest := frontendWorkspaceDigest sha256 workspace
    match db.events.find? admission.eventId with
    | some row =>
      if row.isFor admission workspaceDigest then
        (db, requireOwner texts db (admission.frontend, workspaceDigest)
          "trusted frontend event lost its owner")
      else
        (db, .error (.policy "trusted frontend event binding is invalid"))
    | none => admitTrustedFrontendMessage sha256 texts admission db

end Calls

inductive OwnerCall where
  | trust (input : TrustedFrontendOwnerInput) (probe : DirectoryProbe)
  | admitMessage (admission : Admission)
  | recover (admission : Admission)
  deriving DecidableEq

def ownerStep (sha256 : Sha256) (texts : TimestampText) (db : OwnerDb) :
    OwnerCall → OwnerDb × Except CarlError TrustedFrontendOwnerRecord
  | .trust input probe => trustFrontendOwner sha256 texts input probe db
  | .admitMessage admission =>
    admitTrustedFrontendMessage sha256 texts admission db
  | .recover admission =>
    recoverOrAdmitTrustedFrontendMessage sha256 texts admission db

def ownerService (sha256 : Sha256) (texts : TimestampText) :
    Service OwnerDb OwnerCall (Except CarlError TrustedFrontendOwnerRecord) :=
  ⟨ownerStep sha256 texts⟩

variable {sha256 : Sha256} {texts : TimestampText}
  {db next : OwnerDb}

/-- An event of the owner is stored, and the owner's channel is its channel. -/
structure Admits (sha256 : Sha256) (admission : Admission)
    (db next : OwnerDb) (workspace : String) (later : OwnerRow) : Prop where
  canonical : validateCanonicalFrontendCwd admission.probe admission.workspace = .ok workspace
  owner : ∃ row, db.owners.find? (admission.frontend,
      frontendWorkspaceDigest sha256 workspace) = some row ∧
    row.actorId = admission.actorId ∧
    ∀ bound, row.channelId = some bound → bound = admission.channelId
  stored : db.events.insert
    { eventId := admission.eventId, frontend := admission.frontend,
      workspaceDigest := frontendWorkspaceDigest sha256 workspace, actorId := admission.actorId,
      channelId := admission.channelId, admittedAt := admission.admittedAt } = some next.events
  actor : later.actorId = admission.actorId
  channel : later.channelId = some admission.channelId
  owners : ∀ key, next.owners.find? key =
    if key = (admission.frontend, frontendWorkspaceDigest sha256 workspace)
    then some later else db.owners.find? key

/-- A call changes nothing, replaces an owner by another actor, or admits an
event. -/
inductive OwnerMove (sha256 : Sha256) (db next : OwnerDb) :
    OwnerCall → Prop
  | same {call : OwnerCall} (h : next = db) : OwnerMove sha256 db next call
  | trusted {input : TrustedFrontendOwnerInput} {probe : DirectoryProbe}
    {workspaceDigest : Sha256Digest}
    (hvalid : validateTrust sha256 input probe = .ok workspaceDigest)
    (hother : ∀ row, db.owners.find? (input.frontend, workspaceDigest) = some row →
        row.actorId ≠ input.actorId)
    (hevents : next.events = db.events)
    (howners : ∀ key, key ≠ (input.frontend, workspaceDigest) →
      next.owners.find? key = db.owners.find? key) :
    OwnerMove sha256 db next (.trust input probe)
  | admitted {call : OwnerCall} {admission : Admission} {workspace : String} {later : OwnerRow}
    (hcall : call = .admitMessage admission ∨ call = .recover admission)
    (h : Admits sha256 admission db next workspace later) :
    OwnerMove sha256 db next call

variable {admission : Admission} {call : OwnerCall} {later : OwnerRow}
  {workspace : String}

theorem find?_upsertOwner_of_ne {owners : Table OwnerRow.key} {input : TrustedFrontendOwnerInput}
    {workspaceDigest : Sha256Digest} {key : OwnerKey}
    (hne : key ≠ (input.frontend, workspaceDigest)) :
    (upsertOwner owners input workspaceDigest).find? key = owners.find? key := by
  rw [upsertOwner]
  split
  · rename_i hupdate
    rw [Table.find?_update hupdate, if_neg hne]
  · cases hinsert : owners.insert
        { frontend := input.frontend, workspaceDigest, actorId := input.actorId, channelId := none,
          permissionMode := storedPermissionMode input.permissionMode, createdAt := input.trustedAt,
          updatedAt := input.trustedAt : OwnerRow } with
    | none => rfl
    | some inserted =>
      rw [Option.getD_some, Table.find?_insert hinsert]
      exact if_neg hne

theorem trustFrontendOwner_move (input : TrustedFrontendOwnerInput) (probe : DirectoryProbe) :
    OwnerMove sha256 db (trustFrontendOwner sha256 texts input probe db).1
      (.trust input probe) := by
  rw [trustFrontendOwner]
  cases hvalid : validateTrust sha256 input probe with
  | error error => exact .same rfl
  | ok workspaceDigest =>
    simp only
    cases hget : getTrustedFrontendOwner texts db
        (input.frontend, workspaceDigest) with
    | error error => exact .same rfl
    | ok existing =>
      simp only
      split
      · exact .same rfl
      · rename_i hfilter
        refine .trusted hvalid ?_ rfl fun key hne => find?_upsertOwner_of_ne hne
        intro row hrow hsame
        simp only [getTrustedFrontendOwner, hrow, map_eq_ok_iff, readOwner, ok_iff] at hget
        obtain ⟨record, ⟨-, _, -, _, -, rfl⟩, rfl⟩ := hget
        simp [hsame, PermissionMode.profile] at hfilter

theorem fillChannel_eq_ok {owners filled : Table OwnerRow.key} {row : OwnerRow} {key : OwnerKey}
    (hrow : owners.find? key = some row) (hactor : row.actorId = admission.actorId)
    (hbound : ∀ bound, row.channelId = some bound → bound = admission.channelId)
    (h : fillChannel texts owners row admission = .ok filled) :
    ∃ later : OwnerRow, (later.actorId = admission.actorId ∧
        later.channelId = some admission.channelId) ∧
      ∀ other, filled.find? other =
        if other = key then some later else owners.find? other := by
  have hkey : row.key = key := Table.key_of_find? hrow
  rw [fillChannel] at h
  split at h
  · rw [requireSome_eq_ok] at h
    refine ⟨{ row with
      channelId := some admission.channelId, updatedAt := admission.admittedAt }, ⟨hactor, rfl⟩, ?_⟩
    intro other
    rw [Table.find?_update h, hkey, hrow]
    rfl
  · rename_i hsome
    cases hchannel : row.channelId with
    | none => simp [hchannel] at hsome
    | some bound =>
      have hsame := hbound bound hchannel
      cases h
      refine ⟨row, ⟨hactor, by rw [hchannel, hsame]⟩, ?_⟩
      intro other
      split
      · rename_i heq
        rw [heq, hrow]
      · rfl

theorem admitTrustedFrontendMessage_cases (admission : Admission) :
    (∃ error, admitTrustedFrontendMessage sha256 texts admission db = (db, .error error)) ∨
    ∃ workspace later, Admits sha256 admission db
      (admitTrustedFrontendMessage sha256 texts admission db).1 workspace later := by
  rw [admitTrustedFrontendMessage]
  cases hvalid : validateAdmission sha256 admission with
  | error error => exact .inl ⟨error, rfl⟩
  | ok workspaceDigest =>
    simp only
    cases hadmit : admitInTransaction texts admission workspaceDigest db with
    | error error => exact .inl ⟨error, rfl⟩
    | ok next =>
      simp only [validateAdmission, ok_iff] at hvalid
      obtain ⟨-, workspace, hworkspace, rfl⟩ := hvalid
      simp only [admitInTransaction, ok_iff, not_or, ne_eq, not_not, not_exists, not_and,
        Option.mem_def] at hadmit
      obtain ⟨row, hrow, ⟨hactor, hbound⟩, owners, hfill, events, hinsert, rfl⟩ := hadmit
      obtain ⟨later, ⟨hlater, hchannel⟩, howners⟩ := fillChannel_eq_ok hrow hactor hbound hfill
      exact .inr ⟨workspace, later, hworkspace, ⟨row, hrow, hactor, hbound⟩,
        hinsert, hlater, hchannel, howners⟩

theorem admitTrustedFrontendMessage_move
    (hcall : call = .admitMessage admission ∨ call = .recover admission) :
    OwnerMove sha256 db (admitTrustedFrontendMessage sha256 texts admission db).1 call := by
  rcases @admitTrustedFrontendMessage_cases sha256 texts db admission with
    ⟨error, herror⟩ | ⟨workspace, later, hadmits⟩
  · rw [herror]
    exact .same rfl
  · exact .admitted hcall hadmits

theorem ownerStep_move (sha256 : Sha256) (texts : TimestampText) (db : OwnerDb)
    (call : OwnerCall) : OwnerMove sha256 db (ownerStep sha256 texts db call).1 call := by
  cases call with
  | trust input probe => exact trustFrontendOwner_move input probe
  | admitMessage admission => exact admitTrustedFrontendMessage_move (.inl rfl)
  | recover admission =>
    rw [ownerStep, recoverOrAdmitTrustedFrontendMessage]
    cases validateCanonicalFrontendCwd admission.probe
        admission.workspace with
    | error error => exact .same rfl
    | ok workspace =>
      simp only
      cases db.events.find? admission.eventId with
      | none => exact admitTrustedFrontendMessage_move (.inr rfl)
      | some row =>
        simp only
        split <;> exact .same rfl

/-! ## Events and their owners -/

def OwnerDb.EventsOwned (db : OwnerDb) : Prop :=
  ∀ eventId event, db.events.find? eventId = some event →
    ∃ row, db.owners.find? event.ownerKey = some row ∧
      row.actorId = event.actorId ∧ row.channelId = some event.channelId

/-- A trust call names the actor of every event that is stored for the
workspace. -/
def keepsEventActors (sha256 : Sha256) (db : OwnerDb) : OwnerCall → Bool
  | .trust input probe =>
    match validateTrust sha256 input probe with
    | .error _ => true
    | .ok workspaceDigest => db.events.rows.all fun event =>
      event.ownerKey != (input.frontend, workspaceDigest) || event.actorId == input.actorId
  | _ => true

theorem Admits.eventsOwned (h : Admits sha256 admission db next workspace later)
    (howned : db.EventsOwned) : next.EventsOwned := by
  intro eventId event hevent
  rw [Table.find?_insert h.stored] at hevent
  rw [h.owners]
  split at hevent
  · cases hevent
    exact ⟨later, if_pos rfl, h.actor, h.channel⟩
  · obtain ⟨row, hrow, hactor, hchannel⟩ := howned eventId event hevent
    split
    · rename_i hkey
      obtain ⟨owner, howner, hsame, hbound⟩ := h.owner
      rw [hkey, howner] at hrow
      cases hrow
      refine ⟨later, rfl, ?_, ?_⟩
      · rw [h.actor, ← hsame, hactor]
      · rw [h.channel, ← hbound _ hchannel]
    · exact ⟨row, hrow, hactor, hchannel⟩

theorem OwnerMove.eventsOwned (h : OwnerMove sha256 db next call)
    (hguard : keepsEventActors sha256 db call = true) (howned : db.EventsOwned) :
    next.EventsOwned := by
  cases h with
  | same h =>
    rw [h]
    exact howned
  | admitted _ h => exact h.eventsOwned howned
  | @trusted input probe workspaceDigest hvalid hother hevents howners =>
    intro eventId event hevent
    rw [hevents] at hevent
    obtain ⟨row, hrow, hactor, hchannel⟩ := howned eventId event hevent
    -- The new owner is another actor, so no stored event is of this key.
    have hne : event.ownerKey ≠ (input.frontend, workspaceDigest) := by
      intro hkey
      simp only [keepsEventActors, hvalid, List.all_eq_true, Bool.or_eq_true,
        bne_iff_ne, beq_iff_eq] at hguard
      have hsame := hguard event (Table.mem_of_find? hevent)
      rw [hkey] at hrow
      rcases hsame with hne | hsame
      · exact hne hkey
      · exact hother row hrow (hactor.trans hsame)
    exact ⟨row, by rw [howners _ hne, hrow], hactor, hchannel⟩

def OwnerDb.Trusts (sha256 : Sha256) (db : OwnerDb) (admission : Admission) : Prop :=
  ∃ workspace row, validateCanonicalFrontendCwd admission.probe admission.workspace =
      .ok workspace ∧
    db.owners.find? (admission.frontend, frontendWorkspaceDigest sha256 workspace) = some row ∧
    row.actorId = admission.actorId ∧
    row.channelId = some admission.channelId

theorem Admits.trusts (h : Admits sha256 admission db next workspace later) :
    next.Trusts sha256 admission := by
  refine ⟨workspace, later, h.canonical, ?_, h.actor, h.channel⟩
  rw [h.owners, if_pos rfl]

variable {record : TrustedFrontendOwnerRecord}

/-- A recovery that succeeds admits the event, or finds it stored under the
same names. -/
theorem recover_eq_ok
    (h : (recoverOrAdmitTrustedFrontendMessage sha256 texts admission db).2 = .ok record) :
    (∃ workspace later, Admits sha256 admission db (recoverOrAdmitTrustedFrontendMessage sha256
      texts admission db).1 workspace later) ∨
    (recoverOrAdmitTrustedFrontendMessage sha256 texts admission db).1 = db ∧
      ∃ workspace event, validateCanonicalFrontendCwd admission.probe admission.workspace =
          .ok workspace ∧
        db.events.find? admission.eventId = some event ∧
        event.isFor admission (frontendWorkspaceDigest sha256 workspace) = true := by
  rw [recoverOrAdmitTrustedFrontendMessage] at h ⊢
  cases hworkspace : validateCanonicalFrontendCwd admission.probe
      admission.workspace with
  | error error => simp [hworkspace] at h
  | ok workspace =>
    simp only [hworkspace] at h ⊢
    cases hevent : db.events.find? admission.eventId with
    | none =>
      simp only [hevent] at h ⊢
      rcases @admitTrustedFrontendMessage_cases sha256 texts db
          admission with ⟨error, herror⟩ | hadmits
      · simp [herror] at h
      · exact .inl hadmits
    | some event =>
      simp only [hevent] at h ⊢
      split at h
      · rename_i hfor
        rw [if_pos hfor]
        exact .inr ⟨rfl, workspace, event, rfl, rfl, hfor⟩
      · cases h

theorem recover_trusts (howned : db.EventsOwned)
    (h : (recoverOrAdmitTrustedFrontendMessage sha256 texts admission db).2 = .ok record) :
    (recoverOrAdmitTrustedFrontendMessage sha256 texts admission db).1.Trusts sha256 admission := by
  rcases recover_eq_ok h with ⟨workspace, later, hadmits⟩ |
    ⟨hsame, workspace, event, hworkspace, hevent, hfor⟩
  · exact hadmits.trusts
  · rw [hsame]
    obtain ⟨row, hrow, hactor, hchannel⟩ := howned _ event hevent
    simp only [TrustedEventRow.isFor, Bool.and_eq_true, beq_iff_eq] at hfor
    obtain ⟨⟨⟨hfrontend, hdigest⟩, hsameActor⟩, hsameChannel⟩ := hfor
    refine ⟨workspace, row, hworkspace, ?_, ?_, ?_⟩
    · rw [← hrow, TrustedEventRow.ownerKey, hfrontend, hdigest]
    · rw [hactor, hsameActor]
    · rw [hchannel, hsameChannel]

/-! ## Admissions of one event -/

def admitsEvent (eventId : String) (entry : Service.Entry OwnerDb OwnerCall
      (Except CarlError TrustedFrontendOwnerRecord)) : Bool :=
  (entry.before.events.find? eventId).isNone && (entry.after.events.find? eventId).isSome

theorem OwnerMove.keeps_event (h : OwnerMove sha256 db next call) {eventId : String}
    {event : TrustedEventRow} (hevent : db.events.find? eventId = some event) :
    next.events.find? eventId = some event := by
  cases h with
  | same h => rw [h, hevent]
  | trusted _ _ hevents _ => rw [hevents, hevent]
  | admitted _ h => exact Table.find?_insert_of_some h.stored hevent

theorem countP_admitsEvent_le_one (eventId : String) (calls : List OwnerCall) :
    ((ownerService sha256 texts).log db calls).countP (admitsEvent eventId) ≤ 1 := by
  refine countP_log_le_one (P := fun _ => True)
    (U := fun db : OwnerDb => (db.events.find? eventId).isSome = true)
    (fun _ _ _ => trivial) ?_ ?_ ?_ trivial
  · intro db call _ hadmits
    simp only [admitsEvent, Bool.and_eq_true] at hadmits
    exact hadmits.2
  · intro db call _ hstored
    obtain ⟨event, hevent⟩ := Option.isSome_iff_exists.mp hstored
    have hkept := (ownerStep_move sha256 texts db call).keeps_event hevent
    simp only [ownerService, hkept, Option.isSome_some]
  · intro db call _ hstored
    obtain ⟨event, hevent⟩ := Option.isSome_iff_exists.mp hstored
    simp [admitsEvent, serve, hevent]

theorem Admits.admitsEvent (h : Admits sha256 admission db next workspace later) :
    db.events.find? admission.eventId = none ∧
      (next.events.find? admission.eventId).isSome = true := by
  refine ⟨(Table.insert_eq_some.mp h.stored).1, ?_⟩
  rw [Table.find?_insert h.stored, if_pos rfl]
  rfl

/--
For every sequence of calls: an event is admitted once, an admission that
succeeds stores its event, and a recovery that succeeds stores it or finds it
stored under the same names.  While no trust call names another actor than the
stored events of the workspace, a recovery succeeds only for the actor and the
channel of the trusted owner.
-/
theorem recover_only_for_owner_while_actors_kept (sha256 : Sha256)
    (texts : TimestampText) (calls : List OwnerCall) :
    (∀ eventId, ((ownerService sha256 texts).log OwnerDb.empty calls).countP
      (admitsEvent eventId) ≤ 1) ∧
    (∀ entry ∈ (ownerService sha256 texts).log OwnerDb.empty calls,
      ∀ admission record, entry.answer = .ok record →
        (entry.call = .admitMessage admission →
          admitsEvent admission.eventId entry = true) ∧
        (entry.call = .recover admission →
          admitsEvent admission.eventId entry = true ∨ ∃ workspace event,
            validateCanonicalFrontendCwd admission.probe admission.workspace = .ok workspace ∧
            entry.before.events.find? admission.eventId = some event ∧
            event.isFor admission (frontendWorkspaceDigest sha256 workspace) = true)) ∧
    ((ownerService sha256 texts).Meets
        (fun db call => keepsEventActors sha256 db call = true) OwnerDb.empty
        calls → ∀ entry ∈ (ownerService sha256 texts).log OwnerDb.empty calls,
        ∀ admission record, entry.call = .recover admission →
          entry.answer = .ok record → entry.after.Trusts sha256 admission) := by
  refine ⟨fun eventId => countP_admitsEvent_le_one eventId calls, ?_, ?_⟩
  · intro entry hentry admission record hanswer
    obtain ⟨before, call, after, -, rfl⟩ := mem_log.mp hentry
    constructor
    · rintro rfl
      rcases @admitTrustedFrontendMessage_cases sha256 texts
          ((ownerService sha256 texts).run OwnerDb.empty before) admission with
        ⟨error, herror⟩ | ⟨workspace, later, hadmits⟩
      · simp only [serve, ownerService, ownerStep] at hanswer herror
        rw [herror] at hanswer
        cases hanswer
      · have hstored := hadmits.admitsEvent
        simp only [admitsEvent, serve, hstored.1, Option.isNone_none, Bool.true_and]
        exact hstored.2
    · rintro rfl
      rcases recover_eq_ok hanswer with ⟨workspace, later, hadmits⟩ | ⟨-, workspace, event, hevent⟩
      · have hstored := hadmits.admitsEvent
        left
        simp only [admitsEvent, serve, hstored.1, Option.isNone_none, Bool.true_and]
        exact hstored.2
      · exact .inr ⟨workspace, event, hevent⟩
  · intro hmeets entry hentry admission record hcall hanswer
    obtain ⟨before, call, after, rfl, rfl⟩ := mem_log.mp hentry
    cases hcall
    have howned : ((ownerService sha256 texts).run OwnerDb.empty before).EventsOwned := by
      refine run_invariant_of_meets (P := OwnerDb.EventsOwned) ?_ ?_ (meets_append.mp hmeets).1
      · intro db call howned hguard
        exact (ownerStep_move sha256 texts db call).eventsOwned hguard howned
      · intro eventId event hevent
        cases hevent
    exact recover_trusts howned hanswer

/-! ## An owner that is replaced -/

namespace Sample

def owner : ActorId := ⟨"owner", Eq.refl true⟩

def successor : ActorId := ⟨"successor", by decide⟩

def channel : ChannelId := ⟨"c", by decide⟩

def digestOfWorkspace (_ : List UInt8) : Sha256Digest :=
  ⟨0x7e1fff00e4f1808f229d049abb93fff8c06295335a2381eaa3f13234f9dd2d02⟩

def directory : DirectoryProbe := .found (.utf8 "/w") true

def trust (actorId : ActorId) : OwnerCall :=
  .trust ⟨.buzz, actorId, .utf8 "/w", .fullAccess, 1⟩ directory

def message : Admission where
  frontend := .buzz
  actorId := owner
  channelId := channel
  workspace := .utf8 "/w"
  probe := directory
  eventId := "aaaaaaaaaaaaaaaaaaaaaaaaaaaaaaaaaaaaaaaaaaaaaaaaaaaaaaaaaaaaaaaa"
  admittedAt := 2

end Sample

open Sample

theorem recover_for_replaced_owner : ∃ db record row,
      db = (ownerService digestOfWorkspace plain).run
        OwnerDb.empty [trust owner, .admitMessage message, trust successor] ∧
      (ownerStep digestOfWorkspace plain db (.recover message)).2 = .ok record ∧
      db.owners.find? (.buzz, digestOfWorkspace []) = some row ∧
      row.actorId ≠ message.actorId :=
  ⟨_, _, _, rfl, rfl, rfl, by decide⟩

theorem recover_for_kept_owner : ∃ entry ∈ (ownerService digestOfWorkspace plain).log
        OwnerDb.empty [trust owner, .admitMessage message, trust owner, .recover message],
      entry.call = .recover message ∧
      entry.after.Trusts digestOfWorkspace message := by
  have htheorem := (recover_only_for_owner_while_actors_kept digestOfWorkspace plain
    [trust owner, .admitMessage message, trust owner, .recover message]).2.2 (by decide)
  refine ⟨(ownerService digestOfWorkspace plain).serve ((ownerService digestOfWorkspace plain).run
      OwnerDb.empty [trust owner, .admitMessage message,
        trust owner]) (.recover message), ?_, rfl, ?_⟩
  · exact mem_log.mpr ⟨_, _, [], rfl, rfl⟩
  · apply htheorem _ (mem_log.mpr ⟨_, _, [], rfl, rfl⟩)
    · rfl
    · rfl

end CarlAgent.Access
