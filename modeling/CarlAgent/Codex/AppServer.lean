import CarlAgent.Foundation.Service
import CarlAgent.Task.Report
import Mathlib.Data.List.AList

/-!
# The Codex application server client

The client keeps its threads with their modes and active turns, the approval
requests it has shown to the engine, and the fragments of a report that is
still being streamed.  A message of the server, once parsed, is one turn of the
loop in `next_event`; a call that waits for the server is the change it makes
when the reply has passed its checks.  Whether an answer reaches the server is
an input, since the channel to it may be full or closed, and the digest of a
request, which covers the whole of it, is a parameter.
-/

namespace CarlAgent.Codex

open Foundation CarlAgent.Task

abbrev CodexThreadId := String
abbrev CodexTurnId := String

def maxTextBytes : Nat := 256 * 1024

inductive CodexApprovalKind where
  | command
  | fileChange
  deriving DecidableEq, Repr

inductive CodexApprovalDecision where
  | allow
  | deny
  deriving DecidableEq, Repr

/-- A server gives its requests texts or numbers as identifiers. -/
inductive ProviderId where
  | text (value : String)
  | number (value : Nat)
  deriving DecidableEq, Repr

def ProviderId.requestId : ProviderId → String
  | text value => value
  | number value => String.ofList (Text.decimal value)

/-- A parsed request; `rest` is the text of the members that nothing here
reads. -/
structure CodexApprovalRequest where
  providerId : ProviderId
  threadId : CodexThreadId
  turnId : CodexTurnId
  kind : CodexApprovalKind
  rest : String
  deriving DecidableEq, Repr

inductive CodexItem where
  | command (itemId : String)
  | fileChange (itemId : String)
  | contextCompaction (itemId : String)
  | other (itemId itemType : String)
  deriving DecidableEq, Repr

inductive CodexEvent where
  | threadStarted (threadId : CodexThreadId)
  | turnStarted (threadId : CodexThreadId) (turnId : CodexTurnId)
  | itemStarted (threadId : CodexThreadId) (turnId : CodexTurnId) (item : CodexItem)
  | agentMessageDelta (threadId : CodexThreadId) (turnId : CodexTurnId) (itemId text : String)
  | itemCompleted (threadId : CodexThreadId) (turnId : CodexTurnId) (item : CodexItem)
  | tokenUsageUpdated (threadId : CodexThreadId) (turnId : CodexTurnId)
  | diffUpdated (threadId : CodexThreadId) (turnId : CodexTurnId)
  | turnCompleted (threadId : CodexThreadId) (turnId : CodexTurnId)
  | providerError (threadId : Option CodexThreadId) (turnId : Option CodexTurnId)
  | approvalRequested (approval : CodexApprovalRequest)
  deriving DecidableEq, Repr

structure CompactionState where
  turnId : Option CodexTurnId
  itemId : Option String
  itemCompleted : Bool
  deriving DecidableEq, Repr

structure ThreadState where
  mode : PermissionMode
  activeTurn : Option CodexTurnId
  compaction : Option CompactionState
  deriving DecidableEq, Repr

structure OutstandingApproval where
  request : CodexApprovalRequest
  requestDigest : Sha256Digest
  deriving DecidableEq, Repr

structure CodexAppServer where
  threads : AList fun _ : CodexThreadId => ThreadState
  outstandingApprovals : AList fun _ : String => OutstandingApproval
  bufferedEvents : List CodexEvent
  terminalReportFragments : AList fun _ : CodexThreadId × CodexTurnId × String => String
  pendingTerminalReports : AList fun _ : CodexThreadId × CodexTurnId => CodexEvent

inductive DelegateError where
  | protocol
  | sidecar
  deriving DecidableEq, Repr

namespace CodexAppServer

def new : CodexAppServer :=
  { threads := ∅, outstandingApprovals := ∅, bufferedEvents := [], terminalReportFragments := ∅,
    pendingTerminalReports := ∅ }

variable (server : CodexAppServer)

variable (threadId : CodexThreadId)

def setThread (state : ThreadState) : CodexAppServer :=
  { server with threads := server.threads.insert threadId state }

variable (turnId : CodexTurnId)

def requireActiveTurn : Except DelegateError Unit :=
  match server.threads.lookup threadId with
  | none => .error .protocol
  | some state =>
    if state.activeTurn = some turnId then .ok () else .error .protocol

def couldBeTerminalReport (text : String) : Bool :=
  let trimmed := Text.trimStartMatches Text.isWhitespace text.toList
  !trimmed.isEmpty &&
    (Text.startsWith trimmed reportOpen.toList || Text.startsWith reportOpen.toList trimmed)

variable (event : CodexEvent)

/-- The turn that an event must belong to, unless a compaction takes it. -/
def validateBinding : Except DelegateError Unit :=
  match event with
  | .threadStarted threadId =>
    if (server.threads.lookup threadId).isSome then .ok ()
    else .error .protocol
  | .turnStarted threadId turnId => server.requireActiveTurn threadId turnId
  | .itemStarted threadId turnId _ => server.requireActiveTurn threadId turnId
  | .agentMessageDelta threadId turnId _ _ =>
    server.requireActiveTurn threadId turnId
  | .itemCompleted threadId turnId _ =>
    server.requireActiveTurn threadId turnId
  | .tokenUsageUpdated threadId turnId =>
    server.requireActiveTurn threadId turnId
  | .diffUpdated threadId turnId => server.requireActiveTurn threadId turnId
  | .turnCompleted threadId turnId => server.requireActiveTurn threadId turnId
  | .providerError (some threadId) (some turnId) =>
    server.requireActiveTurn threadId turnId
  | .providerError none none => .ok ()
  | .providerError _ _ => .error .protocol
  | .approvalRequested _ => .error .protocol

/-- What a compaction makes of an event of its thread: it takes the event,
refuses it, or leaves it to the active turn. -/
inductive CompactionStep where
  | taken (compaction : CompactionState)
  | refused (compaction : CompactionState)
  | passed

def compactionStep (state : ThreadState) (compaction : CompactionState) :
    CodexEvent → CompactionStep
  | .turnStarted _ turnId =>
    if state.activeTurn.isNone then
      let started := { compaction with turnId := some turnId }
      if compaction.turnId.isSome then .refused started else .taken started
    else .passed
  | .tokenUsageUpdated _ turnId =>
    if state.activeTurn.isNone ∧ compaction.turnId = some turnId then
      .taken compaction
    else .passed
  | .itemStarted _ turnId (.contextCompaction itemId) =>
    if compaction.turnId ≠ some turnId ∨ compaction.itemId.isSome ∨
        compaction.itemCompleted then .refused compaction
    else .taken { compaction with itemId := some itemId }
  | .itemCompleted _ turnId (.contextCompaction itemId) =>
    if compaction.turnId ≠ some turnId ∨ compaction.itemId ≠ some itemId ∨
        compaction.itemCompleted then .refused compaction
    else .taken { compaction with itemCompleted := true }
  | .turnCompleted _ turnId =>
    if state.activeTurn.isNone then
      if compaction.turnId ≠ some turnId ∨ compaction.itemId.isNone ∨
          !compaction.itemCompleted then .refused compaction
      else .taken compaction
    else .passed
  | _ => .passed

def compactionThread : CodexEvent → Option CodexThreadId
  | .turnStarted threadId _ => some threadId
  | .tokenUsageUpdated threadId _ => some threadId
  | .itemStarted threadId _ (.contextCompaction _) => some threadId
  | .itemCompleted threadId _ (.contextCompaction _) => some threadId
  | .turnCompleted threadId _ => some threadId
  | _ => none

def validateEventBinding : CodexAppServer × Except DelegateError Unit :=
  match compactionThread event with
  | none => (server, server.validateBinding event)
  | some threadId =>
    match server.threads.lookup threadId with
    | none => (server, .error .protocol)
    | some state =>
      match state.compaction with
      | none => (server, server.validateBinding event)
      | some compaction =>
        match compactionStep state compaction event with
        | .taken next =>
          (server.setThread threadId { state with compaction := some next }, .ok ())
        | .refused next =>
          (server.setThread threadId { state with compaction := some next }, .error .protocol)
        | .passed => (server, server.validateBinding event)

/-- What a turn of the loop in `next_event` ends with; absent when the loop
goes on. -/
abbrev Reached := Option (Except DelegateError CodexEvent)

def messageDelta (itemId text : String) : CodexAppServer × Reached :=
  let key := (threadId, turnId, itemId)
  match server.terminalReportFragments.lookup key with
  | some accumulated =>
    let removed := server.terminalReportFragments.erase key
    if accumulated.utf8ByteSize + text.utf8ByteSize > maxTextBytes then
      ({ server with terminalReportFragments := removed }, some (.error .protocol))
    else if couldBeTerminalReport (accumulated ++ text) then
      ({ server with terminalReportFragments := removed.insert key (accumulated ++ text) }, none)
    else
      ({ server with terminalReportFragments := removed },
        some (.ok (.agentMessageDelta threadId turnId itemId (accumulated ++ text))))
  | none =>
    if couldBeTerminalReport text then
      ({ server with
        terminalReportFragments := server.terminalReportFragments.insert key text }, none)
    else
      (server, some (.ok (.agentMessageDelta threadId turnId itemId text)))

def messageCompleted (itemId : String) : CodexAppServer :=
  let key := (threadId, turnId, itemId)
  match server.terminalReportFragments.lookup key with
  | some text =>
    { server with
      terminalReportFragments := server.terminalReportFragments.erase key
      pendingTerminalReports := server.pendingTerminalReports.insert (threadId, turnId)
          (.agentMessageDelta threadId turnId itemId text) }
  | none =>
    { server with
      pendingTerminalReports := server.pendingTerminalReports.erase (threadId, turnId) }

/-- The report of a turn is handed out before the end of the turn. -/
def reportFirst : CodexAppServer × Reached :=
  match server.pendingTerminalReports.lookup (threadId, turnId) with
  | some report =>
    ({ server with
      pendingTerminalReports := server.pendingTerminalReports.erase (threadId, turnId)
      bufferedEvents := server.bufferedEvents ++ [event] }, some (.ok report))
  | none => (server, some (.ok event))

def turnCompleted : CodexAppServer × Reached :=
  if server.terminalReportFragments.keys.any fun key =>
      key.1 = threadId ∧ key.2.1 = turnId then
    (server, some (.error .protocol))
  else
    match server.threads.lookup threadId with
    | none => (server, some (.error .protocol))
    | some state =>
      if state.activeTurn = some turnId then
        (server.setThread threadId
          { state with activeTurn := none }).reportFirst threadId turnId event
      else if state.activeTurn.isNone ∧ state.compaction.any fun compaction =>
          compaction.turnId = some turnId ∧ compaction.itemId.isSome ∧ compaction.itemCompleted then
        (server.setThread threadId
          { state with compaction := none }).reportFirst threadId turnId event
      else (server, some (.error .protocol))

def notification : CodexAppServer × Reached :=
  match server.validateEventBinding event with
  | (server, .error error) => (server, some (.error error))
  | (server, .ok ()) =>
    match event with
    | .agentMessageDelta threadId turnId itemId text =>
      server.messageDelta threadId turnId itemId text
    | .itemCompleted threadId turnId (.other itemId "agentMessage") =>
      (server.messageCompleted threadId turnId itemId, some (.ok event))
    | .turnCompleted threadId turnId =>
      server.turnCompleted threadId turnId event
    | _ => (server, some (.ok event))

/-! ## Approvals -/

structure Response where
  approval : CodexApprovalRequest
  decision : CodexApprovalDecision
  deriving DecidableEq, Repr

def sendApprovalResponse (sent : Bool) (approval : CodexApprovalRequest)
    (decision : CodexApprovalDecision) : Option Response × Except DelegateError Unit :=
  if sent then (some ⟨approval, decision⟩, .ok ())
  else (none, .error .sidecar)

def surfaces (mode : PermissionMode) (kind : CodexApprovalKind) : Bool :=
  match mode with
  | .default => true
  | .acceptEdits => kind = .command
  | .fullAccess => true
  | .bypassPermissions => true
  | .plan => false
  | .dontAsk => false

def approvalRequest (digest : CodexApprovalRequest → Sha256Digest) (sent : Bool)
    (approval : CodexApprovalRequest) : CodexAppServer × Option Response × Reached :=
  match server.requireActiveTurn approval.threadId approval.turnId with
  | .error _ =>
    match sendApprovalResponse sent approval .deny with
    | (response, .error error) => (server, response, some (.error error))
    | (response, .ok ()) => (server, response, some (.error .protocol))
  | .ok () =>
    match server.threads.lookup approval.threadId with
    | none => (server, none, some (.error .protocol))
    | some state =>
      if surfaces state.mode approval.kind then
        let requestId := approval.providerId.requestId
        let stored := { server with
          outstandingApprovals := server.outstandingApprovals.insert requestId
              ⟨approval, digest approval⟩ }
        if (server.outstandingApprovals.lookup requestId).isSome then
          (stored, none, some (.error .protocol))
        else (stored, none, some (.ok (.approvalRequested approval)))
      else
        let decision := if state.mode = .acceptEdits then
          CodexApprovalDecision.allow else .deny
        match sendApprovalResponse sent approval decision with
        | (response, .error error) =>
          (server, response, some (.error error))
        | (response, .ok ()) => (server, response, none)

def resolveApproval (digest : CodexApprovalRequest → Sha256Digest) (sent : Bool)
    (approval : CodexApprovalRequest) (decision : CodexApprovalDecision) :
    CodexAppServer × Option Response × Except DelegateError Unit :=
  match server.requireActiveTurn approval.threadId approval.turnId with
  | .error error => (server, none, .error error)
  | .ok () =>
    let requestId := approval.providerId.requestId
    match server.outstandingApprovals.lookup requestId with
    | none => (server, none, .error .protocol)
    | some stored =>
      let removed := { server with
        outstandingApprovals := server.outstandingApprovals.erase requestId }
      if stored.request.providerId ≠ approval.providerId ∨
          stored.requestDigest ≠ digest approval then
        (removed, none, .error .protocol)
      else
        let (response, result) := sendApprovalResponse sent approval decision
        (removed, response, result)

/-- `thread/start` and `thread/resume`: a thread that is already known is
refused. -/
def addThread (mode : PermissionMode) : CodexAppServer :=
  if (server.threads.lookup threadId).isSome then server
  else
    server.setThread threadId { mode, activeTurn := none, compaction := none }

def compactThread : CodexAppServer :=
  match server.threads.lookup threadId with
  | none => server
  | some state =>
    if state.activeTurn.isSome ∨ state.compaction.isSome then server
    else
      server.setThread threadId
        { state with
          compaction := some { turnId := none, itemId := none, itemCompleted := false } }

/-- The server's reply names the turn; the caller then reads events until the
turn has started. -/
def startTurn (mode : PermissionMode) (turnId : CodexTurnId) : CodexAppServer :=
  match server.threads.lookup threadId with
  | none => server
  | some state =>
    if state.activeTurn.isSome ∨ state.compaction.isSome then server
    else server.setThread threadId { state with mode, activeTurn := some turnId }

def interrupt : CodexAppServer :=
  match server.requireActiveTurn threadId turnId, server.threads.lookup threadId with
  | .ok (), some state =>
    server.setThread threadId { state with activeTurn := none }
  | _, _ => server

def popBuffered : CodexAppServer :=
  { server with bufferedEvents := server.bufferedEvents.tail }

inductive Action where
  | addThread (threadId : CodexThreadId) (mode : PermissionMode)
  | compactThread (threadId : CodexThreadId)
  | startTurn (threadId : CodexThreadId) (mode : PermissionMode) (turnId : CodexTurnId)
  | interrupt (threadId : CodexThreadId) (turnId : CodexTurnId)
  | popBuffered
  | notification (event : CodexEvent)
  | approvalRequest (sent : Bool) (approval : CodexApprovalRequest)
  | resolveApproval (sent : Bool) (approval : CodexApprovalRequest)
    (decision : CodexApprovalDecision)

end CodexAppServer

open CodexAppServer (Action Response)

def client (digest : CodexApprovalRequest → Sha256Digest) :
    Service CodexAppServer Action (Option Response) where
  step server action :=
    match action with
    | .addThread threadId mode => (server.addThread threadId mode, none)
    | .compactThread threadId => (server.compactThread threadId, none)
    | .startTurn threadId mode turnId =>
      (server.startTurn threadId mode turnId, none)
    | .interrupt threadId turnId => (server.interrupt threadId turnId, none)
    | .popBuffered => (server.popBuffered, none)
    | .notification event => ((server.notification event).1, none)
    | .approvalRequest sent approval =>
      let result := server.approvalRequest digest sent approval
      (result.1, result.2.1)
    | .resolveApproval sent approval decision =>
      let result := server.resolveApproval digest sent approval decision
      (result.1, result.2.1)

end CarlAgent.Codex
