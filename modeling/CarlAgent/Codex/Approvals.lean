import CarlAgent.Codex.AppServer

/-!
# Answers to approval requests

Each answer uses up one received request.  It allows an effect only in the
active turn of its thread, on the word of the engine for a stored request or
for a file change while edits are accepted.  That a thread in a mode without
approvals never allows anything rests on the turns of a thread having
different names: a stored request outlives its turn.
-/

namespace CarlAgent.Codex

open Foundation CarlAgent.Task CodexAppServer AList

variable {seen : List CodexApprovalRequest}

open CodexAppServer (Action Response)

namespace CodexAppServer

variable {server later : CodexAppServer} {threadId : CodexThreadId}
  {turnId : CodexTurnId}

theorem requireActiveTurn_eq_ok : server.requireActiveTurn threadId turnId = .ok () ↔
      ∃ state, server.threads.lookup threadId = some state ∧ state.activeTurn = some turnId := by
  unfold requireActiveTurn
  cases hthread : server.threads.lookup threadId with
  | none => simp
  | some state => simp

/-- No approval changes, and a turn goes on or ends. -/
structure Quiet (before after : CodexAppServer) : Prop where
  outstanding : after.outstandingApprovals = before.outstandingApprovals
  threads : ∀ threadId state, after.threads.lookup threadId = some state →
    ∃ old, before.threads.lookup threadId = some old ∧
      state.mode = old.mode ∧
      (state.activeTurn = old.activeTurn ∨ state.activeTurn = none)

theorem Quiet.refl (server : CodexAppServer) : Quiet server server :=
  ⟨rfl, fun _ state h => ⟨state, h, rfl, .inl rfl⟩⟩

theorem Quiet.of_eq (hthreads : later.threads = server.threads)
    (houtstanding : later.outstandingApprovals = server.outstandingApprovals) :
    Quiet server later :=
  ⟨houtstanding, fun _ state h => ⟨state, hthreads ▸ h, rfl, .inl rfl⟩⟩

theorem Quiet.trans {last : CodexAppServer} (h₁ : Quiet server later)
    (h₂ : Quiet later last) : Quiet server last := by
  refine ⟨h₂.outstanding.trans h₁.outstanding, ?_⟩
  intro threadId state hstate
  obtain ⟨middle, hmiddle, hmode, hactive⟩ := h₂.threads threadId state hstate
  obtain ⟨old, hold, hmode', hactive'⟩ := h₁.threads threadId middle hmiddle
  refine ⟨old, hold, hmode.trans hmode', ?_⟩
  rcases hactive with hactive | hactive
  · rw [hactive]
    exact hactive'
  · exact .inr hactive

theorem Quiet.setThread {state next : ThreadState}
    (hstate : server.threads.lookup threadId = some state) (hmode : next.mode = state.mode)
    (hactive : next.activeTurn = state.activeTurn ∨ next.activeTurn = none) :
    Quiet server (server.setThread threadId next) := by
  refine ⟨rfl, ?_⟩
  intro other found hfound
  simp only [CodexAppServer.setThread] at hfound
  by_cases h : other = threadId
  · subst h
    rw [lookup_insert, Option.some.injEq] at hfound
    subst hfound
    exact ⟨state, hstate, hmode, hactive⟩
  · rw [lookup_insert_ne h] at hfound
    exact ⟨found, hfound, rfl, .inl rfl⟩

variable (event : CodexEvent)

theorem quiet_validateEventBinding :
    Quiet server (server.validateEventBinding event).1 := by
  unfold validateEventBinding
  cases compactionThread event with
  | none => exact Quiet.refl server
  | some threadId =>
    cases hstate : server.threads.lookup threadId with
    | none => simpa [hstate] using Quiet.refl server
    | some state =>
      simp only [hstate]
      split
      · exact Quiet.refl server
      · split
        · exact Quiet.setThread hstate rfl (.inl rfl)
        · exact Quiet.setThread hstate rfl (.inl rfl)
        · exact Quiet.refl server

theorem quiet_messageDelta (itemId text : String) :
    Quiet server (server.messageDelta threadId turnId itemId text).1 := by
  unfold messageDelta
  dsimp only
  split
  · split
    · exact Quiet.of_eq rfl rfl
    · split <;> exact Quiet.of_eq rfl rfl
  · split <;> exact Quiet.of_eq rfl rfl

theorem quiet_messageCompleted (itemId : String) :
    Quiet server (server.messageCompleted threadId turnId itemId) := by
  unfold messageCompleted
  dsimp only
  split <;> exact Quiet.of_eq rfl rfl

theorem quiet_reportFirst :
    Quiet server (server.reportFirst threadId turnId event).1 := by
  unfold reportFirst
  split <;> exact Quiet.of_eq rfl rfl

theorem quiet_turnCompleted :
    Quiet server (server.turnCompleted threadId turnId event).1 := by
  unfold turnCompleted
  split
  · exact Quiet.refl server
  · cases hstate : server.threads.lookup threadId with
    | none => exact Quiet.refl server
    | some state =>
      simp only
      split
      · refine Quiet.trans ?_ (quiet_reportFirst event)
        exact Quiet.setThread hstate rfl (.inr rfl)
      · split
        · refine Quiet.trans ?_ (quiet_reportFirst event)
          exact Quiet.setThread hstate rfl (.inl rfl)
        · exact Quiet.refl server

theorem quiet_notification : Quiet server (server.notification event).1 := by
  have hbinding := @quiet_validateEventBinding server event
  unfold notification
  generalize server.validateEventBinding event = binding at hbinding
  obtain ⟨bound, result⟩ := binding
  cases result with
  | error error => exact hbinding
  | ok _ =>
    simp only
    split
    · exact hbinding.trans (quiet_messageDelta _ _)
    · exact hbinding.trans (quiet_messageCompleted _)
    · exact hbinding.trans (quiet_turnCompleted _)
    · exact hbinding

theorem quiet_interrupt : Quiet server (server.interrupt threadId turnId) := by
  unfold interrupt
  split
  next state _ hstate => exact Quiet.setThread hstate rfl (.inr rfl)
  next => exact Quiet.refl server

theorem quiet_compactThread : Quiet server (server.compactThread threadId) := by
  unfold compactThread
  cases hstate : server.threads.lookup threadId with
  | none => exact Quiet.refl server
  | some state =>
    simp only
    split
    · exact Quiet.refl server
    · exact Quiet.setThread hstate rfl (.inl rfl)

variable {digest : CodexApprovalRequest → Sha256Digest} {sent : Bool}
  {approval : CodexApprovalRequest} {decision : CodexApprovalDecision}
  {response : Response}

theorem sendApprovalResponse_eq_some
    (h : (sendApprovalResponse sent approval decision).1 = some response) :
    response = ⟨approval, decision⟩ := by
  cases sent with
  | false => simp [sendApprovalResponse] at h
  | true => simpa [sendApprovalResponse, eq_comm] using h

/-- A request is stored, answered at once, or lost; it is not both stored and
answered. -/
theorem approvalRequest_cases : (server.approvalRequest digest sent approval).1 = server ∨
      (server.approvalRequest digest sent approval).2.1 = none ∧
        (∃ state, server.threads.lookup approval.threadId = some state ∧
          state.activeTurn = some approval.turnId ∧
          surfaces state.mode approval.kind = true) ∧
        (server.approvalRequest digest sent approval).1 =
          { server with
            outstandingApprovals := server.outstandingApprovals.insert approval.providerId.requestId
                ⟨approval, digest approval⟩ } := by
  unfold approvalRequest
  cases hactive : server.requireActiveTurn approval.threadId approval.turnId with
  | error error =>
    left
    cases sent <;> rfl
  | ok _ =>
    obtain ⟨state, hstate, hturn⟩ := requireActiveTurn_eq_ok.mp hactive
    simp only [hstate]
    by_cases hsurface : surfaces state.mode approval.kind = true
    · right
      simp only [hsurface, if_true]
      refine ⟨?_, ⟨state, rfl, hturn, hsurface⟩, ?_⟩ <;> split <;> rfl
    · left
      simp only [hsurface]
      cases sent <;> rfl

theorem fileChange_of_not_surfaces {kind : CodexApprovalKind}
    (h : ¬ surfaces .acceptEdits kind = true) : kind = .fileChange := by
  cases kind with
  | command => simp [surfaces] at h
  | fileChange => rfl

theorem approvalRequest_response
    (h : (server.approvalRequest digest sent approval).2.1 = some response) :
    response.approval = approval ∧
      (response.decision = .allow →
        ∃ state, server.threads.lookup approval.threadId = some state ∧
          state.activeTurn = some approval.turnId ∧
          approval.kind = .fileChange ∧ state.mode = .acceptEdits) := by
  unfold approvalRequest at h
  cases sent with
  | false =>
    -- Nothing reaches the server.
    cases hactive :
        server.requireActiveTurn approval.threadId approval.turnId with
    | error error => simp [hactive, sendApprovalResponse] at h
    | ok _ =>
      obtain ⟨state, hstate, -⟩ := requireActiveTurn_eq_ok.mp hactive
      simp only [hactive, hstate, sendApprovalResponse] at h
      split at h <;> [split at h; skip] <;> simp at h
  | true =>
    cases hactive :
        server.requireActiveTurn approval.threadId approval.turnId with
    | error error =>
      simp only [hactive, sendApprovalResponse, if_true, Option.some.injEq] at h
      subst h
      simp
    | ok _ =>
      obtain ⟨state, hstate, hturn⟩ := requireActiveTurn_eq_ok.mp hactive
      simp only [hactive, hstate, sendApprovalResponse, if_true] at h
      by_cases hsurface : surfaces state.mode approval.kind = true
      · simp only [hsurface, if_true] at h
        split at h <;> simp at h
      · simp only [hsurface, Bool.false_eq_true, if_false, Option.some.injEq] at h
        subst h
        refine ⟨rfl, fun hallow => ⟨state, hstate, hturn, ?_⟩⟩
        by_cases hmode : state.mode = .acceptEdits
        · rw [hmode] at hsurface
          exact ⟨fileChange_of_not_surfaces hsurface, hmode⟩
        · simp [hmode] at hallow

theorem resolveApproval_response
    (h : (server.resolveApproval digest sent approval decision).2.1 = some response) :
    response = ⟨approval, decision⟩ ∧
      (∃ state, server.threads.lookup approval.threadId = some state ∧
        state.activeTurn = some approval.turnId) ∧
      ∃ stored, server.outstandingApprovals.lookup approval.providerId.requestId = some stored ∧
        stored.request.providerId = approval.providerId ∧
        stored.requestDigest = digest approval := by
  unfold resolveApproval at h
  cases hactive :
      server.requireActiveTurn approval.threadId approval.turnId with
  | error error => simp [hactive] at h
  | ok _ =>
    cases hstored : server.outstandingApprovals.lookup
        approval.providerId.requestId with
    | none => simp [hactive, hstored] at h
    | some stored =>
      simp only [hactive, hstored] at h
      by_cases hbound : stored.request.providerId ≠ approval.providerId ∨
          stored.requestDigest ≠ digest approval
      · simp [hbound] at h
      · simp only [hbound, if_false] at h
        simp only [not_or, ne_eq, not_not] at hbound
        exact ⟨sendApprovalResponse_eq_some h,
          requireActiveTurn_eq_ok.mp hactive, stored, rfl, hbound.1, hbound.2⟩

theorem resolveApproval_server : (server.resolveApproval digest sent approval decision).1 = server ∧
        (server.resolveApproval digest sent approval decision).2.1 = none ∨
      (server.resolveApproval digest sent approval decision).1 =
        { server with
          outstandingApprovals := server.outstandingApprovals.erase
              approval.providerId.requestId } := by
  unfold resolveApproval
  cases server.requireActiveTurn approval.threadId approval.turnId with
  | error error => exact .inl ⟨rfl, rfl⟩
  | ok _ =>
    cases hstored : server.outstandingApprovals.lookup
        approval.providerId.requestId with
    | none =>
      left
      simp [hstored]
    | some stored =>
      right
      simp only [hstored]
      split <;> rfl

end CodexAppServer

/-! ## At most one answer -/

section Counting

variable {digest : CodexApprovalRequest → Sha256Digest}

abbrev Entry := Service.Entry CodexAppServer Action (Option Response)

variable (id : ProviderId)

def received (entry : Entry) : Bool :=
  match entry.call with
  | .approvalRequest _ approval => approval.providerId = id
  | _ => false

def answered (entry : Entry) : Bool :=
  match entry.answer with
  | some response => response.approval.providerId = id
  | none => false

variable (server : CodexAppServer)

def waiting : Nat :=
  match server.outstandingApprovals.lookup id.requestId with
  | some stored => if stored.request.providerId = id then 1 else 0
  | none => 0

theorem waiting_congr {server later : CodexAppServer}
    (h : later.outstandingApprovals = server.outstandingApprovals) :
    waiting id later = waiting id server := by
  simp only [waiting, h]

theorem waiting_le_one : waiting id server ≤ 1 := by
  unfold waiting
  split
  · split <;> simp
  · simp

theorem waiting_insert (stored : OutstandingApproval) :
    waiting id { server with
      outstandingApprovals := server.outstandingApprovals.insert
        stored.request.providerId.requestId stored } ≤
      (decide (stored.request.providerId = id)).toNat + waiting id server := by
  by_cases hid : stored.request.providerId = id
  · have hone := waiting_le_one id { server with
      outstandingApprovals := server.outstandingApprovals.insert
        stored.request.providerId.requestId stored }
    simp only [hid, decide_true, Bool.toNat_true]
    rw [hid] at hone
    omega
  · by_cases hkey : id.requestId = stored.request.providerId.requestId
    · have hzero : waiting id { server with
          outstandingApprovals := server.outstandingApprovals.insert
            stored.request.providerId.requestId stored } = 0 := by
        simp only [waiting]
        rw [hkey, lookup_insert]
        exact if_neg hid
      omega
    · simp only [waiting, lookup_insert_ne hkey]
      omega

theorem waiting_erase (key : String) :
    waiting id { server with outstandingApprovals := server.outstandingApprovals.erase key } =
      if id.requestId = key then 0 else waiting id server := by
  by_cases hkey : id.requestId = key
  · simp only [waiting]
    rw [hkey, lookup_erase, if_pos rfl]
  · simp only [waiting, lookup_erase_ne hkey, if_neg hkey]

theorem approvalRequest_balance (sent : Bool)
    (approval : CodexApprovalRequest) :
    let entry := (client digest).serve server (.approvalRequest sent approval)
    (answered id entry).toNat + waiting id entry.after ≤
      (received id entry).toNat + waiting id server := by
  intro entry
  have hreceived : received id entry = decide (approval.providerId = id) := rfl
  have hcases := @CodexAppServer.approvalRequest_cases server digest sent approval
  rcases hcases with hsame | ⟨hnone, -, hstored⟩
  · -- The request is not stored, and at most answered.
    have hafter : waiting id entry.after = waiting id server := congrArg (waiting id) hsame
    have hanswered : (answered id entry).toNat ≤ (received id entry).toNat := by
      cases hresponse :
          (server.approvalRequest digest sent approval).2.1 with
      | none =>
        have hentry : entry.answer = none := hresponse
        simp [answered, hentry]
      | some response =>
        have hentry : entry.answer = some response := hresponse
        have happroval := (approvalRequest_response hresponse).1
        simp [answered, hentry, happroval, hreceived]
    omega
  · have hentry : entry.answer = none := hnone
    have hanswered : (answered id entry).toNat = 0 := by
      simp [answered, hentry]
    have hafter : entry.after = _ := hstored
    rw [hanswered, hreceived, hafter, Nat.zero_add]
    exact waiting_insert id server ⟨approval, digest approval⟩

theorem resolveApproval_balance (sent : Bool)
    (approval : CodexApprovalRequest) (decision : CodexApprovalDecision) :
    let entry := (client digest).serve server (.resolveApproval sent approval decision)
    (answered id entry).toNat + waiting id entry.after ≤ waiting id server := by
  intro entry
  rcases @CodexAppServer.resolveApproval_server server digest sent approval
    decision with ⟨hsame, hnone⟩ | herased
  · have hentry : entry.answer = none := hnone
    have hafter : entry.after = server := hsame
    simp [answered, hentry, hafter]
  · have hafter : entry.after = _ := herased
    rw [hafter, waiting_erase]
    cases hresponse :
        (server.resolveApproval digest sent approval decision).2.1 with
    | none =>
      have hentry : entry.answer = none := hresponse
      simp only [answered, hentry, Bool.toNat_false, Nat.zero_add]
      split <;> omega
    | some response =>
      have hentry : entry.answer = some response := hresponse
      obtain ⟨rfl, -, stored, hstored, hprovider, -⟩ := resolveApproval_response hresponse
      by_cases hid : approval.providerId = id
      · subst hid
        simp [answered, hentry, waiting, hstored, hprovider]
      · simp only [answered, hentry, hid, decide_false, Bool.toNat_false, Nat.zero_add]
        split <;> omega

theorem outstanding_of_other {action : Action}
    (hrequest : ∀ sent approval, action ≠ .approvalRequest sent approval)
    (hresolve : ∀ sent approval decision, action ≠ .resolveApproval sent approval decision) :
    ((client digest).step server action).1.outstandingApprovals = server.outstandingApprovals ∧
      ((client digest).step server action).2 = none := by
  cases action with
  | addThread threadId mode =>
    refine ⟨?_, rfl⟩
    simp only [client, addThread]
    split <;> rfl
  | compactThread threadId =>
    exact ⟨quiet_compactThread.outstanding, rfl⟩
  | startTurn threadId mode turnId =>
    refine ⟨?_, rfl⟩
    simp only [client, startTurn]
    split
    · rfl
    · split <;> rfl
  | interrupt threadId turnId =>
    exact ⟨quiet_interrupt.outstanding, rfl⟩
  | popBuffered => exact ⟨rfl, rfl⟩
  | notification event =>
    exact ⟨(quiet_notification event).outstanding, rfl⟩
  | approvalRequest sent approval => exact absurd rfl (hrequest sent approval)
  | resolveApproval sent approval decision =>
    exact absurd rfl (hresolve sent approval decision)

theorem step_balance (action : Action) :
    (answered id ((client digest).serve server action)).toNat +
        waiting id ((client digest).step server action).1 ≤
      (received id ((client digest).serve server action)).toNat + waiting id server := by
  by_cases hrequest : ∃ sent approval, action = .approvalRequest sent approval
  · obtain ⟨sent, approval, rfl⟩ := hrequest
    exact approvalRequest_balance id server sent approval
  by_cases hresolve : ∃ sent approval decision, action = .resolveApproval sent approval decision
  · obtain ⟨sent, approval, decision, rfl⟩ := hresolve
    exact (resolveApproval_balance id server sent approval decision).trans (Nat.le_add_left _ _)
  push Not at hrequest hresolve
  obtain ⟨houtstanding, hanswer⟩ := @outstanding_of_other digest server action hrequest hresolve
  have hentry : ((client digest).serve server action).answer = none := hanswer
  rw [waiting_congr id houtstanding, answered, hentry]
  simp

theorem answered_le_received (actions : List Action) :
    ((client digest).log .new actions).countP (answered id) ≤
      ((client digest).log .new actions).countP (received id) := by
  have hbalance := @Service.countP_log_balance _ _ _ (client digest) .new
    actions _ _ _ (step_balance id)
  have hnew : waiting id new = 0 := rfl
  omega

end Counting

/-! ## Why an effect is allowed -/

section Allowing

variable {digest : CodexApprovalRequest → Sha256Digest}
  {server : CodexAppServer} {action : Action} {response : Response}

/-- The engine allowed the stored request, or edits are accepted. -/
def AllowedBecause (digest : CodexApprovalRequest → Sha256Digest)
    (server : CodexAppServer) (action : Action) (approval : CodexApprovalRequest) : Prop :=
  ∃ state, server.threads.lookup approval.threadId = some state ∧
    state.activeTurn = some approval.turnId ∧
    ((∃ sent stored, action = .resolveApproval sent approval .allow ∧
        server.outstandingApprovals.lookup approval.providerId.requestId =
          some stored ∧ stored.request.providerId = approval.providerId ∧
        stored.requestDigest = digest approval) ∨
      ∃ sent, action = .approvalRequest sent approval ∧
        approval.kind = .fileChange ∧ state.mode = .acceptEdits)

theorem allowedBecause_of_response (h : ((client digest).step server action).2 = some response)
    (hallow : response.decision = .allow) :
    AllowedBecause digest server action response.approval := by
  cases action with
  | approvalRequest sent approval =>
    obtain ⟨hsame, hauto⟩ := approvalRequest_response h
    obtain ⟨state, hstate, hturn, hkind, hmode⟩ := hauto hallow
    rw [hsame]
    exact ⟨state, hstate, hturn, .inr ⟨sent, rfl, hkind, hmode⟩⟩
  | resolveApproval sent approval decision =>
    obtain ⟨rfl, ⟨state, hstate, hturn⟩, stored, hstored, hprovider, hdigest⟩ :=
      resolveApproval_response h
    simp only at hallow
    subst hallow
    exact ⟨state, hstate, hturn, .inl ⟨sent, stored, rfl, hstored, hprovider, hdigest⟩⟩
  | addThread threadId mode | compactThread threadId | startTurn threadId mode turnId
  | interrupt threadId turnId | popBuffered | notification event => cases h

def withoutApprovals (mode : PermissionMode) : Bool :=
  mode = .plan ∨ mode = .dontAsk

/-- The stored requests of active turns are of modes that show requests, and
their digests are theirs. -/
structure Shown (digest : CodexApprovalRequest → Sha256Digest)
    (seen : List CodexApprovalRequest) (server : CodexAppServer) : Prop where
  stored : ∀ key stored, server.outstandingApprovals.lookup key = some stored →
      stored.requestDigest = digest stored.request ∧ stored.request ∈ seen
  mode : ∀ key stored state, server.outstandingApprovals.lookup key = some stored →
      server.threads.lookup stored.request.threadId = some state →
        state.activeTurn = some stored.request.turnId →
          withoutApprovals state.mode = false

/-- A new turn has a name that no stored request of its thread has. -/
def FreshTurn (server : CodexAppServer) : Action → Prop
  | .startTurn threadId _ turnId =>
    ∀ key stored, server.outstandingApprovals.lookup key = some stored →
      stored.request.threadId = threadId → stored.request.turnId ≠ turnId
  | _ => True

def requestOf : Action → List CodexApprovalRequest
  | .approvalRequest _ approval => [approval]
  | .resolveApproval _ approval _ => [approval]
  | _ => []

theorem Shown.quiet {later : CodexAppServer} (h : Shown digest seen server)
    (hquiet : server.Quiet later) : Shown digest seen later := by
  constructor
  · rw [hquiet.outstanding]
    exact h.stored
  · intro key stored state hstored hstate hactive
    rw [hquiet.outstanding] at hstored
    obtain ⟨old, hold, hmode, hturn⟩ := hquiet.threads _ state hstate
    rw [hmode]
    rcases hturn with hturn | hturn
    · exact h.mode key stored old hstored hold (hturn ▸ hactive)
    · rw [hturn] at hactive
      cases hactive

theorem withoutApprovals_of_surfaces {mode : PermissionMode} {kind : CodexApprovalKind}
    (h : surfaces mode kind = true) : withoutApprovals mode = false := by
  cases mode <;> simp_all [surfaces, withoutApprovals]

section

variable (h : Shown digest seen server)
include h

theorem Shown.addThread (threadId : CodexThreadId) (mode : PermissionMode) :
    Shown digest seen (server.addThread threadId mode) := by
  unfold CodexAppServer.addThread
  split
  · exact h
  · refine ⟨h.stored, ?_⟩
    intro key stored state hstored hstate hactive
    simp only [CodexAppServer.setThread] at hstate
    by_cases hthread : stored.request.threadId = threadId
    · rw [hthread, lookup_insert, Option.some.injEq] at hstate
      rw [← hstate] at hactive
      cases hactive
    · rw [lookup_insert_ne hthread] at hstate
      exact h.mode key stored state hstored hstate hactive

theorem Shown.startTurn {threadId : CodexThreadId} {mode : PermissionMode} {turnId : CodexTurnId}
    (hfresh : FreshTurn server (.startTurn threadId mode turnId)) :
    Shown digest seen (server.startTurn threadId mode turnId) := by
  unfold CodexAppServer.startTurn
  split
  · exact h
  · split
    · exact h
    · refine ⟨h.stored, ?_⟩
      intro key stored state hstored hstate hactive
      simp only [CodexAppServer.setThread] at hstate
      by_cases hthread : stored.request.threadId = threadId
      · rw [hthread, lookup_insert, Option.some.injEq] at hstate
        rw [← hstate, Option.some.injEq] at hactive
        exact absurd hactive.symm (hfresh key stored hstored hthread)
      · rw [lookup_insert_ne hthread] at hstate
        exact h.mode key stored state hstored hstate hactive

theorem Shown.approvalRequest {sent : Bool} {approval : CodexApprovalRequest}
    (hseen : approval ∈ seen) :
    Shown digest seen (server.approvalRequest digest sent approval).1 := by
  rcases @CodexAppServer.approvalRequest_cases server digest sent approval with
    hsame | ⟨-, ⟨shown, hshown, -, hsurface⟩, hstored⟩
  · rw [hsame]
    exact h
  · rw [hstored]
    constructor
    · intro key stored hlookup
      by_cases hkey : key = approval.providerId.requestId
      · rw [hkey, lookup_insert, Option.some.injEq] at hlookup
        subst hlookup
        exact ⟨rfl, hseen⟩
      · rw [lookup_insert_ne hkey] at hlookup
        exact h.stored key stored hlookup
    · intro key stored state hlookup hstate hactive
      by_cases hkey : key = approval.providerId.requestId
      · rw [hkey, lookup_insert, Option.some.injEq] at hlookup
        subst hlookup
        simp only [hshown, Option.some.injEq] at hstate
        subst hstate
        exact withoutApprovals_of_surfaces hsurface
      · rw [lookup_insert_ne hkey] at hlookup
        exact h.mode key stored state hlookup hstate hactive

theorem Shown.resolveApproval (sent : Bool) (approval : CodexApprovalRequest)
    (decision : CodexApprovalDecision) :
    Shown digest seen (server.resolveApproval digest sent approval decision).1 := by
  rcases @CodexAppServer.resolveApproval_server server digest sent approval
    decision with ⟨hsame, -⟩ | herased
  · rw [hsame]
    exact h
  · rw [herased]
    have hkept : ∀ key stored, (server.outstandingApprovals.erase
        approval.providerId.requestId).lookup key = some stored →
        server.outstandingApprovals.lookup key = some stored := by
      intro key stored hlookup
      by_cases hkey : key = approval.providerId.requestId
      · rw [hkey, lookup_erase] at hlookup
        cases hlookup
      · rwa [lookup_erase_ne hkey] at hlookup
    exact ⟨fun key stored hlookup => h.stored key stored (hkept _ _ hlookup),
      fun key stored state hlookup =>
        h.mode key stored state (hkept _ _ hlookup)⟩

theorem Shown.step (hseen : ∀ approval ∈ requestOf action, approval ∈ seen)
    (hfresh : FreshTurn server action) :
    Shown digest seen ((client digest).step server action).1 := by
  cases action with
  | addThread threadId mode => exact h.addThread threadId mode
  | compactThread threadId => exact h.quiet quiet_compactThread
  | startTurn threadId mode turnId => exact h.startTurn hfresh
  | interrupt threadId turnId => exact h.quiet quiet_interrupt
  | popBuffered => exact h.quiet (CodexAppServer.Quiet.of_eq rfl rfl)
  | notification event =>
    exact h.quiet (quiet_notification event)
  | approvalRequest sent approval =>
    exact h.approvalRequest (hseen approval (by simp [requestOf]))
  | resolveApproval sent approval decision =>
    exact h.resolveApproval sent approval decision

end

theorem shown_new (seen : List CodexApprovalRequest) : Shown digest seen .new := by
  constructor
  · intro key stored hstored
    cases hstored
  · intro key stored state hstored
    cases hstored

theorem Shown.not_allow (h : Shown digest seen server)
    (hcollision : ∀ first ∈ seen, ∀ second ∈ seen, digest first = digest second → first = second)
    (hseen : ∀ approval ∈ requestOf action, approval ∈ seen)
    (hresponse : ((client digest).step server action).2 = some response)
    (hallow : response.decision = .allow) :
    ∃ state, server.threads.lookup response.approval.threadId = some state ∧
      withoutApprovals state.mode = false := by
  obtain ⟨state, hstate, hturn, hcause⟩ := allowedBecause_of_response hresponse hallow
  refine ⟨state, hstate, ?_⟩
  rcases hcause with ⟨sent, stored, rfl, hstored, -, hdigest⟩ | ⟨sent, rfl, -, hmode⟩
  · obtain ⟨howned, hmember⟩ := h.stored _ stored hstored
    have hsame : stored.request = response.approval :=
      hcollision _ hmember _ (hseen _ (by simp [requestOf])) (howned.symm.trans hdigest)
    rw [← hsame] at hstate hturn
    exact h.mode _ stored state hstored hstate hturn
  · simp [hmode, withoutApprovals]

theorem Shown.log {actions : List Action} (h : Shown digest seen server)
    (hcollision : ∀ first ∈ seen, ∀ second ∈ seen, digest first = digest second → first = second)
    (hseen : ∀ approval ∈ actions.flatMap requestOf, approval ∈ seen)
    (hfresh : (client digest).Meets FreshTurn server actions) {entry : Entry}
    (hentry : entry ∈ (client digest).log server actions) (hresponse : entry.answer = some response)
    (hallow : response.decision = .allow) :
    ∃ state, entry.before.threads.lookup response.approval.threadId = some state ∧
        withoutApprovals state.mode = false := by
  induction actions generalizing server with
  | nil => cases hentry
  | cons action actions ih =>
    rw [List.flatMap_cons] at hseen
    have hfirst : ∀ approval ∈ requestOf action, approval ∈ seen :=
      fun approval hmem => hseen approval (List.mem_append_left _ hmem)
    have hrest : ∀ approval ∈ actions.flatMap requestOf, approval ∈ seen :=
      fun approval hmem => hseen approval (List.mem_append_right _ hmem)
    rcases List.mem_cons.mp hentry with rfl | hentry
    · exact h.not_allow hcollision hfirst hresponse hallow
    · exact ih (h.step hfirst hfresh.1) hrest hfresh.2 hentry

/-- While the turns of a thread have different names: a request is answered at
most once, an effect is allowed only in the active turn and for a reason, and
never in a mode without approvals. -/
theorem answers_of_fresh_turns
    (digest : CodexApprovalRequest → Sha256Digest) (actions : List Action)
    (hcollision : ∀ first ∈ actions.flatMap requestOf, ∀ second ∈ actions.flatMap requestOf,
        digest first = digest second → first = second)
    (hfresh : (client digest).Meets FreshTurn .new actions) :
    (∀ id, ((client digest).log .new actions).countP (answered id) ≤
      ((client digest).log .new actions).countP (received id)) ∧
    ∀ entry ∈ (client digest).log .new actions, ∀ response,
      entry.answer = some response → response.decision = .allow →
        AllowedBecause digest entry.before entry.call response.approval ∧
        ∀ state, entry.before.threads.lookup response.approval.threadId =
          some state → state.mode ≠ .plan ∧ state.mode ≠ .dontAsk := by
  refine ⟨fun id => answered_le_received id actions, ?_⟩
  intro entry hentry response hresponse hallow
  constructor
  · obtain ⟨before, action, after, -, rfl⟩ := Service.mem_log.mp hentry
    exact allowedBecause_of_response hresponse hallow
  · intro state hstate
    obtain ⟨found, hfound, hmode⟩ := (shown_new _).log hcollision
      (fun _ hmem => hmem) hfresh hentry hresponse hallow
    rw [hstate, Option.some.injEq] at hfound
    subst hfound
    simpa [withoutApprovals] using hmode

def commandRequest (id : Nat) (command : String) : CodexApprovalRequest :=
  { providerId := .number id, threadId := "t", turnId := "u", kind := .command, rest := command }

/-- A digest that tells the two commands below apart. -/
def commandDigest (approval : CodexApprovalRequest) : Sha256Digest := ⟨approval.rest.length⟩

def commandsShown : List Action :=
  [.addThread "t" .default, .startTurn "t" .default "u",
    .approvalRequest true (commandRequest 7 "ls"), .approvalRequest true (commandRequest 8 "make")]

def allowList : Action := .resolveApproval true (commandRequest 7 "ls") .allow

theorem commandsShown_fresh :
    (client commandDigest).Meets FreshTurn .new (commandsShown ++ [allowList]) := by
  refine ⟨trivial, ?_, trivial, trivial, trivial, trivial⟩
  intro key stored hstored
  cases hstored

theorem answers_of_fresh_turns_command : AllowedBecause commandDigest
      ((client commandDigest).run .new commandsShown) allowList (commandRequest 7 "ls") := by
  have hanswers := (answers_of_fresh_turns commandDigest (commandsShown ++ [allowList])
    (by decide +kernel) commandsShown_fresh).2
  have hentry : (client commandDigest).serve ((client commandDigest).run .new commandsShown)
      allowList ∈ (client commandDigest).log .new (commandsShown ++ [allowList]) :=
    Service.mem_log.mpr ⟨commandsShown, _, [], rfl, rfl⟩
  exact (hanswers _ hentry ⟨commandRequest 7 "ls", .allow⟩ (by decide +kernel) rfl).1

/-- The stored request of an interrupted turn is allowed in a turn of the same
name, though its mode has no approvals. -/
theorem stale_request_allowed_in_plan : ∃ entry ∈ (client commandDigest).log .new
        (commandsShown ++ [.interrupt "t" "u", .startTurn "t" .plan "u", allowList]),
      entry.answer = some ⟨commandRequest 7 "ls", .allow⟩ ∧
        (entry.before.threads.lookup "t").map (·.mode) = some PermissionMode.plan := by
  refine ⟨_, Service.mem_log.mpr ⟨commandsShown ++ [.interrupt "t" "u", .startTurn "t" .plan "u"],
      allowList, [], rfl, rfl⟩, ?_, ?_⟩
  · decide +kernel
  · decide +kernel

end Allowing

end CarlAgent.Codex
