import CarlAgent.Foundation.Check
import CarlAgent.Foundation.Service

/-!
# Cloud commands

The record of a command is claimed, and its claim is completed, failed or,
once it is expired, reconciled.  Each of these steps is signed for, and it is
prepared for one revision of the record.  A time is the instant that its
canonical text stands for.
-/

namespace CarlAgent.Cloud

open Foundation Service

abbrev Instant := Int

inductive Authority where
  | builder
  | validator
  | promoter
  | soak
  | supervisor
  | coordinator
  | observer
  deriving DecidableEq, Repr

inductive ScopeKind where
  | command
  | deadHolderObservation
  | evidence
  | event
  | health
  | lease
  | manifest
  | supervisorTrigger
  deriving DecidableEq, Repr

inductive CapabilityAction where
  | appendEvent
  | acquireLease
  | claimCommand
  | claimSupervisorTrigger
  | completeCommand
  | completeCommandWithEvent
  | createCommand
  | failCommand
  | reconcileExpiredClaim
  | reconcileLease
  | recordHealth
  | registerEvidence
  | registerDeadHolderObservation
  | registerManifest
  | releaseLease
  | resolveSupervisorTrigger
  deriving DecidableEq, Repr

inductive CommandStatus where
  | pending
  | claimed
  | completed
  | failed
  deriving DecidableEq, Repr

inductive CloudStateError where
  | authorityCapabilityNotYetValid
  | authorityCapabilityExpired
  | authorityCapabilityMismatch
  | deadHolderObservationFuture
  | deadHolderObservationExpired
  | deadHolderObservationLive
  | deadHolderObservationMismatch
  | trustedAuthorityKeyMismatch
  | trustedAuthoritySignatureInvalid
  | trustedClockInvalid
  | invalidPendingCommandState
  | invalidStateClaim
  | stateClaimCommandMismatch
  | commandAuthorityDenied
  | invalidClaimedCommandState
  | invalidStateTransition
  | stateTransitionMismatch
  | stateResultMismatch
  | claimCommandMismatch
  | commandClaimExpired
  | commandNotClaimable
  | commandCasMismatch
  | transitionStatusMismatch
  | commandResultConflict
  | commandFailureConflict
  | commandNotCompletable
  | transitionClaimMismatch
  | transitionClaimRevisionMismatch
  | commandNotReconcilable
  | claimReconciliationMismatch
  | commandClaimActive
  deriving DecidableEq, Repr

structure Scope where
  authority : Authority
  subjectId : String
  scopeKind : ScopeKind
  scopeKey : String
  revision : Nat
  deriving DecidableEq

structure AuthorityCapability where
  action : CapabilityAction
  scope : Scope
  issuedAt : Instant
  expiresAt : Instant
  keyId : String
  signature : List UInt8

structure DeadHolderObservation where
  scope : Scope
  issuedAt : Instant
  observedAt : Instant
  expiresAt : Instant
  live : Bool
  keyId : String
  signature : List UInt8

/-- The two trusted keys, and which envelopes they verify. -/
structure AuthorityVerifier where
  authorityKeyId : String
  verifiesCapability : AuthorityCapability → Bool
  deadHolderKeyId : String
  verifiesObservation : DeadHolderObservation → Bool

def AuthorityVerifier.requireAuthorityAt (verifier : AuthorityVerifier)
    (capability : AuthorityCapability) (now : Instant) (action : CapabilityAction) (scope : Scope) :
    Except CloudStateError Unit := do
  rejectIf (now < capability.issuedAt) .authorityCapabilityNotYetValid
  rejectIf (now ≥ capability.expiresAt) .authorityCapabilityExpired
  rejectIf (capability.keyId ≠ verifier.authorityKeyId) .trustedAuthorityKeyMismatch
  rejectIf (¬ verifier.verifiesCapability capability) .trustedAuthoritySignatureInvalid
  rejectIf (capability.action ≠ action ∨ capability.scope ≠ scope) .authorityCapabilityMismatch

def AuthorityVerifier.requireDeadHolderAt (verifier : AuthorityVerifier)
    (observation : DeadHolderObservation) (now : Instant) (scope : Scope) :
    Except CloudStateError Unit := do
  rejectIf (now < observation.issuedAt ∨ now < observation.observedAt) .deadHolderObservationFuture
  rejectIf (now ≥ observation.expiresAt) .deadHolderObservationExpired
  rejectIf observation.live .deadHolderObservationLive
  rejectIf (observation.keyId ≠ verifier.deadHolderKeyId) .trustedAuthorityKeyMismatch
  rejectIf (¬ verifier.verifiesObservation observation) .trustedAuthoritySignatureInvalid
  rejectIf (observation.scope ≠ scope) .deadHolderObservationMismatch

structure CloudCommand where
  commandKey : String
  authority : Authority
  expectedRevision : Nat
  deriving DecidableEq

structure CommandClaim where
  commandKey : String
  claimId : String
  authority : Authority
  expectedRevision : Nat
  claimedAt : Instant
  expiresAt : Instant
  deriving DecidableEq

structure ClaimReconciliation where
  commandKey : String
  claimId : String
  authority : Authority
  expectedRevision : Nat
  nextRevision : Nat
  observedAt : Instant
  succeeds : nextRevision = expectedRevision + 1
  deriving DecidableEq

structure StateTransition where
  commandKey : String
  authority : Authority
  claimId : String
  expectedRevision : Nat
  nextRevision : Nat
  status : CommandStatus
  occurredAt : Instant
  resultDigest : Option String
  failureCode : Option String
  succeeds : nextRevision = expectedRevision + 1
  shaped : (status = .completed ∧ resultDigest ≠ none ∧ failureCode = none) ∨
    (status = .failed ∧ resultDigest = none ∧ failureCode ≠ none)
  deriving DecidableEq

structure CommandState where
  command : CloudCommand
  revision : Nat
  status : CommandStatus
  claim : Option CommandClaim
  transition : Option StateTransition
  resultDigest : Option String
  failureCode : Option String
  deriving DecidableEq

def CommandState.postInit (state : CommandState) : Except CloudStateError Unit :=
  if state.status = .pending then
    rejectIf (state.revision < state.command.expectedRevision ∨
      state.claim ≠ none ∨ state.transition ≠ none ∨
      state.resultDigest ≠ none ∨ state.failureCode ≠ none) .invalidPendingCommandState
  else do
    let claim ← requireSome state.claim .invalidStateClaim
    rejectIf (claim.commandKey ≠ state.command.commandKey) .stateClaimCommandMismatch
    rejectIf (claim.authority ≠ state.command.authority) .commandAuthorityDenied
    if state.status = .claimed then
      rejectIf (state.revision ≠ claim.expectedRevision + 1 ∨
        state.transition ≠ none ∨ state.resultDigest ≠ none ∨
        state.failureCode ≠ none) .invalidClaimedCommandState
    else do
      let transition ← requireSome state.transition .invalidStateTransition
      rejectIf (transition.commandKey ≠ state.command.commandKey ∨
        transition.claimId ≠ claim.claimId ∨
        transition.authority ≠ state.command.authority ∨
        transition.nextRevision ≠ state.revision ∨
        transition.status ≠ state.status ∨
        transition.expectedRevision ≠ claim.expectedRevision + 1) .stateTransitionMismatch
      rejectIf (state.resultDigest ≠ transition.resultDigest ∨
        state.failureCode ≠ transition.failureCode) .stateResultMismatch

def CommandState.new (state : CommandState) : Except CloudStateError CommandState := do
  state.postInit
  .ok state

def createCommandState (command : CloudCommand) : CommandState :=
  ⟨command, command.expectedRevision, .pending, none, none, none, none⟩

section Steps

variable (verifier : AuthorityVerifier) (capability : AuthorityCapability)
  (clock : Option Instant) (state : CommandState)

def CommandState.scope (subjectId : String) (revision : Nat) : Scope :=
  ⟨state.command.authority, subjectId, .command, state.command.commandKey, revision⟩

def claimCommand (claim : CommandClaim) : Except CloudStateError CommandState := do
  rejectIf (state.command.commandKey ≠ claim.commandKey) .claimCommandMismatch
  rejectIf (state.command.authority ≠ claim.authority) .commandAuthorityDenied
  let observed ← requireSome clock .trustedClockInvalid
  verifier.requireAuthorityAt capability observed .claimCommand
    (state.scope claim.claimId state.revision)
  rejectIf (observed ≥ claim.expiresAt) .commandClaimExpired
  if state.status = .claimed ∧ state.claim = some claim then .ok state
  else do
    rejectIf (state.status ≠ .pending) .commandNotClaimable
    rejectIf (state.revision ≠ claim.expectedRevision) .commandCasMismatch
    CommandState.new ⟨state.command, state.revision + 1, .claimed, some claim, none, none, none⟩

variable (transition : StateTransition)

def terminalSuccessor (expectedStatus : CommandStatus)
    (action : CapabilityAction) : Except CloudStateError CommandState := do
  rejectIf (transition.status ≠ expectedStatus) .transitionStatusMismatch
  let observed ← requireSome clock .trustedClockInvalid
  let expired := fun claim : CommandClaim => decide (observed ≥ claim.expiresAt)
  if state.status = expectedStatus then do
    verifier.requireAuthorityAt capability observed action
      (state.scope ((state.claim.map CommandClaim.claimId).getD
        transition.claimId) transition.expectedRevision)
    rejectIf (state.claim.any expired) .commandClaimExpired
    if state.transition = some transition then .ok state
    else if expectedStatus = .completed then .error .commandResultConflict
    else .error .commandFailureConflict
  else do
    rejectIf (state.status ≠ .claimed) .commandNotCompletable
    let claim ← requireSome state.claim .commandNotCompletable
    rejectIf (transition.commandKey ≠ state.command.commandKey ∨
      transition.claimId ≠ claim.claimId ∨
      transition.authority ≠ state.command.authority) .transitionClaimMismatch
    rejectIf (transition.expectedRevision ≠ claim.expectedRevision + 1)
      .transitionClaimRevisionMismatch
    rejectIf (transition.expectedRevision ≠ state.revision) .commandCasMismatch
    verifier.requireAuthorityAt capability observed action
      (state.scope claim.claimId transition.expectedRevision)
    rejectIf (expired claim) .commandClaimExpired
    CommandState.new ⟨state.command, transition.nextRevision, transition.status, some claim, some
      transition, transition.resultDigest, transition.failureCode⟩

def completeCommand : Except CloudStateError CommandState :=
  terminalSuccessor verifier capability clock state transition .completed .completeCommand

def failCommand : Except CloudStateError CommandState :=
  terminalSuccessor verifier capability clock state transition .failed .failCommand

def reconcileExpiredClaim (reconciliation : ClaimReconciliation)
    (deadHolder : DeadHolderObservation) : Except CloudStateError CommandState := do
  rejectIf (state.status ≠ .claimed) .commandNotReconcilable
  let claim ← requireSome state.claim .commandNotReconcilable
  rejectIf (reconciliation.commandKey ≠ state.command.commandKey ∨
    reconciliation.claimId ≠ claim.claimId ∨
    reconciliation.authority ≠ state.command.authority) .claimReconciliationMismatch
  rejectIf (reconciliation.expectedRevision ≠ state.revision) .commandCasMismatch
  let observed ← requireSome clock .trustedClockInvalid
  let scope := state.scope claim.claimId reconciliation.expectedRevision
  verifier.requireAuthorityAt capability observed .reconcileExpiredClaim scope
  rejectIf (observed < claim.expiresAt) .commandClaimActive
  verifier.requireDeadHolderAt deadHolder observed scope
  rejectIf (reconciliation.observedAt ≠ deadHolder.observedAt) .deadHolderObservationMismatch
  CommandState.new ⟨state.command, reconciliation.nextRevision, .pending, none, none, none, none⟩

end Steps

inductive CommandStep where
  | claim (claim : CommandClaim)
  | complete (transition : StateTransition)
  | fail (transition : StateTransition)
  | reconcile (reconciliation : ClaimReconciliation) (deadHolder : DeadHolderObservation)

structure CommandCall where
  step : CommandStep
  capability : AuthorityCapability
  clock : Option Instant

def CommandCall.apply (verifier : AuthorityVerifier) (call : CommandCall)
    (state : CommandState) : Except CloudStateError CommandState :=
  match call.step with
  | .claim claim =>
    claimCommand verifier call.capability call.clock state claim
  | .complete transition =>
    completeCommand verifier call.capability call.clock state transition
  | .fail transition =>
    failCommand verifier call.capability call.clock state transition
  | .reconcile reconciliation deadHolder =>
    reconcileExpiredClaim verifier call.capability call.clock state reconciliation deadHolder

/-- Workers and reconcilers take turns on the record of one command. -/
def commandService (verifier : AuthorityVerifier) :
    Service CommandState CommandCall (Except CloudStateError Unit) where
  step state call := transact (fun state => (call.apply verifier state).map (·, ())) state

variable {verifier : AuthorityVerifier} {state next : CommandState}
  {call : CommandCall} {transition : StateTransition} {claim : CommandClaim}

def CommandCall.transition? (call : CommandCall) : Option StateTransition :=
  match call.step with
  | .complete transition => some transition
  | .fail transition => some transition
  | _ => none

/-- A transition that the holder of the claim prepares while it holds it. -/
structure StateTransition.PreparedFor (transition : StateTransition)
    (claim : CommandClaim) : Prop where
  commandKey : transition.commandKey = claim.commandKey
  claimId : transition.claimId = claim.claimId
  authority : transition.authority = claim.authority
  revision : transition.expectedRevision = claim.expectedRevision + 1

/-- The transition is for the claim of the record, which is not expired. -/
def CommandCall.Current (call : CommandCall) (state : CommandState)
    (transition : StateTransition) : Prop :=
  ∃ claim now, state.claim = some claim ∧ transition.PreparedFor claim ∧
    call.clock = some now ∧ now < claim.expiresAt

structure CommandCall.Accepted (call : CommandCall) (state next : CommandState) : Prop where
  valid : next.postInit = .ok ()
  moves : next = state ∨
    (state.status = .pending ∨ state.status = .claimed) ∧
      next.revision = state.revision + 1 ∧
      ∀ transition, next.transition = some transition → transition.expectedRevision = state.revision
  current : ∀ transition, call.transition? = some transition →
    call.Current state transition ∧ (state.transition = some transition ∨
      transition.expectedRevision = state.revision)
  reconciles : ∀ reconciliation deadHolder, call.step = .reconcile reconciliation deadHolder →
      state.status = .claimed ∧ next ≠ state ∧ next.transition = none

theorem CommandState.new_eq_ok : state.new = .ok next ↔ state.postInit = .ok () ∧ state = next := by
  rw [CommandState.new, bind_eq_ok]
  constructor
  · rintro ⟨⟨⟩, hvalid, hnext⟩
    exact ⟨hvalid, Except.ok.inj hnext⟩
  · rintro ⟨hvalid, rfl⟩
    exact ⟨(), hvalid, rfl⟩

/-- The claim of an accepted record is behind its revision, and the transition
that ended the record was prepared for it. -/
theorem CommandState.claim_of_postInit (h : state.postInit = .ok ())
    (hstatus : state.status ≠ .pending) : ∃ claim, state.claim = some claim ∧
      claim.commandKey = state.command.commandKey ∧
      claim.authority = state.command.authority ∧
      claim.expectedRevision < state.revision ∧
      ∀ transition, state.transition = some transition →
        transition.PreparedFor claim := by
  simp only [CommandState.postInit, hstatus, if_false, ok_iff, ne_eq, not_not] at h
  obtain ⟨claim, hclaim, hkey, hauthority, h⟩ := h
  refine ⟨claim, hclaim, hkey, hauthority, ?_⟩
  split at h
  · simp only [rejectIf_eq_ok, not_or, not_not] at h
    exact ⟨by omega, by simp [h.2.1]⟩
  · simp only [ok_iff, not_or, not_not] at h
    obtain ⟨stored, hstored, ⟨hcommand, hid, howner, hnext, -, hexpected⟩, -⟩ := h
    have hsucceeds := stored.succeeds
    refine ⟨by omega, ?_⟩
    rintro transition htransition
    cases hstored.symm.trans htransition
    exact ⟨hcommand.trans hkey.symm, hid, howner.trans hauthority.symm, hexpected⟩

theorem terminalSuccessor_accepted {capability : AuthorityCapability}
    {status : CommandStatus} {action : CapabilityAction}
    (hvalid : state.postInit = .ok ())
    (hgiven : call.transition? = some transition)
    (hterminal : status = .completed ∨ status = .failed)
    (h : terminalSuccessor verifier capability call.clock state transition
      status action = .ok next) : call.Accepted state next := by
  have haside : ∀ reconciliation deadHolder, call.step ≠ .reconcile reconciliation deadHolder := by
    intro reconciliation deadHolder hstep
    simp [CommandCall.transition?, hstep] at hgiven
  simp only [terminalSuccessor, ok_iff] at h
  obtain ⟨-, now, hclock, h⟩ := h
  split at h
  next hstatus =>
    -- The record has ended: the call repeats the transition that ended it.
    obtain ⟨claim, hclaim, -, -, -, hprepared⟩ := CommandState.claim_of_postInit hvalid
        (by rcases hterminal with h | h <;> simp [hstatus, h])
    simp only [ok_iff, hclaim, Option.any_some, decide_eq_true_eq, ge_iff_le, Int.not_le] at h
    obtain ⟨-, -, hexpiry, h⟩ := h
    split at h
    next hstored =>
      cases h
      refine ⟨hvalid, .inl rfl, ?_, fun r d hstep => absurd hstep (haside r d)⟩
      intro given hcall
      cases hgiven.symm.trans hcall
      exact ⟨⟨claim, now, hclaim, hprepared _ hstored, hclock, hexpiry⟩, .inl hstored⟩
    next => split at h <;> cases h
  next =>
    simp only [ok_iff, ne_eq, not_or, not_not, decide_eq_true_eq, ge_iff_le, Int.not_le,
      CommandState.new_eq_ok] at h
    obtain ⟨hstatus, claim, hclaim, ⟨hkey, hid, howner⟩, hprepared, hexpected,
      -, -, hexpiry, hnext, rfl⟩ := h
    obtain ⟨found, hfound, hkey', howner', -⟩ :=
      CommandState.claim_of_postInit hvalid (by simp [hstatus])
    cases hclaim.symm.trans hfound
    refine ⟨hnext, .inr ⟨.inr hstatus, ?_, ?_⟩, ?_, fun r d hstep => absurd hstep (haside r d)⟩
    · rw [← hexpected]
      exact transition.succeeds
    · rintro given ⟨⟩
      exact hexpected
    · intro given hcall
      cases hgiven.symm.trans hcall
      exact ⟨⟨claim, now, hclaim, ⟨hkey.trans hkey'.symm, hid,
        howner.trans howner'.symm, hprepared⟩, hclock, hexpiry⟩, .inr hexpected⟩

theorem CommandCall.apply_accepted (hvalid : state.postInit = .ok ())
    (h : call.apply verifier state = .ok next) : call.Accepted state next := by
  cases hstep : call.step with
  | claim claim =>
    simp only [CommandCall.apply, hstep, claimCommand, ok_iff] at h
    obtain ⟨-, -, now, -, -, -, -, h⟩ := h
    split at h
    · cases h
      exact ⟨hvalid, .inl rfl, by simp [CommandCall.transition?, hstep],
        by simp [hstep]⟩
    · simp only [ok_iff, ne_eq, not_not, CommandState.new_eq_ok] at h
      obtain ⟨hstatus, -, hnext, rfl⟩ := h
      exact ⟨hnext, .inr ⟨.inl hstatus, rfl, by simp⟩,
        by simp [CommandCall.transition?, hstep], by simp [hstep]⟩
  | complete transition =>
    rw [CommandCall.apply, hstep] at h
    exact terminalSuccessor_accepted hvalid (by simp [CommandCall.transition?, hstep]) (.inl rfl) h
  | fail transition =>
    rw [CommandCall.apply, hstep] at h
    exact terminalSuccessor_accepted hvalid (by simp [CommandCall.transition?, hstep]) (.inr rfl) h
  | reconcile reconciliation deadHolder =>
    simp only [CommandCall.apply, hstep, reconcileExpiredClaim, ok_iff, ne_eq, not_not,
      CommandState.new_eq_ok] at h
    obtain ⟨hstatus, claim, -, -, hexpected, now, -, -, -, -, -, -, -, hnext, rfl⟩ := h
    refine ⟨hnext, .inr ⟨.inr hstatus, ?_, by simp⟩,
      by simp [CommandCall.transition?, hstep], ?_⟩
    · rw [← hexpected]
      exact reconciliation.succeeds
    · intro _ _ _
      refine ⟨hstatus, ?_, rfl⟩
      intro heq
      cases (congrArg CommandState.status heq).trans hstatus

theorem commandService_cases (verifier : AuthorityVerifier) (call : CommandCall)
    (hvalid : state.postInit = .ok ()) : (∃ next, call.Accepted state next ∧
      (commandService verifier).step state call = (next, .ok ())) ∨
    ∃ error, (commandService verifier).step state call = (state, .error error) := by
  rcases transact_cases (fun state => (call.apply verifier state).map (·, ()))
    state with ⟨next, answer, hbody, hstep⟩ | ⟨error, -, hstep⟩
  · simp only [map_eq_ok_iff, Prod.mk.injEq] at hbody
    obtain ⟨_, happly, rfl, -⟩ := hbody
    exact .inl ⟨_, CommandCall.apply_accepted hvalid happly, hstep⟩
  · exact .inr ⟨error, hstep⟩

theorem postInit_step (verifier : AuthorityVerifier) (state : CommandState) (call : CommandCall)
    (hvalid : state.postInit = .ok ()) :
    ((commandService verifier).step state call).1.postInit = .ok () := by
  rcases commandService_cases verifier call hvalid with
    ⟨next, haccepted, hstep⟩ | ⟨error, hstep⟩
  · rw [hstep]
    exact haccepted.valid
  · rw [hstep]
    exact hvalid

theorem postInit_run (verifier : AuthorityVerifier) (command : CloudCommand)
    (calls : List CommandCall) :
    ((commandService verifier).run (createCommandState command) calls).postInit = .ok () :=
  run_invariant (postInit_step verifier) (by simp [createCommandState, CommandState.postInit])

/-- Every later transition is prepared for a revision after `revision`. -/
structure CommandState.Fenced (revision : Nat) (state : CommandState) : Prop where
  valid : state.postInit = .ok ()
  passed : revision < state.revision
  after : ∀ transition, state.transition = some transition → revision < transition.expectedRevision

theorem CommandState.Fenced.step {revision : Nat} (verifier : AuthorityVerifier)
    (state : CommandState) (call : CommandCall) (h : state.Fenced revision) :
    ((commandService verifier).step state call).1.Fenced revision := by
  rcases commandService_cases verifier call h.valid with
    ⟨next, haccepted, hstep⟩ | ⟨error, hstep⟩
  · rw [hstep]
    rcases haccepted.moves with rfl | ⟨-, hrevision, hafter⟩
    · exact h
    · have hpassed := h.passed
      refine ⟨haccepted.valid, by simp only; omega, ?_⟩
      intro transition htransition
      exact (hafter transition htransition).symm ▸ hpassed
  · rw [hstep]
    exact h

def accepts (entry : Service.Entry CommandState CommandCall (Except CloudStateError Unit)) : Prop :=
  entry.answer = .ok ()

/-- Every accepted step was prepared for the current claim, and a reconciled claim accepts no
further one. -/
theorem command_steps_fenced (verifier : AuthorityVerifier) (command : CloudCommand)
    (calls : List CommandCall) :
    (∀ entry ∈ (commandService verifier).log (createCommandState command) calls,
      entry.after.postInit = .ok () ∧ (entry.after = entry.before ∨
        entry.after.revision = entry.before.revision + 1) ∧
      (entry.before.status = .completed ∨ entry.before.status = .failed →
        entry.after = entry.before) ∧
      ∀ transition, entry.call.transition? = some transition →
        accepts entry → entry.call.Current entry.before transition) ∧
    ∀ earlier reconciling later reconciliation deadHolder claim,
      calls = earlier ++ reconciling :: later →
      reconciling.step = .reconcile reconciliation deadHolder →
      ((commandService verifier).run (createCommandState command) earlier).claim = some claim →
      accepts ((commandService verifier).serve ((commandService verifier).run
        (createCommandState command) earlier) reconciling) →
      ∀ entry ∈ (commandService verifier).log ((commandService verifier).run
          (createCommandState command) (earlier ++ [reconciling])) later,
        ∀ transition, entry.call.transition? = some transition →
          transition.PreparedFor claim → ¬ accepts entry := by
  constructor
  · intro entry hentry
    obtain ⟨earlier, call, later, -, rfl⟩ := mem_log.mp hentry
    rcases commandService_cases verifier call (postInit_run verifier command earlier) with
      ⟨next, haccepted, hstep⟩ | ⟨error, hstep⟩
    · simp only [serve, hstep]
      refine ⟨haccepted.valid, ?_, ?_, ?_⟩
      · rcases haccepted.moves with h | ⟨-, h, -⟩
        · exact .inl h
        · exact .inr h
      · intro hfinal
        rcases haccepted.moves with h | ⟨hopen, -⟩
        · exact h
        · rcases hopen with h | h <;> simp [h] at hfinal
      · intro transition hgiven _
        exact (haccepted.current transition hgiven).1
    · simp only [serve, hstep]
      refine ⟨postInit_run verifier command earlier, .inl trivial, fun _ => trivial, ?_⟩
      intro transition _ haccepts
      simp [accepts] at haccepts
  · intro earlier reconciling later reconciliation deadHolder claim _ hcall
      hclaim haccepts entry hentry transition hgiven hprepared hentryAccepts
    have hvalid := postInit_run verifier command earlier
    obtain ⟨before, call, after, -, rfl⟩ := mem_log.mp hentry
    have hfenced : (((commandService verifier).run (createCommandState command)
        (earlier ++ [reconciling]))).Fenced (claim.expectedRevision + 1) := by
      rw [run_append]
      rcases commandService_cases verifier reconciling hvalid with
        ⟨next, haccepted, hstep⟩ | ⟨error, hstep⟩
      · obtain ⟨hstatus, hmoves, hnone⟩ := haccepted.reconciles _ _ hcall
        obtain ⟨found, hfound, -, -, hbehind, -⟩ :=
          CommandState.claim_of_postInit hvalid (by simp [hstatus])
        cases hclaim.symm.trans hfound
        obtain ⟨-, hrevision, -⟩ := haccepted.moves.resolve_left hmoves
        simp only [run, hstep]
        exact ⟨haccepted.valid, by omega, by simp [hnone]⟩
      · simp [accepts, serve, hstep] at haccepts
    have hlater : ((commandService verifier).run _ before).Fenced _ :=
      run_invariant (CommandState.Fenced.step verifier) hfenced
    rcases commandService_cases verifier call hlater.valid with
      ⟨next, haccepted, -⟩ | ⟨error, hstep⟩
    · have hrevision := hprepared.revision
      rcases (haccepted.current transition hgiven).2 with hstored | hexpected
      · have hafter := hlater.after transition hstored
        omega
      · have hpassed := hlater.passed
        omega
    · simp [accepts, serve, hstep] at hentryAccepts

namespace Reclaimed

def signature : List UInt8 := List.replicate 64 7

def keys : AuthorityVerifier :=
  ⟨"authority-1", (·.signature == signature), "observer-1", (·.signature == signature)⟩

def command : CloudCommand := ⟨"build-1", .builder, 1⟩

variable (revision : Nat)

def scope : Scope := ⟨.builder, "worker-1", .command, "build-1", revision⟩

def signed (action : CapabilityAction) (revision : Nat) (now : Instant) (step : CommandStep) :
    CommandCall :=
  ⟨step, ⟨action, scope revision, 0, 100, "authority-1", signature⟩, some now⟩

/-- Every claim has the same identifier and holds for ten seconds. -/
def claimed (now : Instant) : CommandClaim :=
  ⟨"build-1", "worker-1", .builder, revision, now, now + 10⟩

def take (now : Instant) : CommandCall :=
  signed .claimCommand revision now (.claim (claimed revision now))

def reconcile : CommandCall :=
  signed .reconcileExpiredClaim 2 20 (.reconcile ⟨"build-1", "worker-1", .builder, 2, 3, 15, rfl⟩
    ⟨scope 2, 15, 15, 100, false, "observer-1", signature⟩)

def finished : StateTransition where
  commandKey := "build-1"
  authority := .builder
  claimId := "worker-1"
  expectedRevision := revision
  nextRevision := revision + 1
  status := .completed
  occurredAt := 5
  resultDigest := some (.ofList (List.replicate 64 'a'))
  failureCode := none
  succeeds := rfl
  shaped := by simp

def complete : CommandCall :=
  signed .completeCommand revision 25 (.complete (finished revision))

theorem command_steps_fenced_reclaimed :
    let serve := fun calls => (commandService keys).serve
      ((commandService keys).run (createCommandState command) calls)
    accepts (serve [take 1 0] reconcile) ∧
      accepts (serve [take 1 0, reconcile] (take 3 20)) ∧
      ¬ accepts (serve [take 1 0, reconcile, take 3 20] (complete 2)) ∧
      accepts (serve [take 1 0, reconcile, take 3 20] (complete 4)) := by
  refine ⟨rfl, rfl, ?_, rfl⟩
  exact (command_steps_fenced keys command
    [take 1 0, reconcile, take 3 20, complete 2]).2 [take 1 0] reconcile
    [take 3 20, complete 2] _ _ (claimed 1 0) rfl rfl rfl rfl _
    (mem_log.mpr ⟨[take 3 20], complete 2, [], rfl, rfl⟩) (finished 2) rfl ⟨rfl, rfl, rfl, rfl⟩

end Reclaimed

end CarlAgent.Cloud
