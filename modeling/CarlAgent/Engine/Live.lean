import CarlAgent.Engine.Runtime

/-!
# The runtime and its journal

The engine changes its runtime together with the events that it appends, and
after a stop it rebuilds the runtime from the journal.  The steps below append
the events that the rebuilding reads; a failure between an event and its change
in memory, which does not stop the engine, is not modelled.  What else the
engine does is left open, as long as it leaves that part alone.
-/

namespace CarlAgent.Engine

open Foundation CarlAgent.Task Storage

/-! ## Steps of the engine -/

def recordUsage (runtime : RuntimeTask) (epochId : EpochId) (usage : AgentUsage) :
    RuntimeTask × TaskEvent :=
  ({ runtime with
      observedTotalTokens := some usage.lastTotalTokens
      estimatedTokensSinceUsage := 0
      observedContextWindow := usage.modelContextWindow.or runtime.observedContextWindow },
    .usageObserved epochId usage.lastTotalTokens usage.modelContextWindow)

def recordEstimatedUsage (runtime : RuntimeTask) (epochId : EpochId) :
    Except TaskEngineErrorCode (RuntimeTask × TaskEvent) := do
  let totalTokens ← requireSome (checkedAdd (runtime.observedTotalTokens.getD 0)
    runtime.estimatedTokensSinceUsage) .invalidTask
  .ok ({ runtime with
      observedTotalTokens := some totalTokens
      estimatedTokensSinceUsage := 0 },
    .usageObserved epochId totalTokens runtime.observedContextWindow)

def accountEstimatedTokens (runtime : RuntimeTask) (byteCount : Nat) :
    Except TaskEngineErrorCode RuntimeTask := do
  let _ ← contextEngine runtime
  let estimated ← requireSome (checkedAdd runtime.estimatedTokensSinceUsage byteCount) .invalidTask
  .ok { runtime with estimatedTokensSinceUsage := estimated }

/-- `start_provider_epoch` up to the call of the port. -/
def recordProviderRequest [Host] (runtime : RuntimeTask) (elapsed : Int) (record : TaskRecord)
    (epochId : EpochId) (purpose : ProviderRequestPurpose) (input : String) :
    Except TaskEngineErrorCode (RuntimeTask × TaskEvent) := do
  rejectIf ((providerDispatchBudgetReason elapsed record runtime).isSome) .blocked
  let runtime ← accountEstimatedTokens runtime input.utf8ByteSize
  -- The overflow of `checked_add` comes after the append and leaves the count as it is.
  .ok ({ runtime with providerRequests := saturatingAdd runtime.providerRequests 1 },
    .providerRequestRecorded epochId purpose runtime.providerRequests
      (textDigest Host.sha256 input))

def queueSteering (runtime : RuntimeTask) (digest : String) :
    Except TaskEngineErrorCode (RuntimeTask × TaskEvent) := do
  let next ← requireSome (checkedAdd runtime.steeringSequence 1) .invalidTask
  .ok ({ runtime with steeringSequence := next }, .steeringQueued runtime.steeringSequence digest)

def completeOperation [Host] (runtime : RuntimeTask) (operationId : OperationId)
    (item : AgentItem) : Except TaskEngineErrorCode (RuntimeTask × TaskEvent) := do
  let status := terminalStatus item
  let evidence ← normalizeOperationEvidence Host.sha256 item status
  .ok (retainNormalizedEvidence runtime operationId item status,
    .normalizedOperationEvidenceRecorded operationId evidence)

/-- A pending recovery becomes an attempt, at the end of its epoch or when
the epoch did not start. -/
def closeRecovery (runtime : RuntimeTask) (pending : PendingRecovery)
    (outcome : RecoveryAttemptOutcome) : RuntimeTask × TaskEvent :=
  ({ runtime with
      pendingRecovery := none
      recoveryAttempts := runtime.recoveryAttempts ++
        [⟨pending.strategy, pending.strategyFingerprint, outcome⟩] },
    .recoveryAttemptRecorded pending.epochId pending.strategy pending.strategyFingerprint outcome)

def assess [Host] (runtime : RuntimeTask) (checkpoint : CanonicalCheckpoint)
    (report : EpochReport) : Except ReportErrorCode ProgressAssessment :=
  assessProgressWithRecoveryAttempts Host.sha256 checkpoint report runtime.progress
    runtime.recoveryAttempts

def recordProgress (runtime : RuntimeTask) (assessment : ProgressAssessment) :
    RuntimeTask × TaskEvent :=
  ({ runtime with progress := runtime.progress ++ [assessment] },
    .progressAssessed assessment.fingerprint (!assessment.newInformation))

def startRecovery [Host] (runtime : RuntimeTask) (assessment : ProgressAssessment)
    (strategy : RecoveryStrategy) (epochId : EpochId) : RuntimeTask × TaskEvent :=
  let strategyFingerprint :=
    recoveryAttemptFingerprint Host.sha256 assessment.fingerprint strategy
  ({ runtime with pendingRecovery := some ⟨epochId, strategy, strategyFingerprint⟩ },
    .recoveryAttemptStarted epochId strategy strategyFingerprint)

/-! ## What the journal holds -/

/-- The part of a runtime that the journal holds. -/
structure Durable where
  providerRequests : Nat
  steeringSequence : Nat
  observedTotalTokens : Option Nat
  observedContextWindow : Option Nat
  operationEvidence : List OperationEvidence
  fingerprints : List String
  recoveryAttempts : List RecoveryAttempt
  pendingRecovery : Option PendingRecovery

def RuntimeTask.durable (runtime : RuntimeTask) : Durable :=
  ⟨runtime.providerRequests, runtime.steeringSequence, runtime.observedTotalTokens,
    runtime.observedContextWindow, runtime.operationEvidence,
    runtime.progress.map (·.fingerprint), runtime.recoveryAttempts, runtime.pendingRecovery⟩

def Rehydration.durable (state : Rehydration) : Durable :=
  ⟨state.providerRequests, state.steeringSequence, state.observedTotalTokens,
    state.observedContextWindow, state.operationEvidence,
    state.progress.map (·.fingerprint), state.recoveryAttempts, state.pendingRecovery⟩

namespace Durable

def apply (durable : Durable) : TaskEvent → Durable
  | .providerRequestRecorded _ _ _ _ =>
    { durable with providerRequests := saturatingAdd durable.providerRequests 1 }
  | .usageObserved _ totalTokens contextWindow =>
    { durable with
      observedTotalTokens := some totalTokens
      observedContextWindow := contextWindow.or durable.observedContextWindow }
  | .progressAssessed fingerprint _ =>
    { durable with fingerprints := durable.fingerprints ++ [fingerprint] }
  | .recoveryAttemptStarted epochId strategy fingerprint =>
    { durable with pendingRecovery := some ⟨epochId, strategy, fingerprint⟩ }
  | .recoveryAttemptRecorded _ strategy fingerprint outcome =>
    { durable with
      pendingRecovery := none
      recoveryAttempts := durable.recoveryAttempts ++ [⟨strategy, fingerprint, outcome⟩] }
  | .normalizedOperationEvidenceRecorded operationId evidence =>
    { durable with
      operationEvidence := durable.operationEvidence ++
        [operationEvidenceFromEvent operationId evidence] }
  | .steeringQueued sequence _ =>
    { durable with steeringSequence := max durable.steeringSequence (saturatingAdd sequence 1) }
  | _ => durable

/-- When an event may be appended. -/
def Allows (budget : TaskBudget) (durable : Durable) : TaskEvent → Prop
  | .providerRequestRecorded _ _ sequence _ => sequence = durable.providerRequests ∧
    ∀ maximum ∈ budget.maxProviderRequests, sequence < maximum
  | .recoveryAttemptStarted _ _ _ => durable.pendingRecovery = none
  | .recoveryAttemptRecorded epochId strategy fingerprint _ =>
    durable.pendingRecovery = some ⟨epochId, strategy, fingerprint⟩
  | _ => True

end Durable

def requestSequence : TaskEvent → Option Nat
  | .providerRequestRecorded _ _ sequence _ => some sequence
  | _ => none

/-- The numbers of the provider requests, in the order of the journal. -/
def requestSequences (log : List EventEnvelope) : List Nat :=
  log.filterMap fun envelope => envelope.taskEvent?.bind requestSequence

def Counted (budget : TaskBudget) (requests : Nat) (sequences : List Nat) : Prop :=
  ∀ maximum ∈ budget.maxProviderRequests, maximum ≤ maxU64 →
    sequences = List.range requests ∧ requests ≤ maximum

section

variable {budget : TaskBudget} {event : TaskEvent}

theorem observe_of_allows {state : Rehydration} (snapshot : TaskSnapshot) (sequence : Nat)
    (h : state.durable.Allows budget event) :
    ∃ after, state.observe snapshot sequence event = .ok after ∧
      after.durable = state.durable.apply event := by
  cases event with
  | epochFinished | epochInterrupted =>
    refine ⟨_, rfl, ?_⟩
    unfold Rehydration.closeEpoch
    split <;> rfl
  | recoveryAttemptStarted =>
    have hnone : state.pendingRecovery = none := h
    exact ⟨_, bind_eq_ok.mpr ⟨(), by simp [hnone], rfl⟩, rfl⟩
  | recoveryAttemptRecorded =>
    have hpending : state.pendingRecovery = _ := h
    exact ⟨_, bind_eq_ok.mpr ⟨(), by simp [hpending], rfl⟩, rfl⟩
  | progressAssessed =>
    refine ⟨_, rfl, ?_⟩
    simp [Rehydration.durable, Durable.apply, Rehydration.assessed]
  | _ => exact ⟨_, rfl, rfl⟩

variable {durable : Durable} (hallows : durable.Allows budget event)

include hallows

theorem Counted.apply {sequences : List Nat}
    (h : Counted budget durable.providerRequests sequences) :
    Counted budget (durable.apply event).providerRequests
      (sequences ++ (requestSequence event).toList) := by
  cases event with
  | providerRequestRecorded =>
    intro maximum hmaximum hrange
    obtain ⟨rfl, hbudget⟩ := hallows
    have hroom := hbudget maximum hmaximum
    have hnext : saturatingAdd durable.providerRequests 1 = durable.providerRequests + 1 :=
      if_pos (by omega)
    change _ = List.range (saturatingAdd _ 1) ∧ saturatingAdd _ 1 ≤ maximum
    rw [hnext, List.range_succ, ← (h maximum hmaximum hrange).1]
    exact ⟨rfl, hroom⟩
  | _ =>
    simp only [requestSequence, Option.toList_none, List.append_nil]
    exact h

end

/-- Where the loop of the engine stands. -/
inductive Phase where
  | head
  | epoch (epochId : EpochId)
  | finished

structure Live where
  runtime : RuntimeTask
  phase : Phase

section

variable [Host] (budget : TaskBudget)

/-- A step that the engine takes in any phase, and the event that it appends. -/
inductive Work (runtime : RuntimeTask) (event : TaskEvent) (next : RuntimeTask) : Prop
  /-- An event that no field of the durable part comes from. -/
  | passing (hevent : ∀ durable : Durable, durable.Allows budget event ∧
      durable.apply event = durable)
    (hsame : next.durable = runtime.durable)
  | usage {epochId usage} (hstep : recordUsage runtime epochId usage = (next, event))
  | estimate {epochId} (hstep : recordEstimatedUsage runtime epochId = .ok (next, event))
  | request {elapsed record epochId purpose input} (hbudget : record.snapshot.budget = budget)
    (hstep : recordProviderRequest runtime elapsed record epochId purpose input =
      .ok (next, event))
  | steer {digest} (hstep : queueSteering runtime digest = .ok (next, event))
  | complete {operationId item}
    (hstep : completeOperation runtime operationId item = .ok (next, event))

/-- A step of the engine and the event that it appends. -/
inductive Advance : Live → TaskEvent → Live → Prop
  | work {runtime event next phase} (hwork : Work budget runtime event next) :
    Advance ⟨runtime, phase⟩ event ⟨next, phase⟩
  /-- A pending recovery names the epoch that is its attempt. -/
  | begin {runtime epochId objective}
    (hepoch : ∀ pending ∈ runtime.pendingRecovery, pending.epochId = epochId) :
    Advance ⟨runtime, .head⟩ (.epochStarted epochId objective) ⟨runtime, .epoch epochId⟩
  | fail {runtime pending next event epochId} (hpending : runtime.pendingRecovery = some pending)
    (hstep : closeRecovery runtime pending .failed = (next, event)) :
    Advance ⟨runtime, .epoch epochId⟩ event ⟨next, .head⟩
  /-- A pending recovery of another epoch would be dropped here without an event. -/
  | finish {runtime epochId digest}
    (hother : ∀ pending ∈ runtime.pendingRecovery, pending.epochId ≠ epochId) :
    Advance ⟨runtime, .epoch epochId⟩ (.epochFinished epochId digest)
      ⟨{ runtime with pendingRecovery := none, freshContextDiagnosis := false }, .finished⟩
  | settle {runtime pending status next event epochId}
    (hpending : runtime.pendingRecovery = some pending)
    (hstep : closeRecovery runtime pending (recoveryTerminalOutcome status) = (next, event)) :
    Advance ⟨runtime, .epoch epochId⟩ event ⟨next, .finished⟩
  | assess {runtime checkpoint report assessment next event}
    (hassessment : assess runtime checkpoint report = .ok assessment)
    (hstep : recordProgress runtime assessment = (next, event)) :
    Advance ⟨runtime, .finished⟩ event ⟨next, .finished⟩
  | recover {runtime assessment strategy epochId next event}
    (hstep : startRecovery runtime assessment strategy epochId = (next, event)) :
    Advance ⟨runtime, .finished⟩ event ⟨next, .head⟩

/-- The engine and the journal of its task, after any steps and any number of stops. -/
inductive Reached : Live → List EventEnvelope → Prop
  | start {runtime} (hnew : runtime.durable = Rehydration.initial.durable) :
    Reached ⟨runtime, .head⟩ []
  | append {live log event next sessionId sequence taskId} (hreached : Reached live log)
    (hadvance : Advance budget live event next) :
    Reached next (log ++ [⟨sessionId, sequence, .taskLifecycle taskId event⟩])
  /-- The loop may be left at any time, with an error or for a later call. -/
  | silent {live log next phase} (hreached : Reached live log)
    (hsame : next.durable = live.runtime.durable)
    (hphase : phase = live.phase ∨ phase = .head) : Reached ⟨next, phase⟩ log
  | restart {live log snapshot state workspace configuration pendingConfiguration
      previousCheckpoint contextId} (hreached : Reached live log)
    (hlog : log.foldlM (Rehydration.step snapshot) .initial = .ok state) :
    Reached ⟨rehydrated snapshot state workspace configuration pendingConfiguration
      previousCheckpoint contextId, .head⟩ log

end

/-! ## What holds in every run -/

theorem saturatingAdd_of_checkedAdd {n total : Nat} (h : checkedAdd n 1 = some total) :
    max n (saturatingAdd n 1) = total := by
  unfold checkedAdd at h
  split at h
  · rename_i hfits
    cases h
    rw [saturatingAdd, if_pos hfits, Nat.max_eq_right (Nat.le_succ n)]
  · cases h

theorem requestSequences_append (event : TaskEvent) (log : List EventEnvelope)
    (sessionId : SessionId) (sequence : Nat) (taskId : TaskId) :
    requestSequences (log ++ [⟨sessionId, sequence, .taskLifecycle taskId event⟩]) =
      requestSequences log ++ (requestSequence event).toList := by
  cases hevent : requestSequence event <;>
    simp [requestSequences, EventEnvelope.taskEvent?, hevent]

section

variable [Host]

/-- What the phase says about a pending recovery. -/
def Phase.Fits (pending : Option PendingRecovery) : Phase → Prop
  | .head => True
  | .epoch epochId => ∀ recovery ∈ pending, recovery.epochId = epochId
  | .finished => pending = none

variable {budget : TaskBudget} {event : TaskEvent} {runtime next : RuntimeTask}
  {live after : Live} {log : List EventEnvelope}

theorem Work.allowed (h : Work budget runtime event next) :
    runtime.durable.Allows budget event ∧ next.durable = runtime.durable.apply event ∧
      next.pendingRecovery = runtime.pendingRecovery := by
  cases h with
  | passing hevent hsame =>
    obtain ⟨hallows, happly⟩ := hevent runtime.durable
    exact ⟨hallows, hsame.trans happly.symm, congrArg Durable.pendingRecovery hsame⟩
  | usage hstep =>
    cases hstep
    exact ⟨trivial, rfl, rfl⟩
  | estimate hstep =>
    simp only [recordEstimatedUsage, ok_iff, Prod.mk.injEq] at hstep
    obtain ⟨total, -, rfl, rfl⟩ := hstep
    refine ⟨trivial, ?_, rfl⟩
    simp [RuntimeTask.durable, Durable.apply]
  | request hbudget hstep =>
    simp only [recordProviderRequest, accountEstimatedTokens, ok_iff, Prod.mk.injEq] at hstep
    obtain ⟨hreason, _, ⟨_, -, _, -, rfl⟩, rfl, rfl⟩ := hstep
    refine ⟨⟨rfl, fun maximum hmaximum => ?_⟩, rfl, rfl⟩
    subst hbudget
    by_contra hfull
    refine hreason ?_
    rw [providerDispatchBudgetReason, Option.mem_def.mp hmaximum]
    split
    · rfl
    · simp [Nat.not_lt.mp hfull]
  | steer hstep =>
    simp only [queueSteering, ok_iff, Prod.mk.injEq] at hstep
    obtain ⟨total, htotal, rfl, rfl⟩ := hstep
    refine ⟨trivial, ?_, rfl⟩
    simp only [RuntimeTask.durable, Durable.apply, saturatingAdd_of_checkedAdd htotal]
  | @complete _ item hstep =>
    simp only [completeOperation, ok_iff, Prod.mk.injEq] at hstep
    obtain ⟨evidence, hevidence, rfl, rfl⟩ := hstep
    cases item <;> cases hevidence <;> exact ⟨trivial, rfl, rfl⟩

theorem Advance.allowed (h : Advance budget live event after)
    (hfits : live.phase.Fits live.runtime.pendingRecovery) :
    live.runtime.durable.Allows budget event ∧
      after.runtime.durable = live.runtime.durable.apply event ∧
      after.phase.Fits after.runtime.pendingRecovery := by
  cases h with
  | work hwork =>
    obtain ⟨hallows, happly, hpending⟩ := hwork.allowed
    exact ⟨hallows, happly, hpending ▸ hfits⟩
  | begin hepoch => exact ⟨trivial, rfl, hepoch⟩
  | fail hpending hstep =>
    cases hstep
    exact ⟨hpending, rfl, trivial⟩
  | finish hother =>
    have hnone := Option.eq_none_iff_forall_not_mem.mpr fun pending hpending =>
      hother pending hpending (hfits pending hpending)
    refine ⟨trivial, ?_, rfl⟩
    simp only [RuntimeTask.durable, Durable.apply, hnone]
  | settle hpending hstep =>
    cases hstep
    exact ⟨hpending, rfl, rfl⟩
  | assess _ hstep =>
    cases hstep
    exact ⟨trivial, by simp [RuntimeTask.durable, Durable.apply], hfits⟩
  | recover hstep =>
    cases hstep
    exact ⟨hfits, rfl, trivial⟩

structure Kept (budget : TaskBudget) (phase : Phase) (durable : Durable)
    (log : List EventEnvelope) : Prop where
  fits : phase.Fits durable.pendingRecovery
  counted : Counted budget durable.providerRequests (requestSequences log)
  rebuilt : ∀ snapshot, ∃ state, log.foldlM (Rehydration.step snapshot) .initial = .ok state ∧
    state.durable = durable

theorem Reached.kept (h : Reached budget live log) :
    Kept budget live.phase live.runtime.durable log := by
  induction h with
  | start hnew =>
    rw [hnew]
    exact ⟨trivial, fun _ _ _ => ⟨rfl, Nat.zero_le _⟩, fun snapshot => ⟨_, rfl, rfl⟩⟩
  | append _ hadvance ih =>
    obtain ⟨hallows, happly, hfits⟩ := hadvance.allowed ih.fits
    refine ⟨hfits, ?_, fun snapshot => ?_⟩
    · rw [happly, requestSequences_append]
      exact ih.counted.apply hallows
    · obtain ⟨state, hfold, hsame⟩ := ih.rebuilt snapshot
      rw [happly, ← hsame]
      rw [← hsame] at hallows
      obtain ⟨after, hobserve, hafter⟩ := observe_of_allows snapshot _ hallows
      exact ⟨after, foldlM_concat_eq_ok.mpr ⟨state, hfold, hobserve⟩, hafter⟩
  | silent _ hsame hphase ih =>
    rw [hsame]
    rcases hphase with rfl | rfl
    · exact ih
    · exact { ih with fits := trivial }
  | restart _ hlog ih =>
    obtain ⟨state, hfold, hsame⟩ := ih.rebuilt _
    cases hfold.symm.trans hlog
    rw [← hsame] at ih
    exact { ih with fits := trivial }

/-- Whenever the engine stops, the runtime that is rebuilt from the journal agrees with the one
that it had, and so does every assessment of progress. -/
theorem Reached.runtime_rebuilt (h : Reached budget live log) (snapshot : TaskSnapshot) :
    ∃ state, log.foldlM (Rehydration.step snapshot) .initial = .ok state ∧
      ∀ workspace configuration pending previous contextId runtime,
        runtime = rehydrated snapshot state workspace configuration pending previous contextId →
          runtime.durable = live.runtime.durable ∧ ∀ checkpoint report,
            assess runtime checkpoint report = assess live.runtime checkpoint report := by
  obtain ⟨state, hfold, hsame⟩ := h.kept.rebuilt snapshot
  refine ⟨state, hfold, ?_⟩
  rintro _ _ _ _ _ runtime rfl
  refine ⟨hsame, fun checkpoint report => ?_⟩
  have hattempts : live.runtime.recoveryAttempts = _ :=
    congrArg Durable.recoveryAttempts hsame.symm
  rw [assess, assess, hattempts]
  exact assessProgress_of_fingerprints (congrArg Durable.fingerprints hsame)

/-- Over any number of stops, the requests are numbered without a gap and stay
within the budget. -/
theorem Reached.requests_numbered {maximum : Nat} (h : Reached budget live log)
    (hbudget : budget.maxProviderRequests = some maximum) (hrange : maximum ≤ maxU64) :
    requestSequences log = List.range live.runtime.providerRequests ∧
      live.runtime.providerRequests ≤ maximum :=
  h.kept.counted maximum hbudget hrange

end

namespace Sample

open Task.Sample

def budget : TaskBudget := { TaskBudget.default with maxProviderRequests := some 1 }

def snapshot : TaskSnapshot :=
  ⟨taskId, sessionId, .active, contract .pending [], budget, none, none, none, 1, .empty, none⟩

def runtime (state : Rehydration) : RuntimeTask :=
  rehydrated snapshot state (.utf8 "/w")
    ⟨model, .low, .default, .default, none, none, none, none, none, none⟩ none none
    ⟨"c", by decide⟩

/-- A task has asked the provider once, and is rebuilt. -/
theorem asked : ∃ live log, @Reached (planner (optionalContract true)) budget live log ∧
    requestSequences log = [0] := by
  let _ := planner (optionalContract true)
  have hstep : recordProviderRequest (runtime .initial) 0 ⟨snapshot, 1⟩ epochId .work "" =
    .ok (_, _) := rfl
  have hasked : Reached budget _ ([] ++ [⟨sessionId, 1, .taskLifecycle taskId _⟩]) :=
    .append (.start rfl) (.work (.request rfl hstep))
  exact ⟨⟨runtime _, .head⟩, _, .restart hasked rfl, rfl⟩

end Sample

theorem requests_after_restart : ∃ live log,
    @Reached (planner (optionalContract true)) Sample.budget live log ∧
      requestSequences log = [0] ∧ live.runtime.providerRequests ≤ 1 := by
  obtain ⟨live, log, h, hlog⟩ := Sample.asked
  exact ⟨live, log, h, hlog, (@Reached.requests_numbered (planner _) _ _ _ _ h rfl (by decide)).2⟩

theorem rebuilt_after_restart : ∃ live log state,
    @Reached (planner (optionalContract true)) Sample.budget live log ∧
      log.foldlM (Rehydration.step Sample.snapshot) .initial = .ok state := by
  obtain ⟨live, log, h, -⟩ := Sample.asked
  obtain ⟨state, hfold, -⟩ := @Reached.runtime_rebuilt (planner _) _ _ _ h Sample.snapshot
  exact ⟨live, log, state, h, hfold⟩

end CarlAgent.Engine
