import CarlAgent.Storage.CheckpointRows

/-!
# The model and effort of a checkpoint

The builder of a checkpoint takes the expected model and effort from the
previous checkpoint, or from the creation, and never looks at an applied
configuration.  The store compares a checkpoint with the replayed
configuration.  The two agree as long as no applied configuration has changed
the model or the effort since.
-/

namespace CarlAgent.Storage

open Foundation CarlAgent.Task ExpectedProvider List

/-- The model and effort that wait, and those last applied. -/
structure ConfigurationTrace where
  queued : Option (ModelId × ReasoningEffort)
  applied : Option (ModelId × ReasoningEffort)
  deriving DecidableEq

/-- Only applications after the sequence `after` are kept. -/
def ConfigurationTrace.observe (after : Nat) (trace : ConfigurationTrace)
    (envelope : EventEnvelope) : ConfigurationTrace :=
  match envelope.event with
  | .taskLifecycle _ (.configurationQueued _ model effort _) =>
    { trace with queued := some (model, effort) }
  | .taskLifecycle _ (.configurationApplied _) =>
    ⟨none, if after < envelope.sequence then trace.queued
      else trace.applied⟩
  | _ => trace

def appliedAfter (after : Nat) (journal : List EventEnvelope) :
    Option (ModelId × ReasoningEffort) :=
  (journal.foldl (ConfigurationTrace.observe after) ⟨none, none⟩).applied

def createdProvider (journal : List EventEnvelope) : Option (String × String) :=
  journal.findSome? fun envelope =>
    match envelope.event with
    | .taskLifecycle _ (.created _ _ _ _ model effort _) =>
      some (model.asStr, effort.asCodexValue)
    | _ => none

variable (previous : Option CanonicalCheckpoint)

def baselineProvider
    (journal : List EventEnvelope) : Option (String × String) :=
  match previous with
  | some checkpoint =>
    some (checkpoint.provider.model, checkpoint.provider.effort)
  | none => createdProvider journal

def sourceEnd : Nat :=
  (previous.map (·.sourceSequenceEnd)).getD 0

/-- What was applied since the previous checkpoint is the model and effort of
that checkpoint. -/
def KeepsProvider (journal : List EventEnvelope) : Prop :=
  ∀ applied, appliedAfter (sourceEnd previous) journal = some applied →
    baselineProvider previous journal = some (applied.1.asStr, applied.2.asCodexValue)

def TaskConfigurationRecord.active (record : TaskConfigurationRecord) : ModelId × ReasoningEffort :=
  (record.activeModel, record.activeEffort)

def TaskConfigurationRecord.queued (record : TaskConfigurationRecord) :
    Option (ModelId × ReasoningEffort) :=
  match record.pendingModel, record.pendingEffort with
  | some model, some effort => some (model, effort)
  | _, _ => none

/-- What an event other than a creation does to the configuration. -/
inductive ConfigurationStep (record : TaskConfigurationRecord)
    (envelope : EventEnvelope) (next : TaskConfigurationRecord) : Prop
  | kept (hsame : next = record)
    (htrace : ∀ after trace, ConfigurationTrace.observe after trace envelope = trace)
  | queued (model : ModelId) (effort : ReasoningEffort) (hactive : next.active = record.active)
    (hqueued : next.queued = some (model, effort))
    (htrace : ∀ after trace, ConfigurationTrace.observe after trace envelope =
        { trace with queued := some (model, effort) })
  | applied (hqueued : record.queued = some next.active)
    (hnone : next.queued = none)
    (htrace : ∀ after trace, ConfigurationTrace.observe after trace envelope =
        ⟨none, if after < envelope.sequence then trace.queued
          else trace.applied⟩)

variable {record next : TaskConfigurationRecord} {taskId : TaskId} {after : Nat}
  {row : AgentTaskRow}

variable {sha256 : Sha256}
variable {trace : ConfigurationTrace} {db : Db} {envelope : EventEnvelope}
  {markers lastMarkers : List ControlMarker}
  {events before : List EventEnvelope} {previous : Option CanonicalCheckpoint}
  {last : TaskConfigurationRecord} {state : TaskSnapshot}

theorem replayConfiguration_step {sessionId : SessionId} {sequence : Nat} {event : TaskEvent}
    {next : Option TaskConfigurationRecord} (hnew : event.isCreated = false)
    (h : replayConfiguration (some record) sequence event = .ok next) :
    ∃ record', next = some record' ∧ ConfigurationStep record
      ⟨sessionId, sequence, .taskLifecycle taskId event⟩ record' := by
  cases event
  case created => cases hnew
  case configurationQueued controlId model effort mode =>
    simp only [replayConfiguration, ok_iff, Option.some.injEq, exists_eq_left'] at h
    exact ⟨_, h.symm, .queued model effort rfl rfl fun _ _ => rfl⟩
  case configurationApplied controlId =>
    simp only [replayConfiguration, ok_iff, Option.some.injEq, exists_eq_left'] at h
    obtain ⟨-, model, hmodel, effort, heffort, mode, -, rfl⟩ := h
    refine ⟨_, rfl, .applied ?_ rfl fun _ _ => rfl⟩
    rw [TaskConfigurationRecord.queued, hmodel, heffort]
    rfl
  all_goals
    cases h
    exact ⟨record, rfl, .kept rfl fun _ _ => rfl⟩

theorem replayTaskChildProjections_step {next : ChildReplay}
    (hnew : ∀ taskId event, envelope.event = .taskLifecycle taskId event → event.isCreated = false)
    (h : replayTaskChildProjections ⟨some record, markers⟩ envelope = .ok next) :
    ∃ record' markers', next = ⟨some record', markers'⟩ ∧
      ConfigurationStep record envelope record' := by
  obtain ⟨sessionId, sequence, event⟩ := envelope
  cases event with
  | other => cases h
  | taskLifecycle taskId event =>
    simp only [replayTaskChildProjections, ok_iff] at h
    obtain ⟨configuration, hconfiguration, markers', -, rfl⟩ := h
    obtain ⟨record', rfl, hstep⟩ := replayConfiguration_step (hnew taskId event rfl) hconfiguration
    exact ⟨record', markers', rfl, hstep⟩

/-! ## Events after the creation -/

def IsUpdate (envelope : EventEnvelope) : Prop :=
  ∃ taskId event, envelope.event = .taskLifecycle taskId event ∧ event.isCreated = false

theorem IsUpdate.not_created (h : IsUpdate envelope) (taskId : TaskId) (event : TaskEvent)
    (hevent : envelope.event = .taskLifecycle taskId event) : event.isCreated = false := by
  obtain ⟨_, _, hother, hnew⟩ := h
  rw [hevent] at hother
  cases hother
  exact hnew

theorem isUpdate_of_reduceTask {next : TaskSnapshot}
    (h : reduceTask (some state) envelope = .ok next) : IsUpdate envelope := by
  obtain ⟨event, hevent, -, hstep⟩ := reduceTask_some_iff.mp h
  obtain ⟨changed, heffect, -⟩ := hstep.effect
  exact ⟨_, event, hevent, heffect.not_created⟩

theorem updates_of_fold {next : Option TaskSnapshot} (h : events.foldlM (fun state envelope =>
      (reduceTask state envelope).map some) (some state) = .ok next) :
    ∀ envelope ∈ events, IsUpdate envelope := by
  induction events generalizing state with
  | nil => simp
  | cons first rest ih =>
    obtain ⟨mid, hfirst, hrest⟩ := foldlM_cons_eq_ok.mp h
    obtain ⟨reduced, hreduced, rfl⟩ := map_eq_ok_iff.mp hfirst
    rw [forall_mem_cons]
    exact ⟨isUpdate_of_reduceTask hreduced, ih hrest⟩

theorem updates_of_append {after : List EventEnvelope} {next : Option TaskSnapshot}
    (hbefore : reduceJournal before = .ok (some state))
    (h : reduceJournal (before ++ after) = .ok next) : ∀ envelope ∈ after, IsUpdate envelope := by
  obtain ⟨mid, hmid, hafter⟩ := foldlM_append_eq_ok.mp h
  unfold reduceJournal at hbefore
  rw [hbefore] at hmid
  cases hmid
  exact updates_of_fold hafter

variable {checkpoint : CanonicalCheckpoint} {snapshot : TaskSnapshot}

theorem reduced_eq_cons {journal : List EventEnvelope}
    (h : reduceJournal journal = .ok (some snapshot)) :
    ∃ creation updates created, journal = creation :: updates ∧
      reduceTask none creation = .ok created ∧
      ∀ envelope ∈ updates, IsUpdate envelope := by
  cases journal with
  | nil => exact absurd rfl (reduced_ne_nil h)
  | cons creation updates =>
    obtain ⟨mid, hcreation, hrest⟩ := foldlM_cons_eq_ok.mp h
    obtain ⟨created, hcreated, rfl⟩ := map_eq_ok_iff.mp hcreation
    exact ⟨creation, updates, created, rfl, hcreated, updates_of_fold hrest⟩

theorem ConfigurationStep.queued_eq (h : ConfigurationStep record envelope next)
    (htrace : trace.queued = record.queued) :
    (trace.observe after envelope).queued = next.queued := by
  cases h with
  | kept hsame hobserve => rw [hobserve, hsame, htrace]
  | queued model effort _ hqueued hobserve => rw [hobserve, hqueued]
  | applied _ hnone hobserve => rw [hobserve, hnone]

theorem ConfigurationStep.active_eq (h : ConfigurationStep record envelope next)
    {base : ModelId × ReasoningEffort} (hlate : after < envelope.sequence)
    (htrace : trace.queued = record.queued) (hactive : record.active = trace.applied.getD base) :
    next.active = (trace.observe after envelope).applied.getD base := by
  cases h with
  | kept hsame hobserve => rw [hobserve, hsame, hactive]
  | queued model effort hsame _ hobserve => rw [hobserve, hsame, hactive]
  | applied hqueued _ hobserve =>
    rw [hobserve, if_pos hlate, htrace, hqueued]
    rfl

theorem ConfigurationStep.applied_eq (h : ConfigurationStep record envelope next)
    (trace : ConfigurationTrace) (hearly : envelope.sequence ≤ after) :
    (trace.observe after envelope).applied = trace.applied := by
  cases h with
  | kept _ hobserve => rw [hobserve]
  | queued _ _ _ _ hobserve => rw [hobserve]
  | applied _ _ hobserve => rw [hobserve, if_neg (not_lt.mpr hearly)]

theorem trace_of_early (hupdates : ∀ envelope ∈ events, IsUpdate envelope)
    (hearly : ∀ envelope ∈ events, envelope.sequence ≤ after)
    (h : events.foldlM replayTaskChildProjections ⟨some record, markers⟩ =
      .ok ⟨some last, lastMarkers⟩) (hqueued : trace.queued = record.queued) :
    events.foldl (ConfigurationTrace.observe after) trace = ⟨last.queued, trace.applied⟩ := by
  induction events generalizing record markers trace with
  | nil =>
    cases h
    rw [← hqueued]
    rfl
  | cons envelope events ih =>
    rw [forall_mem_cons] at hupdates hearly
    obtain ⟨mid, hfirst, hrest⟩ := foldlM_cons_eq_ok.mp h
    obtain ⟨next, nextMarkers, rfl, hstep⟩ :=
      replayTaskChildProjections_step hupdates.1.not_created hfirst
    rw [foldl_cons, ih hupdates.2 hearly.2 hrest
      (hstep.queued_eq hqueued), hstep.applied_eq trace hearly.1]

theorem active_of_late {base : ModelId × ReasoningEffort}
    (hupdates : ∀ envelope ∈ events, IsUpdate envelope)
    (hlate : ∀ envelope ∈ events, after < envelope.sequence)
    (h : events.foldlM replayTaskChildProjections ⟨some record, markers⟩ =
      .ok ⟨some last, lastMarkers⟩) (hqueued : trace.queued = record.queued)
    (hactive : record.active = trace.applied.getD base) :
    last.active = (events.foldl (ConfigurationTrace.observe after) trace).applied.getD base := by
  induction events generalizing record markers trace with
  | nil =>
    cases h
    exact hactive
  | cons envelope events ih =>
    rw [forall_mem_cons] at hupdates hlate
    obtain ⟨mid, hfirst, hrest⟩ := foldlM_cons_eq_ok.mp h
    obtain ⟨next, nextMarkers, rfl, hstep⟩ :=
      replayTaskChildProjections_step hupdates.1.not_created hfirst
    exact ih hupdates.2 hlate.2 hrest (hstep.queued_eq hqueued)
      (hstep.active_eq hlate.1 hqueued hactive)

theorem active_eq_appliedAfter {tail : List EventEnvelope} {next : Option TaskSnapshot}
    (hbefore : reduceJournal before = .ok (some state))
    (hreduced : reduceJournal (before ++ tail) = .ok next)
    (hrecord : before.foldlM replayTaskChildProjections ⟨none, []⟩ = .ok ⟨some record, markers⟩)
    (hlast : (before ++ tail).foldlM replayTaskChildProjections ⟨none, []⟩ =
      .ok ⟨some last, lastMarkers⟩) (hearly : ∀ envelope ∈ before.tail, envelope.sequence ≤ after)
    (hlate : ∀ envelope ∈ tail, after < envelope.sequence) :
    last.active = (appliedAfter after (before ++ tail)).getD record.active := by
  obtain ⟨creation, updates, created, rfl, hcreated, hupdates⟩ := reduced_eq_cons hbefore
  obtain ⟨mid, hmid, htail⟩ := foldlM_append_eq_ok.mp hlast
  rw [hrecord] at hmid
  cases hmid
  obtain ⟨first, hfirst, hrest⟩ := foldlM_cons_eq_ok.mp hrecord
  obtain ⟨_, _, _, _, model, effort, mode, hevent, -, -⟩ := reduceTask_none_iff.mp hcreated
  have hstart : first = ⟨some (TaskConfigurationRecord.initial model effort mode), []⟩ ∧
      ConfigurationTrace.observe after ⟨none, none⟩ creation = ⟨none, none⟩ := by
    unfold replayTaskChildProjections ConfigurationTrace.observe at *
    rw [hevent] at hfirst ⊢
    cases hfirst
    exact ⟨rfl, rfl⟩
  obtain ⟨rfl, hcreation⟩ := hstart
  have htrace := trace_of_early hupdates hearly hrest
    (show (⟨none, none⟩ : ConfigurationTrace).queued = _ from rfl)
  have hactive := active_of_late (updates_of_append hbefore hreduced) hlate
    htail (show (⟨record.queued, none⟩ : ConfigurationTrace).queued = _ from
      rfl) (show record.active = Option.getD none record.active from rfl)
  unfold appliedAfter
  rw [foldl_append, foldl_cons, hcreation, htrace]
  exact hactive

/-! ## The builder's expectation -/

variable (expected : ExpectedProvider)

def withUsage (usage : ObservedUsage) : ExpectedProvider :=
  { expected with totalTokens := usage.totalTokens, contextWindow := usage.contextWindow }

def expectedUsage : ObservedUsage :=
  ⟨expected.totalTokens, expected.contextWindow⟩

theorem expectedProvider_of_updates
    (hupdates : ∀ envelope ∈ events, IsUpdate envelope) :
    events.foldlM observe expected =
      .ok (withUsage expected (events.foldl observeUsage (expectedUsage expected))) := by
  induction events generalizing expected with
  | nil => rfl
  | cons envelope events ih =>
    rw [forall_mem_cons] at hupdates
    obtain ⟨taskId, event, hevent, hnew⟩ := hupdates.1
    rw [foldlM_cons_eq_ok, foldl_cons]
    refine ⟨withUsage expected
      (observeUsage (expectedUsage expected) envelope), ?_, ih _ hupdates.2⟩
    unfold observe observeUsage
    rw [hevent]
    cases event
    case created => cases hnew
    all_goals rfl

/-- What the builder starts from: a prefix of the journal that the previous
checkpoint, or the creation alone, stands for. -/
structure ProviderStart (db : Db) (taskId : TaskId) (previous : Option CanonicalCheckpoint)
    (before tail : List EventEnvelope)
    (record : TaskConfigurationRecord) : Prop where
  split : db.journal taskId = before ++ tail
  reduced : ∃ state, reduceJournal before = .ok (some state)
  configuration : ∃ markers, before.foldlM replayTaskChildProjections ⟨none, []⟩ =
      .ok ⟨some record, markers⟩
  baseline : baselineProvider previous (db.journal taskId) =
    some (record.activeModel.asStr, record.activeEffort.asCodexValue)
  early : ∀ envelope ∈ before.tail, envelope.sequence ≤ sourceEnd previous
  late : ∀ envelope ∈ tail, sourceEnd previous < envelope.sequence
  named : ∀ checkpoint ∈ previous, checkpoint.provider.provider = "codex"
  expected : ∃ events, readTaskEventsAfter db taskId (sourceEnd previous) = .ok events ∧
    events.foldlM ExpectedProvider.observe (ExpectedProvider.initial previous) =
        .ok ⟨some record.activeModel.asStr, some record.activeEffort.asCodexValue, ((db.journal
          taskId).foldl observeUsage ⟨none, none⟩).totalTokens, ((db.journal taskId).foldl
          observeUsage ⟨none, none⟩).contextWindow⟩

theorem providerStart_none (hdb : db.Consistent) (hrow : db.agentTasks.find? taskId = some row)
    (hchildren : db.ChildrenFollow) :
    ∃ before tail record, ProviderStart db taskId none before tail record := by
  have hreduced := (hdb.replayed.rows taskId row hrow).fold
  obtain ⟨last, hreplayed⟩ := hchildren.rows taskId row hrow
  obtain ⟨creation, updates, created, hsplit, hcreated, hupdates⟩ := reduced_eq_cons hreduced
  obtain ⟨_, _, _, _, model, effort, mode, hevent, -, -⟩ := reduceTask_none_iff.mp hcreated
  refine ⟨[creation], updates, .initial model effort mode, hsplit,
    ⟨created, ?_⟩, ⟨[], ?_⟩, ?_, by simp, ?_, by simp, db.journal taskId, ?_,
    ?_⟩
  · rw [← nil_append [creation], reduceJournal_concat]
    exact ⟨none, rfl, hcreated⟩
  · rw [foldlM_cons_eq_ok]
    refine ⟨_, ?_, rfl⟩
    unfold replayTaskChildProjections
    rw [hevent]
    rfl
  · simp [baselineProvider, createdProvider, hsplit, hevent, TaskConfigurationRecord.initial]
  · intro envelope henvelope
    have hmem : envelope ∈ db.journal taskId := by
      rw [hsplit]
      exact mem_cons_of_mem _ henvelope
    exact hdb.sequence_pos hmem
  · rw [← Db.journalAfter_zero hdb taskId]
    exact readTaskEventsAfter_eq hdb hrow (Nat.zero_le _)
  · rw [hsplit, foldlM_cons_eq_ok, foldl_cons]
    refine ⟨⟨some model.asStr, some effort.asCodexValue, none, none⟩, ?_, ?_⟩
    · unfold observe
      rw [hevent]
      rfl
    · rw [expectedProvider_of_updates _ hupdates]
      have husage : observeUsage ⟨none, none⟩ creation = ⟨none, none⟩ := by
        unfold observeUsage
        rw [hevent]
        rfl
      rw [husage]
      rfl

/-- A canonical checkpoint stands for the events before it. -/
theorem providerStart_some {stored : TaskCheckpointRow}
    {after : List EventEnvelope} {event : EventEnvelope} (hdb : db.Consistent)
    (hrow : db.agentTasks.find? stored.taskId = some row)
    (hsplit : db.journal stored.taskId = before ++ event :: after)
    (hcertified : stored.Certified sha256 checkpoint before) :
    ∃ record, ProviderStart db stored.taskId (some checkpoint) before (event :: after) record := by
  have hreduced := (hdb.replayed.rows _ row hrow).fold
  obtain ⟨state, hstate⟩ := hcertified.reduced
  obtain ⟨record, markers, hrecord, hmodel, heffort⟩ := hcertified.configuration
  have hend : sourceEnd (some checkpoint) = lastSequence before := hcertified.last
  obtain ⟨htail, hbound⟩ := journalAfter_lastSequence hdb hsplit hstate
  have hincreasing := hdb.journal_increasing stored.taskId
  rw [hsplit] at hreduced hincreasing
  have hupdates := updates_of_append hstate hreduced
  refine ⟨record, hsplit, ⟨state, hstate⟩, ⟨markers, hrecord⟩, ?_, ?_, ?_, ?_,
    event :: after, ?_, ?_⟩
  · simp only [baselineProvider, hmodel, heffort]
  · intro envelope henvelope
    rw [hend]
    exact (within_of_increasing (pairwise_append.mp hincreasing).1
      envelope (mem_of_mem_tail henvelope)).2
  · intro envelope henvelope
    rw [← htail] at henvelope
    rw [hend]
    exact (mem_afterCursor.mp henvelope).2 _ rfl
  · intro other hother
    cases hother
    exact hcertified.provider
  · rw [hend, readTaskEventsAfter_eq hdb hrow hbound, htail]
  · rw [expectedProvider_of_updates _ hupdates, hsplit, foldl_append,
      hcertified.usage, ← hmodel, ← heffort]
    rfl

theorem getLatestTaskCheckpoint_eq_ok
    (h : getLatestTaskCheckpoint sha256 db taskId = .ok previous) :
    previous = none ∨ ∃ stored checkpoint, previous = some checkpoint ∧
      stored ∈ db.children.taskCheckpoints.rows ∧ stored.taskId = taskId ∧
      stored.checkpoint = some checkpoint := by
  simp only [getLatestTaskCheckpoint, bind_eq_ok] at h
  obtain ⟨record, -, h⟩ := h
  cases record with
  | none =>
    cases h
    exact .inl rfl
  | some record =>
    cases hlatest : record.snapshot.latestCheckpoint with
    | none =>
      simp only [hlatest] at h
      cases h
      exact .inl rfl
    | some checkpointId =>
      simp only [hlatest, ok_iff, Option.filter_eq_some_iff, decide_eq_true_eq] at h
      obtain ⟨stored, ⟨hfind, htask⟩, checkpoint, hcheckpoint, -, -, -, -, rfl⟩ := h
      exact .inr ⟨stored, checkpoint, rfl, Table.mem_of_find? hfind, htask, hcheckpoint⟩

theorem providerStart_of_run {calls : List Call}
    (hrow : (World.run sha256 calls).db.agentTasks.find? taskId = some row)
    (hprevious : getLatestTaskCheckpoint sha256 (World.run sha256 calls).db taskId = .ok previous) :
    ∃ before tail record, ProviderStart (World.run sha256 calls).db taskId
      previous before tail record := by
  have hconsistent := @World.run_consistent sha256 calls
  rcases getLatestTaskCheckpoint_eq_ok hprevious with rfl |
    ⟨stored, checkpoint, rfl, hstored, rfl, hcheckpoint⟩
  · exact providerStart_none hconsistent hrow (World.run_childrenFollow calls)
  · obtain ⟨before, event, after, hsplit, -, hcertified⟩ :=
      (World.run_certified calls).2 stored hstored checkpoint hcheckpoint
    obtain ⟨record, hstart⟩ := providerStart_some hconsistent hrow hsplit hcertified
    exact ⟨before, _, record, hstart⟩

/-! ## The two provider checks -/

theorem validateProviderMetadata_eq_ok {provider : ProviderCheckpoint} {expected : ExpectedProvider}
    (hexpected : events.foldlM observe (initial previous) = .ok expected) :
    validateProviderMetadata provider snapshot previous events = .ok () ↔
      (∀ checkpoint ∈ previous, checkpoint.provider.provider = provider.provider) ∧
      expected = ⟨some provider.model, some provider.effort,
        provider.observedTotalTokens, provider.observedContextWindow⟩ ∧
      snapshot.providerContext = provider.contextId := by
  simp only [validateProviderMetadata, ok_iff, hexpected, exists_eq_left', not_exists, not_and,
    not_or, ne_eq, not_not]
  obtain ⟨model, effort, totalTokens, contextWindow⟩ := expected
  simp only [mk.injEq, and_assoc]

structure ProviderMatches (db : Db) (taskId : TaskId) (snapshot : TaskSnapshot)
    (record : TaskConfigurationRecord) (provider : ProviderCheckpoint) :
    Prop where
  context : provider.contextId = snapshot.providerContext
  name : provider.provider = "codex"
  model : provider.model = record.activeModel.asStr
  effort : provider.effort = record.activeEffort.asCodexValue
  usage : (db.journal taskId).foldl observeUsage ⟨none, none⟩ =
    ⟨provider.observedTotalTokens, provider.observedContextWindow⟩

theorem Authorized.providerMatches (h : Authorized db row record checkpoint) :
    ProviderMatches db checkpoint.taskId row.snapshot record checkpoint.provider :=
  ⟨h.context, h.provider, h.model, h.effort, h.usage⟩

/-- The builder expects the model and the effort that the store requires
exactly while no applied configuration has changed them.  Otherwise each check
rejects what the other accepts. -/
theorem provider_expectations_agree_iff (sha256 : Sha256) (calls : List Call)
    (taskId : TaskId) (row : AgentTaskRow) (previous : Option CanonicalCheckpoint)
    (hrow : (World.run sha256 calls).db.agentTasks.find? taskId = some row)
    (hprevious : getLatestTaskCheckpoint sha256 (World.run sha256 calls).db taskId = .ok previous) :
    let db := (World.run sha256 calls).db
    ∃ events expected record, readTaskEventsAfter db taskId (sourceEnd previous) = .ok events ∧
      events.foldlM observe (initial previous) = .ok expected ∧
      loadTaskConfigurationRecord db taskId = some record ∧
      (expected.model = some record.activeModel.asStr ∧
        expected.effort = some record.activeEffort.asCodexValue ↔
          KeepsProvider previous (db.journal taskId)) ∧
      (∀ input validated, input.taskId = taskId →
        input.checkpoint.taskId = taskId →
        fullAuthorityCheck db input = .ok validated →
          (validateProviderMetadata input.checkpoint.provider row.snapshot
            previous events = .ok () ↔ KeepsProvider previous (db.journal taskId))) ∧
      ∀ provider, provider.provider = "codex" →
        validateProviderMetadata provider row.snapshot previous events = .ok () →
        (ProviderMatches db taskId row.snapshot record provider ↔
          KeepsProvider previous (db.journal taskId)) := by
  intro db
  have hconsistent : db.Consistent := World.run_consistent calls
  obtain ⟨before, tail, base, hstart⟩ := providerStart_of_run hrow hprevious
  obtain ⟨record, hchildren⟩ := (World.run_childrenFollow calls).rows taskId row hrow
  obtain ⟨state, hstate⟩ := hstart.reduced
  obtain ⟨markers, hbase⟩ := hstart.configuration
  obtain ⟨events, hevents, hexpected⟩ := hstart.expected
  have hreduced := (hconsistent.replayed.rows taskId row hrow).fold
  have hfold := hchildren.fold
  rw [hstart.split] at hreduced hfold
  have hactive := active_eq_appliedAfter hstate hreduced hbase hfold hstart.early hstart.late
  rw [← hstart.split] at hactive
  have hiff : base.activeModel.asStr = record.activeModel.asStr ∧
      base.activeEffort.asCodexValue = record.activeEffort.asCodexValue ↔
        KeepsProvider previous (db.journal taskId) := by
    unfold KeepsProvider
    rw [hstart.baseline]
    cases happlied : appliedAfter (sourceEnd previous) (db.journal taskId) with
    | none =>
      rw [happlied] at hactive
      obtain ⟨hmodel, heffort⟩ := Prod.mk.inj hactive
      simp [hmodel, heffort]
    | some applied =>
      rw [happlied] at hactive
      obtain ⟨hmodel, heffort⟩ := Prod.mk.inj
        (hactive.trans (show Option.getD (some applied) _ = (applied.1, applied.2) from rfl))
      simp [hmodel, heffort]
  refine ⟨events, _, record, hevents, hexpected, ?_, ?_, ?_, ?_⟩
  · unfold loadTaskConfigurationRecord
    rw [hchildren.configuration]
    rfl
  · simpa using hiff
  · intro input validated hinput htask hfull
    subst hinput
    unfold fullAuthorityCheck at hfull
    rw [validateTaskAuthorityFromJournal_eq_ok hconsistent hrow hchildren] at hfull
    have hrow' := hrow
    rw [← htask] at hrow'
    have hmatches := (validateCheckpointAuthority_eq_ok hconsistent hrow' hfull).1.providerMatches
    rw [htask] at hmatches
    rw [validateProviderMetadata_eq_ok hexpected, ← hiff, hmatches.usage,
      hmatches.model, hmatches.effort, hmatches.context]
    simp only [mk.injEq, Option.some.injEq, and_true]
    refine and_iff_right ?_
    intro checkpoint hcheckpoint
    rw [hstart.named checkpoint hcheckpoint, hmatches.name]
  · intro provider hcodex hbuilder
    rw [validateProviderMetadata_eq_ok hexpected] at hbuilder
    simp only [mk.injEq, Option.some.injEq] at hbuilder
    obtain ⟨-, ⟨hmodel, heffort, htokens, hwindow⟩, hcontext⟩ := hbuilder
    rw [← hiff, hmodel, heffort]
    constructor
    · intro h
      exact ⟨h.model, h.effort⟩
    · rintro ⟨hsameModel, hsameEffort⟩
      refine ⟨hcontext.symm, hcodex, hsameModel, hsameEffort, ?_⟩
      rw [← htokens, ← hwindow]

namespace Sample

def reconfiguration (model : ModelId) (effort : ReasoningEffort) : List TaskEvent :=
  [.configurationQueued controlId model effort .default, .configurationApplied controlId]

end Sample

open Sample

theorem sample_reconfiguration_expectations_agree :
    let world := World.run (fun _ => emptyDigest) (calls (reconfiguration Task.Sample.model .low))
    ∃ events expected record, readTaskEventsAfter world.db Task.Sample.taskId 0 = .ok events ∧
      events.foldlM observe (initial none) = .ok expected ∧
      loadTaskConfigurationRecord world.db Task.Sample.taskId = some record ∧
      expected.model = some record.activeModel.asStr ∧
      expected.effort = some record.activeEffort.asCodexValue := by
  intro world
  have hrun : ∃ row ∈ world.db.agentTasks.find? Task.Sample.taskId,
      getLatestTaskCheckpoint (fun _ => emptyDigest) world.db Task.Sample.taskId = .ok none ∧
      appliedAfter 0 (world.db.journal Task.Sample.taskId) = some (Task.Sample.model, .low) ∧
      createdProvider (world.db.journal Task.Sample.taskId) = some ("m1", "low") := by
    decide +revert +kernel
  subst world
  obtain ⟨row, hrow, hprevious, happlied, hcreated⟩ := hrun
  obtain ⟨events, expected, record, hevents, hexpected, hrecord, hiff, -⟩ :=
    provider_expectations_agree_iff (fun _ => emptyDigest)
      (calls (reconfiguration Task.Sample.model .low))
      Task.Sample.taskId row none hrow hprevious
  have hkeeps := hiff.mpr (by
    intro applied h
    cases happlied.symm.trans h
    exact hcreated)
  exact ⟨events, expected, record, hevents, hexpected, hrecord, hkeeps⟩

/-- After another model was applied the builder still expects the first one,
and rejects the metadata that the store requires. -/
theorem sample_reconfiguration_expectations_differ :
    let world := World.run (fun _ => emptyDigest) (calls (reconfiguration model2 .high))
    ∃ row ∈ world.db.agentTasks.find? Task.Sample.taskId,
      getLatestTaskCheckpoint (fun _ => emptyDigest) world.db Task.Sample.taskId = .ok none ∧
      ∃ events ∈ (readTaskEventsAfter world.db Task.Sample.taskId 0).toOption,
      ∃ record ∈ loadTaskConfigurationRecord world.db Task.Sample.taskId,
        record.activeModel = model2 ∧ record.activeEffort = .high ∧
        validateProviderMetadata ⟨"codex", record.activeModel.asStr,
          record.activeEffort.asCodexValue, none, none, none⟩ row.snapshot
          none events = .error .invalidSource ∧
        validateProviderMetadata ⟨"codex", "m1", "low", none, none, none⟩
          row.snapshot none events = .ok () := by
  decide +kernel

end CarlAgent.Storage
