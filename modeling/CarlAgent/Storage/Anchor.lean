import CarlAgent.Storage.AuthorityTail
import CarlAgent.Task.Lifecycle

/-!
# Kept authorities stay sound

A handle keeps the authority of a checkpoint that it committed.  Whatever is
written afterwards, the authority goes on describing a prefix of its task's
journal, and the checkpoint it was kept for stays as it was.
-/

namespace CarlAgent.Storage

open Foundation CarlAgent.Task World Sample List

variable {sha256 : Sha256}
variable {call : Call} {id : CheckpointId} {children' : ChildTables}
  {allowed : Db → Action → Prop} {l : List Nat} {sequence : Nat}
  {stored : TaskCheckpointRow} {current : TaskRecord} {u : Unit}
variable {db db' : Db} {h : Nat}
  {anchor : Option AuthenticatedCheckpointAuthority}
  {validated : ValidatedCheckpointAuthority} {world : World}

/-- Journals grow at their end and checkpoints are never rewritten. -/
structure Extends (db db' : Db) : Prop where
  journal : ∀ taskId, ∃ more, db'.journal taskId = db.journal taskId ++ more
  checkpoints : ∀ id stored, db.children.taskCheckpoints.find? id = some stored →
      db'.children.taskCheckpoints.find? id = some stored

theorem Extends.refl (db : Db) : Extends db db :=
  ⟨fun _ => ⟨[], by simp⟩, fun _ _ h => h⟩

theorem Extends.trans {a b c : Db} (hab : Extends a b) (hbc : Extends b c) : Extends a c := by
  refine ⟨?_, fun id stored h => hbc.checkpoints id stored (hab.checkpoints id stored h)⟩
  intro taskId
  obtain ⟨first, hfirst⟩ := hab.journal taskId
  obtain ⟨second, hsecond⟩ := hbc.journal taskId
  exact ⟨first ++ second, by rw [hsecond, hfirst, append_assoc]⟩

variable {next : TaskSnapshot} {record : TaskConfigurationRecord} {children : ChildTables}
  {event : TaskEvent}

theorem ChildWrite.checkpoints {taskId : TaskId}
    (h : ChildWrite children taskId sequence event children')
    (hstored : children.taskCheckpoints.find? id = some stored) :
    children'.taskCheckpoints.find? id = some stored := by
  cases h with
  | checkpointCommitted hinsert =>
    exact Table.find?_insert_of_some hinsert hstored
  | epochClosed _ hclose hrest =>
    rw [hrest, closeEpoch_rest hclose]
    exact hstored
  | configurationQueued _ _ hrest | configurationApplied _ _ _ _ _ _ hrest | steeringQueued hrest =>
    rw [hrest]
    exact hstored
  | _ => exact hstored

theorem ChildrenChange.checkpoints {taskId : TaskId}
    (h : ChildrenChange children taskId sequence event children')
    (hstored : children.taskCheckpoints.find? id = some stored) :
    children'.taskCheckpoints.find? id = some stored := by
  cases h with
  | event h => exact (childTables_apply_write h).checkpoints hstored
  | canonical input _ _ h =>
    obtain ⟨checkpoints, packages, hinsert, -, rfl⟩ := insertCanonical_writes h
    exact Table.find?_insert_of_some hinsert hstored

theorem StepKind.extends (h : StepKind db db') : Extends db db' := by
  cases h with
  | idle h =>
    refine ⟨fun taskId => ⟨[], by rw [h.journal, append_nil]⟩, ?_⟩
    intro id stored hstored
    rw [h.children]
    exact hstored
  | @created input workspace session h =>
    refine ⟨?_, ?_⟩
    · intro taskId
      rw [h.journal]
      by_cases hid : taskId = input.taskId
      · rw [if_pos hid, hid]
        exact ⟨_, rfl⟩
      · exact ⟨[], by rw [if_neg hid, append_nil]⟩
    · intro id stored hstored
      rw [h.children]
      exact hstored
  | @append taskId event row session next h hchildren =>
    refine ⟨?_, fun id stored => hchildren.checkpoints⟩
    intro id
    rw [h.journal]
    by_cases hid : id = taskId
    · rw [if_pos hid, hid]
      exact ⟨_, rfl⟩
    · exact ⟨[], by rw [if_neg hid, append_nil]⟩

theorem DbRun.extends (h : DbRun sha256 allowed db db') : Extends db db' := by
  induction h with
  | refl => exact .refl _
  | tail _ _ hstep ih => exact ih.trans hstep.kind.extends

theorem World.run_extends (calls more : List Call) :
    Extends (run sha256 calls).db (run sha256 (calls ++ more)).db := by
  induction more using reverseRecOn with
  | nil =>
    rw [append_nil]
    exact .refl _
  | append_singleton more call ih =>
    refine ih.trans ?_
    rw [← append_assoc, run, run, foldl_concat, step]
    split
    next hrun => exact (Call.run_steps hrun).extends
    next => exact .refl _

/-- Journals only grow.  A task keeps its session and its budget, and one that has
ended keeps its journal and its snapshot, in every later state. -/
theorem tasks_persist (sha256 : Sha256) (calls more : List Call) :
    let before := (run sha256 calls).db
    let after := (run sha256 (calls ++ more)).db
    Extends before after ∧ ∀ taskId row, before.agentTasks.find? taskId = some row →
      ∃ later, after.agentTasks.find? taskId = some later ∧
        later.snapshot.sessionId = row.snapshot.sessionId ∧
        later.snapshot.budget = row.snapshot.budget ∧
        (row.snapshot.status.isTerminal = true →
          later.snapshot = row.snapshot ∧ after.journal taskId = before.journal taskId) := by
  intro before after
  have hextends : Extends before after := run_extends calls more
  refine ⟨hextends, fun taskId row hrow => ?_⟩
  have hearlier := (run_consistent calls).replayed.rows taskId row hrow
  have hafter : after.Replayed := (run_consistent (calls ++ more)).replayed
  obtain ⟨added, hadded⟩ := hextends.journal taskId
  obtain ⟨later, hrow⟩ := hafter.exists_row
    (hadded ▸ append_ne_nil_of_left_ne_nil (reduced_ne_nil hearlier.fold) added)
  have hlater := hafter.rows taskId later hrow
  have hkept {P : TaskSnapshot → Prop} := reduceJournal_append_induction (P := P)
    hearlier.fold (hadded ▸ hlater.fold)
  have hsame := @hkept (fun state => state.sessionId = row.snapshot.sessionId ∧
    state.budget = row.snapshot.budget) ⟨rfl, rfl⟩ fun _ _ _ _ hstep hstate =>
      ⟨hstep.frame.2.1.trans hstate.1, hstep.frame.2.2.1.trans hstate.2⟩
  refine ⟨later, hrow, hsame.1, hsame.2, fun hended => ?_⟩
  have hfinal := @hkept (· = row.snapshot) rfl fun _ _ _ _ hstep hstate =>
    absurd (hstate ▸ hended) (by simp [hstep.running])
  refine ⟨hfinal, ?_⟩
  have hcount := hlater.count
  rw [hfinal, hearlier.count, hadded, length_append, left_eq_add, length_eq_zero_iff] at hcount
  rw [hadded, hcount, append_nil]

/-- The authority describes a prefix of the journal, and its checkpoint is
stored. -/
structure AuthenticatedCheckpointAuthority.SoundIn
    (authority : AuthenticatedCheckpointAuthority) (db : Db)
    (taskId : TaskId) : Prop where
  describes : ∃ before after, db.journal taskId = before ++ after ∧ authority.Describes before
  stored : authority.StoredIn db taskId

variable {authority : AuthenticatedCheckpointAuthority} {row : AgentTaskRow}
  {input : NewCheckpoint} {session : SessionRow} {response : Response}

theorem AuthenticatedCheckpointAuthority.SoundIn.extend {taskId : TaskId}
    (h : authority.SoundIn db taskId) (hextends : Extends db db') :
    authority.SoundIn db' taskId := by
  obtain ⟨before, after, hsplit, hdescribes⟩ := h.describes
  obtain ⟨stored, checkpoint, hfind, hrest⟩ := h.stored.row
  obtain ⟨more, hmore⟩ := hextends.journal taskId
  refine ⟨⟨before, after ++ more, ?_, hdescribes⟩,
    ⟨stored, checkpoint, hextends.checkpoints _ _ hfind, hrest⟩⟩
  rw [hmore, hsplit, append_assoc]

theorem min?_of_increasing {first : Nat} (hincreasing : (first :: l).Pairwise (· < ·)) :
    (first :: l).min? = some first := by
  rw [min?_eq_some_iff]
  refine ⟨by simp, ?_⟩
  intro b hb
  rcases mem_cons.mp hb with rfl | hb
  · exact le_refl _
  · exact ((pairwise_cons.mp hincreasing).1 b hb).le

theorem max?_of_increasing {last : Nat} (hincreasing : (l ++ [last]).Pairwise (· < ·)) :
    (l ++ [last]).max? = some last := by
  rw [max?_eq_some_iff]
  refine ⟨by simp, ?_⟩
  intro b hb
  rcases mem_append.mp hb with hb | hb
  · exact ((pairwise_append.mp hincreasing).2.2 b hb last (by simp)).le
  · rw [mem_singleton.mp hb]

/-- MIN and MAX over events in order are the first and the last sequence. -/
theorem sequenceBounds_of_filter {p : EventEnvelope → Bool} {events : List EventEnvelope}
    (hfilter : db.events.rows.filter p = events)
    (hincreasing : events.Pairwise fun a b => a.sequence < b.sequence) (hne : events ≠ []) :
    sequenceBounds db p = some (firstSequence events, lastSequence events) := by
  have hsequences : (events.map (·.sequence)).Pairwise (· < ·) := pairwise_map.mpr hincreasing
  have hmin : (events.map (·.sequence)).min? = some (firstSequence events) := by
    cases events with
    | nil => exact absurd rfl hne
    | cons envelope rest => exact min?_of_increasing hsequences
  have hmax : (events.map (·.sequence)).max? = some (lastSequence events) := by
    cases events using reverseRecOn with
    | nil => exact absurd rfl hne
    | append_singleton front last =>
      have hlast : lastSequence (front ++ [last]) = last.sequence := by
        simp [lastSequence]
      rw [map_append] at hsequences ⊢
      rw [hlast]
      exact max?_of_increasing hsequences
  simp only [sequenceBounds, hfilter, hmin, hmax]

/-! ## Accepted checkpoints -/

def LatestDigest (db : Db) (taskId : TaskId) (snapshot : TaskSnapshot)
    (digest : Option String) : Prop :=
  match snapshot.latestCheckpoint with
  | none => digest = none
  | some checkpointId => ∃ stored, db.children.taskCheckpoints.find? checkpointId = some stored ∧
      stored.taskId = taskId ∧ digest = some stored.digest

structure FollowsHistory (db : Db) (taskId : TaskId) (snapshot : TaskSnapshot)
    (checkpoint : CanonicalCheckpoint) : Prop where
  first : checkpoint.sourceSequenceStart = firstSequence (db.journal taskId)
  last : checkpoint.sourceSequenceEnd = lastSequence (db.journal taskId)
  previous : LatestDigest db taskId snapshot checkpoint.previousDigest

theorem sequenceBounds_journal {taskId : TaskId} (hdb : db.Consistent)
    (hrow : db.agentTasks.find? taskId = some row) :
    sequenceBounds db (fun envelope =>
      decide (envelope.sessionId = row.snapshot.sessionId) && isTaskEvent taskId envelope) =
      some (firstSequence (db.journal taskId), lastSequence (db.journal taskId)) := by
  have hreplayed := hdb.replayed.rows taskId row hrow
  refine sequenceBounds_of_filter ?_ (hdb.journal_increasing taskId) (reduced_ne_nil hreplayed.fold)
  unfold Db.journal
  refine filter_congr fun envelope hmem => ?_
  cases htask : isTaskEvent taskId envelope with
  | false => simp
  | true =>
    have hsession : envelope.sessionId = row.sessionId :=
      hreplayed.inSession envelope (mem_filter.mpr ⟨hmem, htask⟩)
    simp [hsession, hreplayed.coherent.sessionId]

theorem validateCheckpointHistory_eq_ok (hdb : db.Consistent)
    (hrow : db.agentTasks.find? input.taskId = some row) :
    validateCheckpointHistory db ⟨row.snapshot, row.revision⟩ input = .ok u ↔
      FollowsHistory db input.taskId row.snapshot input.checkpoint := by
  have hparts : FollowsHistory db input.taskId row.snapshot input.checkpoint ↔
      (input.checkpoint.sourceSequenceStart = firstSequence (db.journal input.taskId) ∧
        input.checkpoint.sourceSequenceEnd = lastSequence (db.journal input.taskId)) ∧
        LatestDigest db input.taskId row.snapshot input.checkpoint.previousDigest :=
    ⟨fun h => ⟨⟨h.first, h.last⟩, h.previous⟩, fun h => ⟨h.1.1, h.1.2, h.2⟩⟩
  rw [hparts]
  unfold LatestDigest
  cases hlatest : row.snapshot.latestCheckpoint with
  | none =>
    simp only [validateCheckpointHistory, sequenceBounds_journal hdb hrow, hlatest, ok_iff,
      Option.some.injEq, exists_eq_left', not_or, ne_eq, not_not]
  | some checkpointId =>
    simp only [validateCheckpointHistory, sequenceBounds_journal hdb hrow, hlatest, ok_iff,
      Option.some.injEq, exists_eq_left', Option.filter_eq_some_iff, decide_eq_true_eq, not_or,
      ne_eq, not_not, and_assoc]

structure Authorized (db : Db) (row : AgentTaskRow)
    (record : TaskConfigurationRecord) (checkpoint : CanonicalCheckpoint) :
    Prop where
  last : checkpoint.sourceSequenceEnd = lastSequence (db.journal checkpoint.taskId)
  boundary : SafeBoundary row.snapshot
  contract : checkpoint.contract = row.snapshot.contract
  context : checkpoint.provider.contextId = row.snapshot.providerContext
  provider : checkpoint.provider.provider = "codex"
  model : checkpoint.provider.model = record.activeModel.asStr
  effort : checkpoint.provider.effort = record.activeEffort.asCodexValue
  usage : (db.journal checkpoint.taskId).foldl observeUsage ⟨none, none⟩ =
    ⟨checkpoint.provider.observedTotalTokens, checkpoint.provider.observedContextWindow⟩
  operations : ∃ operations, (db.journal checkpoint.taskId).foldlM
      replayOperation OrderedMap.empty = .ok operations ∧
    Summarizes checkpoint.operations operations
  generation : expectedGeneration db ⟨row.snapshot, row.revision⟩ checkpoint
    none = .ok checkpoint.compactionGeneration

theorem validateCheckpointAuthority_eq_ok {checkpoint : CanonicalCheckpoint} (hdb : db.Consistent)
    (hrow : db.agentTasks.find? checkpoint.taskId = some row)
    (h : validateCheckpointAuthorityFromAnchor db
      ⟨row.snapshot, row.revision⟩ record checkpoint none = .ok validated) :
    Authorized db row record checkpoint ∧ validated = ⟨row.snapshot, record⟩ := by
  obtain ⟨operations, hoperations, hfull⟩ := replayAuthorityTail_full hdb hrow
  simp only [validateCheckpointAuthorityFromAnchor, hfull, authoritativeState, compareWithAuthority,
    ok_iff, exists_eq_left', not_or, ne_eq, not_not, Option.some.injEq, Bool.not_eq_true,
    Option.isSome_eq_false_iff, Option.isNone_iff_eq_none] at h
  obtain ⟨hlast, ⟨⟨hepoch, hresolved⟩, ⟨hcontract, hcontext⟩, ⟨hprovider, hmodel, heffort⟩,
    ⟨htokens, hwindow⟩, hsummary⟩, generation, hgeneration, hsame, rfl⟩ := h
  refine ⟨⟨hlast.symm, ⟨hepoch, hresolved⟩, hcontract, hcontext, hprovider,
    hmodel, heffort, ?_, ⟨operations, hoperations, hsummary⟩, ?_⟩, rfl⟩
  · rw [htokens, hwindow]
  · rw [hgeneration, hsame]

theorem validateCheckpointInput_taskId (h : validateCheckpointInput sha256 input = .ok u) :
    input.checkpoint.taskId = input.taskId := by
  simp only [validateCheckpointInput, ok_iff, not_or, ne_eq, not_not] at h
  exact h.1.1

/-- The incremental path accepts only what the full path accepts. -/
theorem CheckpointCommitted.authorized (hdb : db.Consistent)
    (h : CheckpointCommitted sha256 db anchor input row session next validated db')
    (hchildren : ChildrenReplayed db.children input.taskId (db.journal input.taskId) record)
    (hanchor : ∀ authority, anchor = some authority →
      authority.SoundIn db input.taskId ∧
        row.snapshot.latestCheckpoint = some authority.checkpointId) :
    Authorized db row record input.checkpoint ∧
      FollowsHistory db input.taskId row.snapshot input.checkpoint ∧
      validated = ⟨row.snapshot, record⟩ := by
  have htask := validateCheckpointInput_taskId h.inputOk
  have hrow := h.append.found
  have hvalidates := h.validates
  cases anchor with
  | none =>
    simp only [validateNewCheckpoint, ok_iff, Prod.mk.injEq] at hvalidates
    obtain ⟨authoritative, hjournal, _, -, _, hhistory, found, hauthority, -, rfl⟩ := hvalidates
    rw [validateTaskAuthorityFromJournal_eq_ok hdb hrow hchildren] at hjournal
    cases hjournal
    rw [validateCheckpointHistory_eq_ok hdb hrow] at hhistory
    rw [← htask] at hrow
    obtain ⟨hauthorized, hvalidated⟩ := validateCheckpointAuthority_eq_ok hdb hrow hauthority
    exact ⟨hauthorized, hhistory, hvalidated⟩
  | some authority =>
    obtain ⟨hsound, hlatest⟩ := hanchor authority rfl
    obtain ⟨before, after, hsplit, hdescribes⟩ := hsound.describes
    simp only [validateNewCheckpoint, validateCheckpointAuthorityIncremental, ok_iff, Prod.mk.injEq,
      not_or, ne_eq, not_not] at hvalidates
    obtain ⟨found, ⟨⟨hprevious, hstart⟩, hincremental⟩, -, rfl⟩ := hvalidates
    rw [← htask] at hrow hchildren hsplit
    have hstored := hsound.stored
    rw [← htask] at hstored
    rw [← validateCheckpointAuthorityFromAnchor_agree hdb hrow hchildren
      hsplit hdescribes hstored hlatest] at hincremental
    obtain ⟨hauthorized, hvalidated⟩ := validateCheckpointAuthority_eq_ok hdb hrow hincremental
    refine ⟨hauthorized, ⟨?_, ?_, ?_⟩, hvalidated⟩
    · rw [← htask, hsplit, hstart, hdescribes.first,
        firstSequence_append (reduced_ne_nil hdescribes.snapshot)]
    · rw [← htask]
      exact hauthorized.last
    · obtain ⟨stored, checkpoint, hfind, htaskId, hdigest, -⟩ := hsound.stored.row
      unfold LatestDigest
      rw [hlatest]
      exact ⟨stored, hfind, htaskId, by rw [hprevious, hdigest]⟩

theorem CheckpointCommitted.newAuthority_stored
    (h : CheckpointCommitted sha256 db anchor input row session next validated db')
    (dataVersion : Nat) : (newAuthority input validated dataVersion).StoredIn db' input.taskId := by
  obtain ⟨checkpoints, packages, hinsert, -, hchildren⟩ := insertCanonical_writes h.children
  refine ⟨⟨input.checkpoint.checkpointId, input.taskId, input.checkpointDigest,
    session.nextSequence, some input.checkpoint.normalize⟩, input.checkpoint.normalize, ?_, rfl,
    rfl, rfl, rfl⟩
  rw [hchildren]
  exact (Table.find?_insert hinsert _).trans (if_pos rfl)

structure World.Sound (world : World) : Prop where
  consistent : world.db.Consistent
  children : world.db.ChildrenFollow
  authorities : ∀ h taskId authority, world.authority h taskId = some authority →
      authority.SoundIn world.db taskId

theorem World.authority_setHandle (world : World) (h other : Nat) (handle : Handle)
    (taskId : TaskId) : (world.setHandle h handle).authority other taskId =
      if other = h then handle.authorities.find? taskId
      else world.authority other taskId := by
  unfold World.authority World.handle World.setHandle
  rw [OrderedMap.find?_insert]
  by_cases hother : other = h
  · simp [hother]
  · simp [hother]

theorem World.authority_commit (world : World) (h other : Nat) (db : Db) (taskId : TaskId) :
    (world.commit h db).authority other taskId = world.authority other taskId := by
  unfold commit
  rw [authority_setHandle]
  by_cases hother : other = h
  · subst hother
    rw [if_pos rfl]
    rfl
  · rw [if_neg hother]
    rfl

theorem World.authority_keepAuthority (world : World) (h other : Nat) (taskId id : TaskId)
    (authority : AuthenticatedCheckpointAuthority) :
    (world.keepAuthority h taskId authority).authority other id =
      if other = h ∧ id = taskId then some authority
      else world.authority other id := by
  unfold World.keepAuthority
  rw [World.authority_setHandle]
  by_cases hother : other = h
  · subst hother
    rw [if_pos rfl, OrderedMap.find?_insert]
    by_cases hid : id = taskId
    · simp [hid]
    · simp [hid, World.authority]
  · simp [hother]

theorem World.initial_sound : initial.Sound where
  consistent := Db.consistent_empty
  children := Db.childrenFollow_empty
  authorities := by
    intro h taskId authority hauthority
    cases hauthority

theorem World.authority_commitChanges (world : World) (h other : Nat) (db : Db) (taskId : TaskId) :
    (world.commitChanges h db).authority other taskId = world.authority other taskId := by
  unfold commitChanges
  split
  · rfl
  · exact world.authority_commit h other db taskId

theorem World.authority_settle {next : World} {appended : Option (TaskRecord × Db)}
    (hsettle : world.settle h appended = (next, response)) (other : Nat) (taskId : TaskId) :
    next.authority other taskId = world.authority other taskId := by
  cases appended with
  | none =>
    cases hsettle
    rfl
  | some result =>
    cases hsettle
    exact world.authority_commit h other _ taskId

theorem Call.run_authority {next : World}
    (hcall : ∀ h input expectedTaskRevision, call ≠ .commitCheckpoint h input expectedTaskRevision)
    (h : call.run sha256 world = .ok (next, response)) (other : Nat) (taskId : TaskId)
    (authority : AuthenticatedCheckpointAuthority)
    (hauthority : next.authority other taskId = some authority) :
    world.authority other taskId = some authority := by
  cases call <;> simp only [Call.run, ok_iff, Prod.exists, Prod.mk.injEq] at h
  case openStore h =>
    obtain ⟨_, -, rfl, -⟩ := h
    rw [authority_setHandle] at hauthority
    split at hauthority
    · cases hauthority
    · exact hauthority
  case createTaskIdempotent h input idempotencyKey commandDigest =>
    obtain ⟨record, result, -, h⟩ := h
    cases result with
    | none =>
      cases h
      exact hauthority
    | some db =>
      cases h
      rw [authority_commit] at hauthority
      exact hauthority
  case appendTaskEvent | appendControlledTaskSteering =>
    obtain ⟨appended, -, hsettle⟩ := h
    rw [authority_settle hsettle] at hauthority
    exact hauthority
  case commitCheckpoint => exact absurd rfl (hcall _ _ _)
  case reconcileRuntimeArtifacts | reconcileAbandonedTaskOperations =>
    obtain ⟨_, -, rfl, -⟩ := h
    rw [authority_commitChanges] at hauthority
    exact hauthority
  case otherCommit h =>
    obtain ⟨rfl, -⟩ := h
    rw [authority_commit] at hauthority
    exact hauthority
  case createTask h input =>
    obtain ⟨_, _, -, rfl, -⟩ := h
    rw [authority_commit] at hauthority
    exact hauthority
  all_goals
    obtain ⟨_, -, rfl, -⟩ := h
    rw [authority_commit] at hauthority
    exact hauthority

theorem incrementalAnchor_eq_some {dataVersion : Nat}
    {cached : Option AuthenticatedCheckpointAuthority}
    (h : incrementalAnchor sha256 db current dataVersion cached = some authority) :
    cached = some authority ∧ authenticatedCheckpointMatchesDatabase sha256 db current authority =
        true := by
  obtain ⟨hcached, hmatch⟩ := Option.filter_eq_some_iff.mp h
  exact ⟨hcached, (Bool.and_eq_true_iff.mp hmatch).2⟩

theorem authenticatedCheckpointMatchesDatabase_latest
    (h : authenticatedCheckpointMatchesDatabase sha256 db current authority = true) :
    current.snapshot.latestCheckpoint = some authority.checkpointId := by
  unfold authenticatedCheckpointMatchesDatabase at h
  cases hlatest : current.snapshot.latestCheckpoint with
  | none =>
    rw [hlatest] at h
    cases h
  | some checkpointId =>
    simp only [hlatest] at h
    split at h
    · cases h
    · rename_i hsame
      rw [(not_not.mp (not_or.mp hsame).1)]

theorem World.Sound.authorized (hworld : world.Sound)
    (hcommitted : CheckpointCommitted sha256 world.db
      (incrementalAnchor sha256 world.db ⟨row.snapshot, row.revision⟩
        (world.dataVersion h) (world.authority h input.taskId)) input row
      session next validated db') :
    ∃ record, ChildrenReplayed world.db.children input.taskId
        (world.db.journal input.taskId) record ∧
      Authorized world.db row record input.checkpoint ∧
      FollowsHistory world.db input.taskId row.snapshot input.checkpoint ∧
      validated = ⟨row.snapshot, record⟩ := by
  obtain ⟨record, hchildren⟩ := hworld.children.rows _ _ hcommitted.append.found
  refine ⟨record, hchildren, hcommitted.authorized hworld.consistent hchildren ?_⟩
  intro authority hanchor
  obtain ⟨hcached, hmatch⟩ := incrementalAnchor_eq_some hanchor
  exact ⟨hworld.authorities h input.taskId authority hcached,
    authenticatedCheckpointMatchesDatabase_latest hmatch⟩

theorem DbRun.keeps (h : DbRun sha256 allowed db db') (hconsistent : db.Consistent)
    (hchildren : db.ChildrenFollow) : db'.Consistent ∧ db'.ChildrenFollow := by
  refine h.invariant (P := fun db => db.Consistent ∧ db.ChildrenFollow) ?_ ⟨hconsistent, hchildren⟩
  rintro db action db' ⟨hconsistent, hchildren⟩ _ hstep
  exact ⟨hstep.consistent hconsistent, hstep.kind.childrenFollow hconsistent.replayed hchildren⟩

theorem Call.run_sound {next : World} (hworld : world.Sound)
    (h : call.run sha256 world = .ok (next, response)) : next.Sound := by
  have hsteps := Call.run_steps h
  obtain ⟨hconsistent, hchildren⟩ := hsteps.keeps hworld.consistent hworld.children
  by_cases hcall : ∀ h input expectedTaskRevision,
      call ≠ .commitCheckpoint h input expectedTaskRevision
  · refine ⟨hconsistent, hchildren, ?_⟩
    intro other taskId authority hauthority
    have hkept := Call.run_authority hcall h other taskId authority hauthority
    exact (hworld.authorities other taskId authority hkept).extend hsteps.extends
  · simp only [ne_eq, not_forall, not_not] at hcall
    obtain ⟨handle, input, expectedTaskRevision, rfl⟩ := hcall
    simp only [Call.run, bind_eq_ok] at h
    obtain ⟨committed, hcommit, hrun⟩ := h
    cases committed with
    | none =>
      cases hrun
      exact hworld
    | some result =>
      cases hrun
      obtain ⟨_, _, db'⟩ := result
      obtain ⟨_, _, _, _, hcommitted, -, rfl, -⟩ := commitCheckpoint_eq_some hcommit
      obtain ⟨record, hreplayed, hauthorized, hhistory, rfl⟩ := hworld.authorized hcommitted
      refine ⟨hconsistent, hchildren, ?_⟩
      intro other taskId authority hauthority
      rw [authority_keepAuthority] at hauthority
      split at hauthority
      · rename_i hsame
        cases hauthority
        rw [hsame.2]
        have hjournal := hcommitted.append.journal input.taskId
        rw [if_pos rfl] at hjournal
        -- The new authority describes the journal before its checkpoint.
        have husage := hauthorized.usage
        have hoperations := hauthorized.operations
        rw [validateCheckpointInput_taskId hcommitted.inputOk] at husage hoperations
        refine ⟨⟨_, _, hjournal, ?_⟩, hcommitted.newAuthority_stored _⟩
        exact ⟨hhistory.first, hhistory.last,
          (hworld.consistent.replayed.rows _ _ hcommitted.append.found).fold,
          hauthorized.boundary.2, ⟨_, hreplayed.fold⟩, husage, hoperations⟩
      · rw [authority_commit] at hauthority
        exact (hworld.authorities other taskId authority hauthority).extend hsteps.extends

theorem World.run_sound (calls : List Call) : (run sha256 calls).Sound :=
  run_invariant initial_sound (fun _ _ _ _ hworld _ hrun => Call.run_sound hworld hrun)
    (callsMeet_true _ calls)

/-! ## The two authority checks of a candidate -/

/-- The full check of a candidate checkpoint: the projections against the
whole journal, then the candidate. -/
def fullAuthorityCheck (db : Db) (input : NewCheckpoint) :
    Except CarlError ValidatedCheckpointAuthority := do
  let authoritative ← validateTaskAuthorityFromJournal db input.taskId
  validateCheckpointAuthority db authoritative.record authoritative.configuration input.checkpoint

/-- With the history check passed, the check from a kept authority accepts
exactly the candidates that the full check accepts, with the same result. -/
theorem incremental_authority_agrees (sha256 : Sha256) (calls : List Call)
    (h : Nat) (input : NewCheckpoint) (current : TaskRecord)
    (authority : AuthenticatedCheckpointAuthority) (htask : input.checkpoint.taskId = input.taskId)
    (hload : loadTaskRecord (run sha256 calls).db input.taskId = .ok (some current))
    (hkept : (run sha256 calls).authority h input.taskId = some authority)
    (hlatest : current.snapshot.latestCheckpoint = some authority.checkpointId)
    (hhistory : validateCheckpointHistory (run sha256 calls).db current input = .ok ()) :
    ∀ validated, fullAuthorityCheck (run sha256 calls).db input = .ok validated ↔
        validateCheckpointAuthorityIncremental (run sha256 calls).db
          current input.checkpoint authority = .ok validated := by
  have hworld := @World.run_sound sha256 calls
  generalize run sha256 calls = world at *
  obtain ⟨row, hrow, -, rfl⟩ := loadTaskRecord_eq_some.mp hload
  obtain ⟨record, hchildren⟩ := hworld.children.rows _ _ hrow
  have hsound := hworld.authorities h input.taskId authority hkept
  obtain ⟨before, after, hsplit, hdescribes⟩ := hsound.describes
  obtain ⟨stored, checkpoint, hfind, hstoredTask, hdigest, -⟩ := hsound.stored.row
  have hfollows := (validateCheckpointHistory_eq_ok hworld.consistent hrow).mp hhistory
  -- The history check covers what the incremental check asks of the anchor.
  have hprevious : input.checkpoint.previousDigest = some authority.digest := by
    have hprevious := hfollows.previous
    unfold LatestDigest at hprevious
    rw [hlatest] at hprevious
    obtain ⟨other, hother, -, hprevious⟩ := hprevious
    rw [hfind] at hother
    cases hother
    rw [hprevious, hdigest]
  have hstart : input.checkpoint.sourceSequenceStart = authority.sourceSequenceStart := by
    rw [hfollows.first, hsplit, hdescribes.first,
      firstSequence_append (reduced_ne_nil hdescribes.snapshot)]
  have hfull : fullAuthorityCheck world.db input = validateCheckpointAuthorityFromAnchor world.db
        ⟨row.snapshot, row.revision⟩ record input.checkpoint none := by
    unfold fullAuthorityCheck
    rw [validateTaskAuthorityFromJournal_eq_ok hworld.consistent hrow hchildren]
    rfl
  have hincremental : validateCheckpointAuthorityIncremental world.db
      ⟨row.snapshot, row.revision⟩ input.checkpoint authority =
        validateCheckpointAuthorityFromAnchor world.db
          ⟨row.snapshot, row.revision⟩ authority.configuration
          input.checkpoint (some authority) := by
    simp [validateCheckpointAuthorityIncremental, rejectIf, hprevious, hstart, bind, Except.bind]
  intro validated
  have hstored := hsound.stored
  rw [← htask] at hrow hchildren hsplit hstored
  rw [hfull, hincremental, validateCheckpointAuthorityFromAnchor_agree
    hworld.consistent hrow hchildren hsplit hdescribes hstored hlatest]

namespace Sample

open CarlAgent.Task.Sample

def checkpointId : CheckpointId := ⟨5⟩
def packageId : ContextPackageId := ⟨6⟩

def checkpoint (checkpointId : CheckpointId) (generation last : Nat)
    (previousDigest : Option String) : CanonicalCheckpoint :=
  { CanonicalCheckpoint.blank taskId (contract .pending []) emptyDigest.text with
    checkpointId, verification := [⟨"clause", []⟩],
    provider := ⟨"codex", model.asStr, "low", none, none, none⟩,
    compactionGeneration := generation, sourceSequenceEnd := last, previousDigest }

def renderedDigest : Sha256Digest :=
  ⟨0x2d711642b726b04401627ca9fbac32f5c8530fb1903cc4db02258717921a4881⟩

def package (checkpointId : CheckpointId) (last : Nat) : ContextPackage where
  schemaVersion := contextPackageSchemaVersion
  packageId := packageId
  checkpointId := checkpointId
  rendered := "x"
  ledger := [⟨.checkpoint, 1, 1, false, renderedDigest.text, true, none⟩]
  sourceSequenceStart := 1
  sourceSequenceEnd := last

def checkpointDigest : Sha256Digest :=
  ⟨0x06ed6a65e68a67c5b739961fb73d1ed1c9b9013bbba8384765eecfdaf349bde5⟩

def packageDigest : Sha256Digest :=
  ⟨0x3797b0f1b7e3f52313641a7c956df39501b018412cd4de3eb3ecbe727b7cf17d⟩

def sha (bytes : List UInt8) : Sha256Digest :=
  match bytes.length with
  | 1 => renderedDigest
  | 393 => packageDigest
  | 983 => checkpointDigest
  | _ => emptyDigest

def newCheckpoint : NewCheckpoint where
  taskId := taskId
  checkpoint := checkpoint checkpointId 0 1 none
  checkpointDigest := checkpointDigest.text
  contextPackage := package checkpointId 1
  contextPackageDigest := packageDigest.text

def checkpointCalls : List Call :=
  calls [] ++ [.commitCheckpoint 0 newCheckpoint 1]

def candidate : NewCheckpoint where
  taskId := taskId
  checkpoint := checkpoint ⟨7⟩ 1 2 (some checkpointDigest.text)
  checkpointDigest := emptyDigest.text
  contextPackage := package ⟨7⟩ 2
  contextPackageDigest := emptyDigest.text

end Sample

theorem sample_candidate_authority_agrees : ∃ row authority,
      (run sha checkpointCalls).db.agentTasks.find? Task.Sample.taskId = some row ∧
      (run sha checkpointCalls).authority 0 Task.Sample.taskId = some authority ∧
      fullAuthorityCheck (run sha checkpointCalls).db
        candidate = .ok ⟨row.snapshot, authority.configuration⟩ := by
  have hrun : ∃ row ∈ (run sha checkpointCalls).db.agentTasks.find? Task.Sample.taskId,
      ∃ authority ∈ (run sha checkpointCalls).authority 0 Task.Sample.taskId,
      row.snapshot.latestCheckpoint = some authority.checkpointId ∧
      validateCheckpointHistory (run sha
        checkpointCalls).db ⟨row.snapshot, row.revision⟩ candidate = .ok () ∧
      validateCheckpointAuthorityIncremental (run sha checkpointCalls).db
        ⟨row.snapshot, row.revision⟩ candidate.checkpoint authority =
          .ok ⟨row.snapshot, authority.configuration⟩ := by
    decide +kernel
  obtain ⟨row, hrow, authority, hkept, hlatest, hhistory, hvalidated⟩ := hrun
  have hcoherent := ((run_consistent _).replayed.rows _ _ hrow).coherent
  refine ⟨row, authority, hrow, hkept, ?_⟩
  exact (incremental_authority_agrees sha checkpointCalls 0 candidate _
    authority rfl (loadTaskRecord_eq_some.mpr ⟨row, hrow, hcoherent, rfl⟩) hkept hlatest hhistory
    _).mpr hvalidated

end CarlAgent.Storage
