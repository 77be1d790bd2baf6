import CarlAgent.Storage.JournalRead
import CarlAgent.Storage.OperationTail
import CarlAgent.Task.IncrementalBuild

/-!
# The full and the incremental authority check

The full check replays the whole journal, the incremental one the events after
an authenticated checkpoint.  Where the anchor describes the journal up to its
end, both replays reach the same state, so both checks accept the same
checkpoints with the same result.
-/

namespace CarlAgent.Storage

open Foundation CarlAgent.Task AuthorityReplay List

variable {operations : JournalOperations} {events : List EventEnvelope}

def observeUsage (usage : ObservedUsage) (envelope : EventEnvelope) : ObservedUsage :=
  match envelope.event with
  | .taskLifecycle _ event => usage.observe event
  | .other => usage

def lastOf (last : Option Nat) (events : List EventEnvelope) : Option Nat :=
  (events.getLast?.map (·.sequence)).or last

theorem lastOf_cons (last : Option Nat) (envelope : EventEnvelope) (events : List EventEnvelope) :
    lastOf last (envelope :: events) = lastOf (some envelope.sequence) events := by
  cases events with
  | nil => rfl
  | cons next rest =>
    simp [lastOf, getLast?_cons]

theorem foldlM_authority_plain {result : JournalOperations} (usage : ObservedUsage)
    (children : ChildReplay) (last : Option Nat)
    (hoperations : events.foldlM replayOperation operations = .ok result) :
    events.foldlM step ⟨usage, operations, none, children, last⟩ =
      .ok ⟨events.foldl observeUsage usage, result, none, children, lastOf last events⟩ := by
  induction events generalizing usage operations last with
  | nil =>
    cases hoperations
    rfl
  | cons envelope events ih =>
    obtain ⟨mid, hturn, hrest⟩ := foldlM_cons_eq_ok.mp hoperations
    rw [foldlM_cons_eq_ok, foldl_cons, lastOf_cons]
    refine ⟨⟨observeUsage usage envelope, mid, none, children,
      some envelope.sequence⟩, ?_, ih _ _ hrest⟩
    unfold replayOperation at hturn
    unfold observeUsage
    cases hevent : envelope.event with
    | other =>
      rw [hevent] at hturn
      cases hturn
    | taskLifecycle taskId event =>
      rw [hevent] at hturn
      simp [step, replayProjections, hevent, hturn, bind, Except.bind]

theorem foldlM_authority_anchored {result : JournalOperations} {snapshot next : TaskSnapshot}
    {children replayed : ChildReplay} (usage : ObservedUsage) (last : Option Nat)
    (hoperations : events.foldlM replayOperation operations = .ok result)
    (hreduce : events.foldlM (fun state envelope =>
      (reduceTask state envelope).map some) (some snapshot) = .ok (some next))
    (hchildren : events.foldlM replayTaskChildProjections children = .ok replayed) :
    events.foldlM step ⟨usage, operations, some snapshot, children, last⟩ =
      .ok ⟨events.foldl observeUsage usage, result, some next, replayed, lastOf last events⟩ := by
  induction events generalizing usage operations snapshot children last with
  | nil =>
    cases hoperations
    cases hreduce
    cases hchildren
    rfl
  | cons envelope events ih =>
    obtain ⟨mid, hturn, hrest⟩ := foldlM_cons_eq_ok.mp hoperations
    obtain ⟨_, hmap, hreduceRest⟩ := foldlM_cons_eq_ok.mp hreduce
    obtain ⟨reduced, hreduced, rfl⟩ := map_eq_ok_iff.mp hmap
    obtain ⟨child, hchild, hchildRest⟩ := foldlM_cons_eq_ok.mp hchildren
    rw [foldlM_cons_eq_ok, foldl_cons, lastOf_cons]
    refine ⟨⟨observeUsage usage envelope, mid, some reduced, child,
      some envelope.sequence⟩, ?_, ih _ _ hrest hreduceRest hchildRest⟩
    unfold replayOperation at hturn
    unfold observeUsage
    cases hevent : envelope.event with
    | other =>
      rw [hevent] at hturn
      cases hturn
    | taskLifecycle taskId event =>
      rw [hevent] at hturn
      simp [step, replayProjections,
        hevent, hturn, hreduced, hchild, bind, Except.bind, Except.mapError]

/-- One replay of the child rows knows fewer control markers than another. -/
def KnowsFewer (whole tail : ChildReplay) : Prop :=
  whole.configuration = tail.configuration ∧ tail.controlMarkers ⊆ whole.controlMarkers

theorem replayControlMarkers_fewer {known markers fewer : List ControlMarker} {sequence : Nat}
    {event : TaskEvent} (h : replayControlMarkers known sequence event = .ok markers)
    (hfewer : fewer ⊆ known) :
    ∃ rest, replayControlMarkers fewer sequence event = .ok rest ∧ rest ⊆ markers := by
  cases event
  case controlRequested controlId kind =>
    simp only [replayControlMarkers, ok_iff, Bool.not_eq_true, any_eq_false] at h ⊢
    obtain ⟨hfresh, rfl⟩ := h
    refine ⟨_, ⟨fun marker hmarker => hfresh marker (hfewer hmarker), rfl⟩, ?_⟩
    exact append_subset.mpr ⟨fun _ hmem => mem_append_left _ (hfewer hmem), subset_append_right _ _⟩
  all_goals
    cases h
    exact ⟨fewer, rfl, hfewer⟩

theorem KnowsFewer.turn {whole tail next : ChildReplay} {envelope : EventEnvelope}
    (h : KnowsFewer whole tail) (hturn : replayTaskChildProjections whole envelope = .ok next) :
    ∃ next', replayTaskChildProjections tail envelope = .ok next' ∧ KnowsFewer next next' := by
  unfold replayTaskChildProjections at hturn ⊢
  cases hevent : envelope.event with
  | other =>
    rw [hevent] at hturn
    cases hturn
  | taskLifecycle taskId event =>
    simp only [hevent, ok_iff] at hturn ⊢
    obtain ⟨configuration, hconfiguration, markers, hmarkers, rfl⟩ := hturn
    obtain ⟨rest, hrest, hsubset⟩ := replayControlMarkers_fewer hmarkers h.2
    rw [h.1] at hconfiguration
    exact ⟨_, ⟨configuration, hconfiguration, rest, hrest, rfl⟩, rfl, hsubset⟩

theorem KnowsFewer.fold {whole tail result : ChildReplay} (h : KnowsFewer whole tail)
    (hreplay : events.foldlM replayTaskChildProjections whole = .ok result) :
    ∃ result', events.foldlM replayTaskChildProjections tail = .ok result' ∧
      KnowsFewer result result' :=
  foldlM_simulation (fun _ _ _ _ _ hrel hturn => hrel.turn hturn) h hreplay

/-- An authority describes the events `before` its checkpoint. -/
structure AuthenticatedCheckpointAuthority.Describes (authority : AuthenticatedCheckpointAuthority)
    (before : List EventEnvelope) : Prop where
  first : authority.sourceSequenceStart = firstSequence before
  last : authority.sourceSequenceEnd = lastSequence before
  snapshot : reduceJournal before = .ok (some authority.taskSnapshot)
  resolved : authority.taskSnapshot.hasUnresolvedOperations = false
  configuration : ∃ markers, before.foldlM replayTaskChildProjections ⟨none, []⟩ =
      .ok ⟨some authority.configuration, markers⟩
  usage : before.foldl observeUsage ⟨none, none⟩ =
    ⟨authority.observedTotalTokens, authority.observedContextWindow⟩
  operations : ∃ operations, before.foldlM replayOperation OrderedMap.empty = .ok operations ∧
      Summarizes authority.operations operations

theorem getLast?_of_reduced {snapshot : TaskSnapshot}
    (h : reduceJournal events = .ok (some snapshot)) :
    ∃ last, events.getLast? = some last ∧ lastSequence events = last.sequence := by
  obtain ⟨last, hlast⟩ : ∃ last, events.getLast? = some last :=
    Option.isSome_iff_exists.mp (by simpa using reduced_ne_nil h)
  exact ⟨last, hlast, by simp [lastSequence, hlast]⟩

section Tail

variable {db : Db} {taskId : TaskId} {row : AgentTaskRow}
  {authority : AuthenticatedCheckpointAuthority}
  {before after : List EventEnvelope}

theorem journalAfter_lastSequence {snapshot : TaskSnapshot} (hdb : db.Consistent)
    (hsplit : db.journal taskId = before ++ after)
    (hreduced : reduceJournal before = .ok (some snapshot)) :
    db.journalAfter taskId (some (lastSequence before)) = after ∧ lastSequence before ≤ maxI64 := by
  obtain ⟨last, hlast, hsequence⟩ := getLast?_of_reduced hreduced
  have hall : afterCursor (·.sequence) none (db.journal taskId) = before ++ after := by
    rw [afterCursor_none, hsplit]
  have hmem : last ∈ db.journal taskId := by
    rw [hsplit]
    exact mem_append_left _ (mem_of_getLast? hlast)
  rw [hsequence]
  exact ⟨afterCursor_getLast (hdb.journal_increasing taskId) hall hlast, hdb.sequence_le hmem⟩

theorem replayAuthorityTail_full (hdb : db.Consistent)
    (hrow : db.agentTasks.find? taskId = some row) : ∃ operations,
      (db.journal taskId).foldlM replayOperation OrderedMap.empty = .ok operations ∧
      replayAuthorityTail db taskId none =
        .ok ⟨(db.journal taskId).foldl observeUsage ⟨none, none⟩, operations,
          none, ⟨none, []⟩, some (lastSequence (db.journal taskId))⟩ := by
  have hreplayed := hdb.replayed.rows taskId row hrow
  obtain ⟨operations, hoperations, -⟩ := replayOperation_journal hreplayed.fold
  obtain ⟨last, hlast, hsequence⟩ := getLast?_of_reduced hreplayed.fold
  refine ⟨operations, hoperations, ?_⟩
  rw [replayAuthorityTail_eq hdb hrow (by intro authority h; cases h)
    (by intro authority h; cases h)]
  have hplain := foldlM_authority_plain ⟨none, none⟩ ⟨none, []⟩ none hoperations
  have hlastOf : lastOf none (db.journal taskId) = some (lastSequence (db.journal taskId)) := by
    simp [lastOf, lastSequence, hlast]
  rw [hlastOf] at hplain
  rw [show db.journalAfter taskId (Option.map _ none) = db.journal taskId
    from db.journalAfter_none taskId]
  exact hplain

/-- The anchored replay reaches what the full one reaches. -/
theorem replayAuthorityTail_anchored (hdb : db.Consistent)
    (hrow : db.agentTasks.find? taskId = some row) {record : TaskConfigurationRecord}
    (hchildren : ChildrenReplayed db.children taskId (db.journal taskId) record)
    (hsplit : db.journal taskId = before ++ after) (hdescribes : authority.Describes before)
    (hoperations : (db.journal taskId).foldlM replayOperation OrderedMap.empty = .ok operations) :
    ∃ tailOperations markers, Alike operations tailOperations ∧
      replayAuthorityTail db taskId (some authority) =
        .ok ⟨(db.journal taskId).foldl observeUsage ⟨none, none⟩, tailOperations, some row.snapshot,
          ⟨some record, markers⟩, some (lastSequence (db.journal taskId))⟩ := by
  have hreplayed := hdb.replayed.rows taskId row hrow
  obtain ⟨hafter, hbound⟩ := journalAfter_lastSequence hdb hsplit hdescribes.snapshot
  rw [← hdescribes.last] at hafter hbound
  have hfold := hreplayed.fold
  have hchildFold := hchildren.fold
  rw [hsplit] at hfold hchildFold hoperations
  -- The three folds over the tail, from what the anchor describes.
  obtain ⟨state, hstate, hreduce⟩ := foldlM_append_eq_ok.mp hfold
  have hstart : state = some authority.taskSnapshot := by
    have hsnapshot := hdescribes.snapshot
    unfold reduceJournal at hsnapshot
    rw [hstate] at hsnapshot
    exact Except.ok.inj hsnapshot
  subst hstart
  obtain ⟨markers, hmarkers⟩ := hdescribes.configuration
  obtain ⟨child, hchild, hchildTail⟩ := foldlM_append_eq_ok.mp hchildFold
  have hchildStart : child = ⟨some authority.configuration, markers⟩ := by
    rw [hchild] at hmarkers
    exact Except.ok.inj hmarkers
  subst hchildStart
  have hfewer : KnowsFewer ⟨some authority.configuration, markers⟩
      ⟨some authority.configuration, []⟩ := ⟨rfl, nil_subset _⟩
  obtain ⟨⟨configuration, rest⟩, htail, hsame, -⟩ := hfewer.fold hchildTail
  have hconfiguration : configuration = some record := hsame.symm
  subst hconfiguration
  obtain ⟨mid, hmid, hoperationsTail⟩ := foldlM_append_eq_ok.mp hoperations
  obtain ⟨summarized, hsummarized, hsummary⟩ := hdescribes.operations
  have hmidEq : mid = summarized := by
    rw [hmid] at hsummarized
    exact Except.ok.inj hsummarized
  subst hmidEq
  have hresolved : (journalLedger mid).Resolved := by
    obtain ⟨operations', hoperations', hledger⟩ := replayOperation_journal hdescribes.snapshot
    rw [hmid] at hoperations'
    cases hoperations'
    rw [hledger, TaskSnapshot.ledger_resolved]
    exact hdescribes.resolved
  obtain ⟨tailOperations, htailOperations, halike⟩ :=
    foldlM_replayOperation_alike (hsummary.alike_anchored hresolved) hoperationsTail
  refine ⟨tailOperations, rest, halike, ?_⟩
  have hsession : ∀ other ∈ some authority, other.taskSnapshot.sessionId = row.sessionId := by
    rintro _ ⟨⟩
    obtain ⟨last, hlast, -⟩ := getLast?_of_reduced hdescribes.snapshot
    have hmem : last ∈ before := mem_of_getLast? hlast
    have hidentity := (reduced_identity hdescribes.snapshot last hmem).1
    rw [← hidentity]
    refine hreplayed.inSession last ?_
    rw [hsplit]
    exact mem_append_left _ hmem
  rw [replayAuthorityTail_eq hdb hrow hsession (by simpa using hbound)]
  have hanchored := foldlM_authority_anchored
    ⟨authority.observedTotalTokens, authority.observedContextWindow⟩
    (some authority.sourceSequenceEnd) htailOperations hreduce htail
  have husage : (db.journal taskId).foldl observeUsage ⟨none, none⟩ = after.foldl observeUsage
        ⟨authority.observedTotalTokens, authority.observedContextWindow⟩ := by
    rw [hsplit, foldl_append, hdescribes.usage]
  have hlastOf : lastOf (some authority.sourceSequenceEnd) after =
      some (lastSequence (db.journal taskId)) := by
    rw [hsplit, lastSequence_append, hdescribes.last]
    unfold lastOf
    cases after.getLast? <;> rfl
  rw [← husage, hlastOf] at hanchored
  rw [show db.journalAfter taskId (Option.map _ (some authority)) = after from hafter]
  exact hanchored

structure AuthenticatedCheckpointAuthority.StoredIn
    (authority : AuthenticatedCheckpointAuthority) (db : Db)
    (taskId : TaskId) : Prop where
  row : ∃ stored checkpoint,
    db.children.taskCheckpoints.find? authority.checkpointId = some stored ∧
      stored.taskId = taskId ∧ stored.digest = authority.digest ∧
      stored.checkpoint = some checkpoint ∧
      checkpoint.compactionGeneration = authority.compactionGeneration

theorem expectedGeneration_agree (current : TaskRecord) {checkpoint : CanonicalCheckpoint}
    (hstored : authority.StoredIn db checkpoint.taskId)
    (hlatest : current.snapshot.latestCheckpoint = some authority.checkpointId) :
    expectedGeneration db current checkpoint none =
      expectedGeneration db current checkpoint (some authority) := by
  obtain ⟨stored, previous, hfind, htask, -, hprevious, hgeneration⟩ := hstored.row
  simp [expectedGeneration, hlatest, hfind, Option.filter, htask, requireSome,
    hprevious, hgeneration, bind, Except.bind]

theorem validateCheckpointAuthorityFromAnchor_agree (hdb : db.Consistent)
    {checkpoint : CanonicalCheckpoint} {record other : TaskConfigurationRecord}
    (hrow : db.agentTasks.find? checkpoint.taskId = some row)
    (hchildren : ChildrenReplayed db.children checkpoint.taskId
      (db.journal checkpoint.taskId) record)
    (hsplit : db.journal checkpoint.taskId = before ++ after)
    (hdescribes : authority.Describes before) (hstored : authority.StoredIn db checkpoint.taskId)
    (hlatest : row.snapshot.latestCheckpoint = some authority.checkpointId) :
    validateCheckpointAuthorityFromAnchor db ⟨row.snapshot, row.revision⟩ record checkpoint none =
      validateCheckpointAuthorityFromAnchor db ⟨row.snapshot, row.revision⟩
        other checkpoint (some authority) := by
  obtain ⟨operations, hoperations, hfull⟩ := replayAuthorityTail_full hdb hrow
  obtain ⟨tailOperations, markers, halike, hanchored⟩ :=
    replayAuthorityTail_anchored hdb hrow hchildren hsplit hdescribes hoperations
  have hconfiguration : loadTaskConfigurationRecord db checkpoint.taskId = some record := by
    unfold loadTaskConfigurationRecord
    rw [hchildren.configuration]
    rfl
  have hgeneration := expectedGeneration_agree ⟨row.snapshot, row.revision⟩ hstored hlatest
  have hplain : ∀ usage operations children last,
      authoritativeState db ⟨row.snapshot, row.revision⟩ record checkpoint
        ⟨usage, operations, none, children, last⟩ = .ok ⟨row.snapshot, record⟩ := fun _ _ _ _ => rfl
  have hstate : ∀ usage operations last,
      authoritativeState db ⟨row.snapshot, row.revision⟩ other checkpoint
        ⟨usage, operations, some row.snapshot, ⟨some record, markers⟩, last⟩ =
          .ok ⟨row.snapshot, record⟩ := by
    intro usage operations last
    simp [authoritativeState, requireSome, rejectIf, hconfiguration, bind, Except.bind]
  have hcompare : ∀ usage snapshot snapshot' children children' last,
      compareWithAuthority checkpoint ⟨row.snapshot, record⟩
          ⟨usage, operations, snapshot, children, last⟩ =
        compareWithAuthority checkpoint ⟨row.snapshot, record⟩
          ⟨usage, tailOperations, snapshot', children', last⟩ := by
    intro usage snapshot snapshot' children children' last
    simp only [compareWithAuthority, halike.tuples_eq]
  simp only [validateCheckpointAuthorityFromAnchor, hfull, hanchored, bind,
    Except.bind, hplain, hstate, hgeneration]
  rw [hcompare]

end Tail

end CarlAgent.Storage
