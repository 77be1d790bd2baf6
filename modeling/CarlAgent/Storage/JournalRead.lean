import CarlAgent.Storage.Configuration

/-!
# Paged reads are folds over the journal

In a consistent database the pages of a task's events are pieces of its
journal, so that every loop over pages is a fold over the journal's events
after the cursor.
-/

namespace CarlAgent.Storage

open Foundation CarlAgent.Task List

variable {db : Db} {taskId : TaskId} {row : AgentTaskRow}
variable {envelope : EventEnvelope} {events : List EventEnvelope}

def Db.journalAfter (db : Db) (taskId : TaskId) (after : Option Nat) : List EventEnvelope :=
  afterCursor (·.sequence) after (db.journal taskId)

theorem Db.Ordered.sequence_bounds (hdb : db.Ordered) (h : envelope ∈ db.events.rows) :
    1 ≤ envelope.sequence ∧ envelope.sequence ≤ maxI64 := by
  obtain ⟨session, hsession, hpositive, hbelow⟩ := hdb.numbered envelope h
  have hcounter := (hdb.counter _ session hsession).2
  omega

theorem Db.mem_events_of_mem_journal (h : envelope ∈ db.journal taskId) :
    envelope ∈ db.events.rows :=
  (mem_filter.mp h).1

theorem journalSessions_of_row (hdb : db.Consistent)
    (hrow : db.agentTasks.find? taskId = some row) :
    journalSessions db taskId = [row.sessionId] := by
  have hreplayed := hdb.replayed.rows taskId row hrow
  have hne : (db.journal taskId).map (·.sessionId) ≠ [] := by
    intro hnil
    have hempty : db.journal taskId = [] := map_eq_nil_iff.mp hnil
    have hfold := hreplayed.fold
    rw [hempty] at hfold
    simp [reduceJournal, pure, Except.pure] at hfold
  have hsingle := sortDedup_id_of_forall_eq (a := row.sessionId) hne (by
    intro sessionId hmem
    obtain ⟨envelope, henvelope, rfl⟩ := mem_map.mp hmem
    exact hreplayed.inSession envelope henvelope)
  unfold journalSessions
  unfold Db.journal at hsingle
  rw [hsingle]
  rfl

variable {after : Option Nat}

theorem checkPageRequest_eq_ok (h : ∀ k ∈ after, k ≤ maxI64) :
    checkPageRequest after 512 = .ok (after.getD 0) := by
  cases after with
  | none => rfl
  | some k =>
    have hk : ¬ k > maxI64 := not_lt.mpr (h k rfl)
    simp [checkPageRequest, rejectIf, hk, bind, Except.bind]

theorem readTaskEventPageForKnownSession_eq (hdb : db.Consistent)
    (hrow : db.agentTasks.find? taskId = some row) (after : Option Nat)
    (h : ∀ k ∈ after, k ≤ maxI64) :
    readTaskEventPageForKnownSession db row.sessionId taskId after 512 =
      .ok ((db.journalAfter taskId after).take 512) := by
  have hreplayed := hdb.replayed.rows taskId row hrow
  have hfilter : db.events.rows.filter (fun envelope =>
      decide (envelope.sessionId = row.sessionId ∧
        after.getD 0 < envelope.sequence) && isTaskEvent taskId envelope) =
      db.journalAfter taskId after := by
    unfold Db.journalAfter afterCursor Db.journal
    rw [filter_filter]
    refine filter_congr fun envelope hmem => ?_
    cases htask : isTaskEvent taskId envelope with
    | false => simp
    | true =>
      have hsession : envelope.sessionId = row.sessionId :=
        hreplayed.inSession envelope (mem_filter.mpr ⟨hmem, htask⟩)
      have hpositive := (hdb.ordered.sequence_bounds hmem).1
      cases after with
      | none =>
        have hzero : 0 < envelope.sequence := hpositive
        simp [hsession, hzero]
      | some k => simp [hsession]
  have hsorted : (db.journalAfter taskId after).Pairwise fun a b => a.sequence ≤ b.sequence :=
    ((hdb.journal_increasing taskId).sublist filter_sublist).imp le_of_lt
  simp only [readTaskEventPageForKnownSession, checkPageRequest_eq_ok h, bind, Except.bind]
  rw [hfilter, sortByKey_of_pairwise hsorted]

theorem readTaskEventPage_eq (hdb : db.Consistent) (hrow : db.agentTasks.find? taskId = some row)
    (h : ∀ k ∈ after, k ≤ maxI64) :
    readTaskEventPage db taskId after 512 = .ok ((db.journalAfter taskId after).take 512) := by
  have hzero : db.journalAfter taskId (some (after.getD 0)) = db.journalAfter taskId after := by
    cases after with
    | some k => rfl
    | none =>
      unfold Db.journalAfter
      rw [afterCursor_none]
      refine filter_eq_self.mpr fun envelope hmem => ?_
      have hpositive := (hdb.ordered.sequence_bounds (Db.mem_events_of_mem_journal hmem)).1
      simpa using Nat.lt_of_lt_of_le Nat.zero_lt_one hpositive
  have hknown := readTaskEventPageForKnownSession_eq hdb hrow (some (after.getD 0)) (by
      intro k hk
      cases hk
      cases after with
      | none => exact Nat.zero_le _
      | some k => exact h k rfl)
  rw [hzero] at hknown
  simp only [readTaskEventPage, checkPageRequest_eq_ok h,
    journalSessions_of_row hdb hrow, bind, Except.bind]
  exact hknown

theorem Db.Consistent.sequence_le (hdb : db.Consistent)
    (h : envelope ∈ db.journal taskId) : envelope.sequence ≤ maxI64 :=
  (hdb.ordered.sequence_bounds (Db.mem_events_of_mem_journal h)).2

theorem Db.Consistent.sequence_pos (hdb : db.Consistent)
    (h : envelope ∈ db.journal taskId) : 0 < envelope.sequence :=
  (hdb.ordered.sequence_bounds (Db.mem_events_of_mem_journal h)).1

theorem Db.length_journalAfter_lt (db : Db) (taskId : TaskId) (after : Option Nat) :
    (db.journalAfter taskId after).length < db.events.rows.length + 1 := by
  have hafter : (db.journalAfter taskId after).length ≤
      (db.journal taskId).length := length_filter_le _ _
  have hjournal : (db.journal taskId).length ≤ db.events.rows.length := length_filter_le _ _
  omega

theorem foldTaskJournal_eq {σ : Type} {step : σ → EventEnvelope → Except CarlError σ} {state : σ}
    (hdb : db.Consistent) (hrow : db.agentTasks.find? taskId = some row)
    (hafter : ∀ k ∈ after, k ≤ maxI64) :
    foldTaskJournal db taskId step after state =
      (db.journalAfter taskId after).foldlM step state := by
  unfold foldTaskJournal
  refine foldPages_eq (show 0 < 512 by omega) (hdb.journal_increasing taskId)
    ?_ (fun _ => hdb.sequence_le) hafter (db.length_journalAfter_lt taskId after)
  intro cursor hcursor
  exact readTaskEventPage_eq hdb hrow hcursor

theorem Db.journalAfter_none (db : Db) (taskId : TaskId) :
    db.journalAfter taskId none = db.journal taskId :=
  afterCursor_none _ _

theorem Db.journalAfter_zero (hdb : db.Consistent) (taskId : TaskId) :
    db.journalAfter taskId (some 0) = db.journal taskId := by
  unfold Db.journalAfter afterCursor
  refine filter_eq_self.mpr fun envelope hmem => ?_
  simpa using hdb.sequence_pos hmem

theorem foldlM_push_all {acc : List EventEnvelope} :
    events.foldlM (fun acc envelope =>
      (.ok (acc ++ [envelope]) : Except CarlError (List EventEnvelope))) acc =
        .ok (acc ++ events) := by
  induction events generalizing acc with
  | nil => simp [pure, Except.pure]
  | cons envelope events ih =>
    rw [foldlM_cons_eq_ok]
    exact ⟨acc ++ [envelope], rfl, by rw [ih]; simp⟩

theorem readTaskEventsAfter_eq {sequence : Nat} (hdb : db.Consistent)
    (hrow : db.agentTasks.find? taskId = some row) (hsequence : sequence ≤ maxI64) :
    readTaskEventsAfter db taskId sequence = .ok (db.journalAfter taskId (some sequence)) := by
  unfold readTaskEventsAfter
  rw [foldTaskJournal_eq hdb hrow (by simpa using hsequence), foldlM_push_all, nil_append]

theorem replayAuthorityTail_eq {anchor : Option AuthenticatedCheckpointAuthority}
    (hdb : db.Consistent) (hrow : db.agentTasks.find? taskId = some row)
    (hsession : ∀ authority ∈ anchor, authority.taskSnapshot.sessionId = row.sessionId)
    (hafter : ∀ authority ∈ anchor, authority.sourceSequenceEnd ≤ maxI64) :
    replayAuthorityTail db taskId anchor =
      (db.journalAfter taskId (anchor.map (·.sourceSequenceEnd))).foldlM
        AuthorityReplay.step (AuthorityReplay.initial anchor) := by
  unfold replayAuthorityTail
  refine foldPages_eq (P := (· ≤ maxI64)) (show 0 < 512 by omega)
    (hdb.journal_increasing taskId) ?_ (fun _ => hdb.sequence_le) ?_
    (db.length_journalAfter_lt taskId _)
  · intro cursor hcursor
    cases anchor with
    | none => exact readTaskEventPage_eq hdb hrow hcursor
    | some authority =>
      simp only [readAuthorityPage, hsession authority rfl]
      exact readTaskEventPageForKnownSession_eq hdb hrow cursor hcursor
  · intro k hk
    obtain ⟨authority, hauthority, rfl⟩ := Option.mem_map.mp hk
    exact hafter authority hauthority

/-! ## The comparison of the projections succeeds -/

theorem foldlM_journalReplay {snapshot next : Option TaskSnapshot} {children result : ChildReplay}
    (hreduce : events.foldlM (fun state envelope =>
      (reduceTask state envelope).map some) snapshot = .ok next)
    (hchildren : events.foldlM replayTaskChildProjections children = .ok result) :
    events.foldlM JournalReplay.step ⟨snapshot, children⟩ = .ok ⟨next, result⟩ := by
  induction events generalizing snapshot children with
  | nil =>
    cases hreduce
    cases hchildren
    rfl
  | cons envelope events ih =>
    obtain ⟨_, hmap, hrest⟩ := foldlM_cons_eq_ok.mp hreduce
    obtain ⟨after, hstep, hrest'⟩ := foldlM_cons_eq_ok.mp hchildren
    obtain ⟨reduced, hreduced, rfl⟩ := map_eq_ok_iff.mp hmap
    rw [foldlM_cons_eq_ok]
    refine ⟨⟨some reduced, after⟩, ?_, ih hrest hrest'⟩
    simp [JournalReplay.step, hstep, hreduced, bind, Except.bind, Except.mapError]

theorem loadTaskControlMarkerProjections_eq (hdb : db.Consistent) {record : TaskConfigurationRecord}
    (h : ChildrenReplayed db.children taskId (db.journal taskId) record) :
    loadTaskControlMarkerProjections db taskId = db.children.controlMarkers taskId := by
  have hsequences : ((db.journal taskId).map (·.sequence)).Pairwise
      (· < ·) := pairwise_map.mpr (hdb.journal_increasing taskId)
  have hmarkers := pairwise_map.mp (hsequences.sublist h.positions)
  have hsorted : (db.children.taskControlMarkers.rows.filter
      fun row => decide (row.taskId = taskId)).Pairwise
        fun a b => a.eventSequence ≤ b.eventSequence :=
    (pairwise_map.mp hmarkers).imp le_of_lt
  unfold loadTaskControlMarkerProjections ChildTables.controlMarkers
  rw [sortByKey_of_pairwise hsorted]

theorem validateTaskAuthorityFromJournal_eq_ok (hdb : db.Consistent)
    {record : TaskConfigurationRecord} (hrow : db.agentTasks.find? taskId = some row)
    (h : ChildrenReplayed db.children taskId (db.journal taskId) record) :
    validateTaskAuthorityFromJournal db taskId = .ok ⟨⟨row.snapshot, row.revision⟩, record⟩ := by
  have hreplayed := hdb.replayed.rows taskId row hrow
  have hload : loadTaskRecord db taskId = .ok (some ⟨row.snapshot, row.revision⟩) :=
    loadTaskRecord_eq_some.mpr ⟨row, hrow, hreplayed.coherent, rfl⟩
  have hfold : foldTaskJournal db taskId JournalReplay.step none
      JournalReplay.initial = .ok ⟨some row.snapshot,
        ⟨some record, db.children.controlMarkers taskId⟩⟩ := by
    rw [foldTaskJournal_eq hdb hrow (by intro k hk; cases hk), Db.journalAfter_none]
    exact foldlM_journalReplay hreplayed.fold h.fold
  have hconfiguration : loadTaskConfigurationRecord db taskId = some record := by
    unfold loadTaskConfigurationRecord
    rw [h.configuration]
    rfl
  simp only [validateTaskAuthorityFromJournal, ok_iff, not_or, ne_eq, not_not]
  exact ⟨_, hload, _, rfl, _, hfold, _, rfl, ⟨hreplayed.coherent.revision, rfl⟩, record, rfl,
    record, hconfiguration, rfl, loadTaskControlMarkerProjections_eq hdb h, rfl⟩

end CarlAgent.Storage
