import CarlAgent.Storage.Acceptance
import CarlAgent.Storage.OpenScan

/-!
# Operations that a stopped process left running

Reconciliation at start gives every started operation of a task that has not
ended fresh evidence and makes it uncertain.  It needs room for two events for
each of them.
-/

namespace CarlAgent.Storage

open List Foundation CarlAgent.Task Sample World OrderedMap TaskSnapshot

variable {sha256 : Sha256}

theorem mem_startedOperationIds {state : TaskSnapshot} {operationId : OperationId} :
    operationId ∈ state.startedOperationIds ↔
      ∃ operation, state.operations.find? operationId = some operation ∧
        operation.status = .started := by
  simp only [startedOperationIds, mem_filterMap, find?_eq_some_iff]
  constructor
  · rintro ⟨⟨id, operation⟩, hmem, hstatus⟩
    split at hstatus
    · cases hstatus
      exact ⟨operation, hmem, by assumption⟩
    · cases hstatus
  · rintro ⟨operation, hmem, hstatus⟩
    exact ⟨(operationId, operation), hmem, if_pos hstatus⟩

theorem startedOperationIds_nodup (state : TaskSnapshot) : state.startedOperationIds.Nodup := by
  have hsublist : state.startedOperationIds.Sublist state.operations.keys := by
    unfold startedOperationIds OrderedMap.keys
    induction state.operations.entries with
    | nil => exact .slnil
    | cons entry rest ih =>
      rw [filterMap_cons, map_cons]
      split
      · exact ih.cons _
      · rename_i hstarted
        split at hstarted
        · cases hstarted
          exact ih.cons_cons _
        · cases hstarted
  exact state.operations.keys_nodup.sublist hsublist

theorem length_startedOperationIds (state : TaskSnapshot) :
    state.startedOperationIds.length = (state.operations.entries.map
      fun entry => if entry.2.status = .started then 1 else 0).sum := by
  unfold startedOperationIds
  induction state.operations.entries with
  | nil => rfl
  | cons entry rest ih =>
    rw [filterMap_cons, map_cons, sum_cons, ← ih]
    by_cases hstarted : entry.2.status = .started
    · simp [hstarted, Nat.add_comm]
    · simp [hstarted]

def ChildTables.startedRows (children : ChildTables) : Nat :=
  children.taskOperations.rows.countP fun row => decide (row.status = .started)

structure Db.RoomToAbandon (db : Db) : Prop where
  sequences : ∀ session ∈ db.sessions.rows,
    session.nextSequence + 2 * db.children.startedRows ≤ maxI64
  tasks : ∀ row ∈ db.agentTasks.rows, row.snapshot.status.isTerminal = false →
    row.snapshot.revision + 2 * row.snapshot.startedOperationIds.length ≤ maxI64 ∧
      row.snapshot.toJson.size + eventBytes *
        (2 * row.snapshot.startedOperationIds.length) ≤ maxSnapshotJsonBytes

/-- An operation that was running, after the events `more` of its task. -/
structure BecameUncertain (more : List EventEnvelope)
    (operationId : OperationId) (operation later : OperationSnapshot) :
    Prop where
  status : later.status = .uncertain
  epoch : later.epochId = operation.epochId
  postconditions : later.postconditionDigest = operation.postconditionDigest ∧
    later.filePostcondition = operation.filePostcondition
  evidence : ∃ envelope ∈ more, recordsEvidence operationId envelope = true ∧
      later.evidence.consumedSequences = operation.evidence.consumedSequences ++ [envelope.sequence]

/-- One task, when exactly the `settled` operations became uncertain. -/
structure TaskAbandoned (settled : OperationId → Prop)
    (row row' : AgentTaskRow) (more : List EventEnvelope) : Prop where
  untouched : (∀ operationId, ¬ settled operationId) → row' = row ∧ more = []
  frame : row'.snapshot = { row.snapshot with
    operations := row'.snapshot.operations, revision := row'.snapshot.revision }
  absent : ∀ operationId, row.snapshot.operations.find? operationId = none →
    row'.snapshot.operations.find? operationId = none
  kept : ∀ operationId operation, row.snapshot.operations.find? operationId = some operation →
      ¬ settled operationId →
      row'.snapshot.operations.find? operationId = some operation
  uncertain : ∀ operationId operation, row.snapshot.operations.find? operationId = some operation →
      settled operationId →
      ∃ later, row'.snapshot.operations.find? operationId = some later ∧
        BecameUncertain more operationId operation later

structure Abandons (settled : TaskId → OperationId → Prop) (db db' : Db) : Prop where
  rows : ∀ taskId row, db.agentTasks.find? taskId = some row →
    ∃ row' more, db'.agentTasks.find? taskId = some row' ∧
      db'.journal taskId = db.journal taskId ++ more ∧
      TaskAbandoned (settled taskId) row row' more
  absent : ∀ taskId, db.agentTasks.find? taskId = none → db'.agentTasks.find? taskId = none
  children : db'.children = { db.children with taskOperations := db'.children.taskOperations }
  operations : ∀ operationId stored, db.children.taskOperations.find? operationId = some stored →
      ¬ settled stored.taskId operationId →
      db'.children.taskOperations.find? operationId = some stored

theorem BecameUncertain.mono {events more : List EventEnvelope} {operationId : OperationId}
    {operation later : OperationSnapshot} (h : BecameUncertain events operationId operation later)
    (hsub : events ⊆ more) : BecameUncertain more operationId operation later := by
  obtain ⟨envelope, henvelope, hrest⟩ := h.evidence
  exact ⟨h.status, h.epoch, h.postconditions, envelope, hsub henvelope, hrest⟩

theorem TaskAbandoned.trans {first second : OperationId → Prop} {a b c : AgentTaskRow}
    {more later : List EventEnvelope}
    (hdisjoint : ∀ operationId, first operationId → ¬ second operationId)
    (hab : TaskAbandoned first a b more) (hbc : TaskAbandoned second b c later) :
    TaskAbandoned (fun operationId => first operationId ∨ second operationId)
      a c (more ++ later) := by
  refine ⟨?_, ?_, ?_, ?_, ?_⟩
  · intro hnone
    obtain ⟨rfl, rfl⟩ := hab.untouched fun id hid => hnone id (.inl hid)
    obtain ⟨rfl, rfl⟩ := hbc.untouched fun id hid => hnone id (.inr hid)
    exact ⟨rfl, rfl⟩
  · rw [hbc.frame, hab.frame]
  · intro operationId hnone
    exact hbc.absent operationId (hab.absent operationId hnone)
  · intro operationId operation hfind hnot
    exact hbc.kept operationId operation
      (hab.kept operationId operation hfind fun hid => hnot (.inl hid))
      fun hid => hnot (.inr hid)
  · intro operationId operation hfind hsettled
    rcases hsettled with hfirst | hsecond
    · obtain ⟨mid, hmid, huncertain⟩ := hab.uncertain operationId operation hfind hfirst
      exact ⟨mid, hbc.kept operationId mid hmid (hdisjoint operationId hfirst),
        huncertain.mono (subset_append_left _ _)⟩
    · have hmid := hab.kept operationId operation hfind
        fun hfirst => hdisjoint operationId hfirst hsecond
      obtain ⟨last, hlast, huncertain⟩ := hbc.uncertain operationId operation hmid hsecond
      exact ⟨last, hlast, huncertain.mono (subset_append_right _ _)⟩

theorem Abandons.refl (db : Db) : Abandons (fun _ _ => False) db db where
  rows := by
    intro taskId row hrow
    refine ⟨row, [], hrow, by simp, fun _ => ⟨rfl, rfl⟩, rfl, ?_, ?_, ?_⟩
    · exact fun _ hnone => hnone
    · exact fun _ _ hfind _ => hfind
    · intro _ _ _ habsurd
      exact habsurd.elim
  absent := fun _ hnone => hnone
  children := rfl
  operations := fun _ _ hstored _ => hstored

theorem Abandons.trans {first second : TaskId → OperationId → Prop} {a b c : Db}
    (hdisjoint : ∀ taskId operationId, first taskId operationId → ¬ second taskId operationId)
    (hab : Abandons first a b) (hbc : Abandons second b c) :
    Abandons (fun taskId operationId =>
      first taskId operationId ∨ second taskId operationId) a c where
  rows := by
    intro taskId row hrow
    obtain ⟨mid, more, hmid, hjournal, htask⟩ := hab.rows taskId row hrow
    obtain ⟨last, later, hlast, hjournal', htask'⟩ := hbc.rows taskId mid hmid
    refine ⟨last, more ++ later, hlast, ?_, htask.trans (hdisjoint taskId) htask'⟩
    rw [hjournal', hjournal, append_assoc]
  absent := fun taskId hnone => hbc.absent taskId (hab.absent taskId hnone)
  children := by
    rw [hbc.children, hab.children]
  operations := by
    intro operationId stored hstored hnot
    have hmid := hab.operations operationId stored hstored fun hid => hnot (.inl hid)
    exact hbc.operations operationId stored hmid fun hid => hnot (.inr hid)

theorem Abandons.mono {settled other : TaskId → OperationId → Prop} {db db' : Db}
    (h : Abandons settled db db')
    (hsame : ∀ taskId operationId, settled taskId operationId ↔ other taskId operationId) :
    Abandons other db db' := by
  have heq : settled = other := by
    funext taskId operationId
    exact propext (hsame taskId operationId)
  exact heq ▸ h

section Settle

variable {db mid db' : Db} {taskId : TaskId} {row : AgentTaskRow}
  {session : SessionRow} {operationId : OperationId}
  {operation : OperationSnapshot} {resultDigest : String} {next : TaskSnapshot}

theorem Settles.abandons
    (h : Settles db taskId row session operationId operation resultDigest .uncertain mid next db')
    (hfind : row.snapshot.operations.find? operationId = some operation) :
    Abandons (fun id settled => id = taskId ∧ settled = operationId) db db' := by
  obtain ⟨operations, hupdate, hchildren⟩ := h.children
  have hfound := h.first.append.found
  refine ⟨?_, ?_, ?_, ?_⟩
  · intro id found hrow
    rw [h.tasks, h.journal]
    by_cases hid : id = taskId
    · subst hid
      rw [hfound] at hrow
      cases hrow
      refine ⟨_, _, if_pos rfl, if_pos rfl, ?_, rfl, ?_, ?_, ?_⟩
      · intro hnone
        exact absurd ⟨rfl, rfl⟩ (hnone operationId)
      · intro other hnone
        have hne : other ≠ operationId := by
          rintro rfl
          rw [hfind] at hnone
          cases hnone
        exact (find?_insert_of_ne _ _ hne).trans hnone
      · intro other kept hkept hnot
        have hne : other ≠ operationId := fun heq => hnot ⟨rfl, heq⟩
        exact (find?_insert_of_ne _ _ hne).trans hkept
      · rintro other settled hsettled ⟨-, rfl⟩
        rw [hfind] at hsettled
        cases hsettled
        exact ⟨_, find?_insert_self _ _ _, rfl, rfl, ⟨rfl, rfl⟩, _,
          mem_cons_self, by simp [recordsEvidence, EventEnvelope.taskEvent?], rfl⟩
    · refine ⟨found, [], by rw [if_neg hid, hrow],
        by rw [if_neg hid, append_nil], fun _ => ⟨rfl, rfl⟩, rfl,
        fun _ hnone => hnone, fun _ _ hkept _ => hkept, ?_⟩
      rintro other settled hsettled ⟨heq, -⟩
      exact absurd heq hid
  · intro id hnone
    rw [h.tasks]
    split
    · rename_i hid
      subst hid
      rw [hfound] at hnone
      cases hnone
    · exact hnone
  · rw [hchildren]
  · intro other stored hstored hnot
    rw [hchildren, Table.find?_update hupdate]
    split
    · rename_i hother
      subst hother
      obtain ⟨⟨guarded, hguarded, hguard⟩, -⟩ := Table.update_eq_some.mp hupdate
      rw [hstored] at hguarded
      cases hguarded
      simp only [decide_eq_true_eq] at hguard
      exact absurd ⟨hguard.1, rfl⟩ hnot
    · exact hstored

theorem Settles.startedRows
    (h : Settles db taskId row session operationId operation resultDigest .uncertain mid next db')
    (hstarted : operation.status = .started) :
    db'.children.startedRows + 1 = db.children.startedRows := by
  obtain ⟨operations, hupdate, hchildren⟩ := h.children
  obtain ⟨⟨stored, hstored, hguard⟩, -⟩ := Table.update_eq_some.mp hupdate
  simp only [decide_eq_true_eq] at hguard
  unfold ChildTables.startedRows
  rw [hchildren]
  exact Table.countP_update hupdate hstored (by simp [hguard.2, hstarted])
    (by simp)

theorem settledSnapshot_startedOperationIds {state : TaskSnapshot}
    (hfind : state.operations.find? operationId = some operation)
    (hstarted : operation.status = .started) (sequence : Nat) :
    (settledSnapshot state operationId operation sequence
        .uncertain).startedOperationIds.length + 1 = state.startedOperationIds.length := by
  have hsum := sum_entries_insert_of_found hfind (settledOperation operation sequence .uncertain)
    (fun entry => if entry.2.status = .started then 1 else 0)
  rw [length_startedOperationIds, length_startedOperationIds]
  simpa [settledSnapshot, settledOperation, hstarted] using hsum

theorem Settles.roomToAbandon
    (h : Settles db taskId row session operationId operation resultDigest .uncertain mid next db')
    (hfind : row.snapshot.operations.find? operationId = some operation)
    (hstarted : operation.status = .started) (hroom : db.RoomToAbandon) : db'.RoomToAbandon := by
  have hrows := h.startedRows hstarted
  refine ⟨?_, ?_⟩
  · intro found hmem
    have hfound := Table.find?_of_mem hmem
    rw [h.sessions] at hfound
    split at hfound
    · have hnext := congrArg SessionRow.nextSequence (Option.some.inj hfound)
      have hold := hroom.sequences session (Table.mem_of_find? h.first.append.inSession)
      simp only at hnext
      omega
    · have hold := hroom.sequences found (Table.mem_of_find? hfound)
      omega
  · intro found hmem hrunning
    have hfound := Table.find?_of_mem hmem
    rw [h.tasks] at hfound
    split at hfound
    · cases hfound
      have hold := hroom.tasks row (Table.mem_of_find? h.first.append.found) hrunning
      have hlength := settledSnapshot_startedOperationIds hfind hstarted session.nextSequence
      have hsize := h.size_le
      have hrevision : (settledSnapshot row.snapshot operationId operation
          session.nextSequence .uncertain).revision = row.snapshot.revision + 2 := rfl
      simp only [AgentTaskRow.withSnapshot, hrevision]
      unfold eventBytes at hold hsize ⊢
      omega
    · exact hroom.tasks found (Table.mem_of_find? hfound) hrunning

end Settle

/-! ## The loops -/

structure Db.Ready (db : Db) : Prop where
  regular : db.Regular
  children : db.ChildrenFollow
  room : db.RoomToAbandon

section Loops

variable {db : Db} {taskId : TaskId} {row : AgentTaskRow}

theorem Db.Ready.taskAt (h : db.Ready) (hrow : db.agentTasks.find? taskId = some row)
    (hrunning : row.snapshot.status.isTerminal = false) {operationId : OperationId}
    {operation : OperationSnapshot}
    (hfind : row.snapshot.operations.find? operationId = some operation)
    (hstarted : operation.status = .started) : ∃ session, TaskAt db taskId row session 2 := by
  obtain ⟨session, hsession, -⟩ := h.regular.session hrow
  have hsequence := h.room.sequences session (Table.mem_of_find? hsession)
  obtain ⟨hrevision, hsize⟩ := h.room.tasks row (Table.mem_of_find? hrow) hrunning
  have hids : 0 < row.snapshot.startedOperationIds.length := length_pos_of_mem
      (mem_startedOperationIds.mpr ⟨operation, hfind, hstarted⟩)
  have hrows : 0 < db.children.startedRows := by
    obtain ⟨stored, hstored, -, hstatus⟩ :=
      (h.regular.work.rows taskId row hrow).operation operationId .started
        (by simp [operationStatus, hfind, hstarted])
    exact countP_pos_iff.mpr ⟨stored, Table.mem_of_find? hstored, by simpa using hstatus⟩
  refine ⟨session, h.regular, hrow, hsession, by omega, by omega, ?_⟩
  unfold eventBytes at hsize ⊢
  omega

theorem Db.Ready.settle {mid db' : Db} {session : SessionRow} {operationId : OperationId}
    {operation : OperationSnapshot} {resultDigest : String} {next : TaskSnapshot} (h : db.Ready)
    (hsettles : Settles db taskId row session operationId operation
      resultDigest .uncertain mid next db') (hregular : db'.Regular)
    (hfind : row.snapshot.operations.find? operationId = some operation)
    (hstarted : operation.status = .started) : db'.Ready := by
  refine ⟨hregular, ?_, hsettles.roomToAbandon hfind hstarted h.room⟩
  have hfirst : StepKind db mid := .append hsettles.first.append (.event hsettles.first.children)
  have hsecond : StepKind mid db' :=
    .append hsettles.second.append (.event hsettles.second.children)
  exact hsecond.childrenFollow (hfirst.replayed h.regular.consistent.replayed)
    (hfirst.childrenFollow h.regular.consistent.replayed h.children)

theorem Db.Ready.abandonOperation (h : db.Ready) (hrow : db.agentTasks.find? taskId = some row)
    (hrunning : row.snapshot.status.isTerminal = false) {operationId : OperationId}
    {operation : OperationSnapshot}
    (hfind : row.snapshot.operations.find? operationId = some operation)
    (hstarted : operation.status = .started) :
    ∃ db' row', Storage.abandonOperation sha256 (⟨row.snapshot, row.revision⟩, db) operationId =
        .ok (⟨row'.snapshot, row'.revision⟩, db') ∧
      db'.agentTasks.find? taskId = some row' ∧ db'.Ready ∧
      Abandons (fun id settled => id = taskId ∧ settled = operationId) db db' := by
  obtain ⟨session, hat⟩ := h.taskAt hrow hrunning hfind hstarted
  have hreplayed := h.regular.consistent.replayed.rows taskId row hrow
  have hactive : ActiveOperation row.snapshot operationId operation :=
    ⟨hfind, reduced_inFlightInEpoch hreplayed.fold operationId operation hfind
      (by simp [OperationStatus.isInFlight, hstarted])⟩
  have hedge : legalOperationEdge operation.status .uncertain = true := by
    rw [hstarted]
    rfl
  obtain ⟨mid, next, db', hsettles, hafter⟩ := hat.settles hrunning hactive
    (.inl hstarted) hedge rfl
    (validateEventIdentifier_of_sha256 (Sha256Digest.isLowercaseSha256_text
      (sha256 (asciiBytes "carl-startup-abandoned-operation-v1"))))
  refine ⟨db', _, ?_, hafter.found, h.settle hsettles hafter.regular hfind
    hstarted, hsettles.abandons hfind⟩
  have hsecond := hsettles.second.call
  rw [hstarted] at hsecond
  simp only [Storage.abandonOperation, bind_eq_ok, Prod.exists]
  exact ⟨_, _, _, hsettles.first.call, _, _, _, hsecond, rfl⟩

theorem Db.Ready.abandonOperations {operationIds : List OperationId} (h : db.Ready)
    (hrow : db.agentTasks.find? taskId = some row)
    (hrunning : row.snapshot.status.isTerminal = false) (hnodup : operationIds.Nodup)
    (hstarted : ∀ operationId ∈ operationIds, operationId ∈ row.snapshot.startedOperationIds) :
    ∃ (db' : Db) (row' : AgentTaskRow), operationIds.foldlM (Storage.abandonOperation sha256)
          (⟨row.snapshot, row.revision⟩, db) =
        .ok (⟨row'.snapshot, row'.revision⟩, db') ∧ db'.Ready ∧
      Abandons (fun id settled => id = taskId ∧ settled ∈ operationIds) db db' := by
  induction operationIds generalizing db row with
  | nil =>
    refine ⟨db, row, rfl, h, (Abandons.refl db).mono ?_⟩
    simp
  | cons operationId operationIds ih =>
    obtain ⟨hfresh, hnodup⟩ := nodup_cons.mp hnodup
    obtain ⟨operation, hfind, hstatus⟩ :=
      mem_startedOperationIds.mp (hstarted operationId (by simp))
    obtain ⟨mid, midRow, hcall, hmid, hready, hfirst⟩ :=
      @Db.Ready.abandonOperation sha256 _ _ _ h hrow hrunning _ _ hfind hstatus
    -- The other operations of the task are still started.
    obtain ⟨found, more, hfound, -, htask⟩ := hfirst.rows taskId row hrow
    rw [hmid] at hfound
    cases hfound
    have hstatusKept : midRow.snapshot.status = row.snapshot.status := by
      rw [htask.frame]
    obtain ⟨db', row', hcalls, hready', hrest⟩ := ih hready hmid
      (by rw [hstatusKept]; exact hrunning) hnodup (by
        intro other hother
        obtain ⟨kept, hkept, hkeptStatus⟩ := mem_startedOperationIds.mp
          (hstarted other (mem_cons_of_mem _ hother))
        refine mem_startedOperationIds.mpr ⟨kept, htask.kept other kept hkept ?_, hkeptStatus⟩
        rintro ⟨-, rfl⟩
        exact hfresh hother)
    refine ⟨db', row', foldlM_cons_eq_ok.mpr ⟨_, hcall, hcalls⟩, hready',
      (hfirst.trans ?_ hrest).mono ?_⟩
    · rintro id settled ⟨-, rfl⟩ ⟨-, hmem⟩
      exact hfresh hmem
    · intro id settled
      simp only [mem_cons]
      tauto

def Db.Abandoned (db : Db) (taskId : TaskId) (operationId : OperationId) : Prop :=
  ∃ row, db.agentTasks.find? taskId = some row ∧
    row.snapshot.status.isTerminal = false ∧
    operationId ∈ row.snapshot.startedOperationIds

theorem Db.Ready.abandonTaskOperations (h : db.Ready)
    (hrow : db.agentTasks.find? taskId = some row) : ∃ db', Storage.abandonTaskOperations sha256 db
          ⟨row.snapshot, row.revision⟩ = .ok db' ∧ db'.Ready ∧
      Abandons (fun id settled => id = taskId ∧ db.Abandoned id settled) db db' := by
  have hsettled : ∀ settled, db.Abandoned taskId settled ↔ row.snapshot.status.isTerminal = false ∧
        settled ∈ row.snapshot.startedOperationIds := by
    intro settled
    unfold Db.Abandoned
    simp [hrow]
  unfold Storage.abandonTaskOperations
  cases hterminal : row.snapshot.status.isTerminal with
  | true =>
    refine ⟨db, if_pos rfl, h, (Abandons.refl db).mono ?_⟩
    rintro id settled
    constructor
    · exact False.elim
    · rintro ⟨rfl, habandoned⟩
      have hrunning := ((hsettled settled).mp habandoned).1
      rw [hterminal] at hrunning
      cases hrunning
  | false =>
    obtain ⟨db', row', hcalls, hready, habandons⟩ := @Db.Ready.abandonOperations sha256 _ _ _
        row.snapshot.startedOperationIds h hrow hterminal
        (startedOperationIds_nodup _) (fun _ => id)
    refine ⟨db', ?_, hready, habandons.mono ?_⟩
    · simp only [Bool.false_eq_true, if_false, bind_eq_ok, Prod.exists]
      exact ⟨_, _, hcalls, rfl⟩
    · intro id settled
      constructor
      · rintro ⟨rfl, hmem⟩
        exact ⟨rfl, (hsettled settled).mpr ⟨hterminal, hmem⟩⟩
      · rintro ⟨rfl, habandoned⟩
        exact ⟨rfl, ((hsettled settled).mp habandoned).2⟩

theorem Abandons.row_eq {settled : TaskId → OperationId → Prop} {db' : Db}
    (h : Abandons settled db db') (hrow : db.agentTasks.find? taskId = some row)
    (hnone : ∀ operationId, ¬ settled taskId operationId) :
    db'.agentTasks.find? taskId = some row := by
  obtain ⟨row', more, hrow', -, htask⟩ := h.rows taskId row hrow
  rw [hrow', (htask.untouched hnone).1]

theorem Db.Ready.abandonAll {records : List TaskRecord} (h : db.Ready)
    (hload : ∀ record ∈ records, loadTaskRecord db record.snapshot.taskId = .ok (some record))
    (hnodup : (records.map (·.snapshot.taskId)).Nodup) :
    ∃ db', records.foldlM (Storage.abandonTaskOperations sha256) db = .ok db' ∧ db'.Ready ∧
      Abandons (fun id settled => id ∈ records.map (·.snapshot.taskId) ∧
        db.Abandoned id settled) db db' := by
  induction records generalizing db with
  | nil =>
    refine ⟨db, rfl, h, (Abandons.refl db).mono ?_⟩
    simp
  | cons record records ih =>
    obtain ⟨hfresh, hnodup⟩ := nodup_cons.mp hnodup
    obtain ⟨row, hrow, hcoherent, hrecord⟩ := loadTaskRecord_eq_some.mp (hload record (by simp))
    obtain ⟨mid, hcall, hready, hfirst⟩ := @Db.Ready.abandonTaskOperations sha256 _ _ _ h hrow
    rw [← hrecord] at hcall
    -- The other tasks are as they were.
    have hothers : ∀ other ∈ records, ∀ found,
        db.agentTasks.find? other.snapshot.taskId = some found →
          mid.agentTasks.find? other.snapshot.taskId = some found := by
      intro other hother found hfound
      apply hfirst.row_eq hfound
      rintro operationId ⟨hsame, -⟩
      exact hfresh (mem_map.mpr ⟨other, hother, hsame⟩)
    have hmidLoad : ∀ other ∈ records,
        loadTaskRecord mid other.snapshot.taskId = .ok (some other) := by
      intro other hother
      obtain ⟨found, hfound, hrest⟩ := loadTaskRecord_eq_some.mp
        (hload other (mem_cons_of_mem _ hother))
      exact loadTaskRecord_eq_some.mpr ⟨found, hothers other hother found hfound, hrest⟩
    have hsame : ∀ id ∈ records.map (·.snapshot.taskId), ∀ settled,
        mid.Abandoned id settled ↔ db.Abandoned id settled := by
      intro id hid settled
      obtain ⟨other, hother, rfl⟩ := mem_map.mp hid
      obtain ⟨found, hfound, -⟩ := loadTaskRecord_eq_some.mp
        (hload other (mem_cons_of_mem _ hother))
      unfold Db.Abandoned
      rw [hothers other hother found hfound, hfound]
    obtain ⟨db', hcalls, hready', hrest⟩ := ih hready hmidLoad hnodup
    refine ⟨db', foldlM_cons_eq_ok.mpr ⟨mid, hcall, hcalls⟩, hready',
      (hfirst.trans ?_ hrest).mono ?_⟩
    · rintro id settled ⟨rfl, -⟩ ⟨hmem, -⟩
      exact hfresh hmem
    · intro id settled
      rw [map_cons, mem_cons]
      constructor
      · rintro (⟨hid, habandoned⟩ | ⟨hid, habandoned⟩)
        · exact ⟨.inl hid, habandoned⟩
        · exact ⟨.inr hid, (hsame id hid settled).mp habandoned⟩
      · rintro ⟨hid | hid, habandoned⟩
        · exact .inl ⟨hid, habandoned⟩
        · exact .inr ⟨hid, (hsame id hid settled).mpr habandoned⟩

end Loops

/-! ## The whole call -/

theorem mem_journalTaskIds {db : Db} (hdb : db.Consistent) {taskId : TaskId} {row : AgentTaskRow}
    (hrow : db.agentTasks.find? taskId = some row) : taskId ∈ journalTaskIds db := by
  have hreplayed := hdb.replayed.rows taskId row hrow
  obtain ⟨envelope, henvelope⟩ := exists_mem_of_ne_nil _ (reduced_ne_nil hreplayed.fold)
  obtain ⟨hmem, htask⟩ := mem_filter.mp henvelope
  obtain ⟨event, hevent⟩ := isTaskEvent_iff.mp htask
  exact mem_sortDedup_id.mpr (mem_filterMap.mpr ⟨envelope, hmem, by rw [hevent]⟩)

theorem Db.Ready.reconcile {db : Db} (h : db.Ready) :
    ∃ db', reconcileAbandonedTaskOperations sha256 db = .ok db' ∧ db'.Ready ∧
      Abandons db.Abandoned db db' := by
  obtain ⟨records, hrecords⟩ := validateTaskProjectionCompleteness_of_consistent
    h.regular.consistent h.children
  obtain ⟨hids, hnodup, hload⟩ := scanned_records hrecords
  obtain ⟨db', hcalls, hready, habandons⟩ := @Db.Ready.abandonAll sha256 _ _ h hload hnodup
  refine ⟨db', ?_, hready, habandons.mono ?_⟩
  · simp only [reconcileAbandonedTaskOperations, bind_eq_ok]
    exact ⟨records, hrecords, hcalls⟩
  · intro taskId operationId
    refine and_iff_right_of_imp ?_
    rintro ⟨row, hrow, -⟩
    rw [hids]
    exact mem_journalTaskIds h.regular.consistent hrow

theorem Abandons.none_abandoned {db db' : Db} (h : Abandons db.Abandoned db db') (taskId : TaskId)
    (operationId : OperationId) : ¬ db'.Abandoned taskId operationId := by
  rintro ⟨row', hrow', hrunning, hstarted⟩
  obtain ⟨later, hlater, hstatus⟩ := mem_startedOperationIds.mp hstarted
  cases hrow : db.agentTasks.find? taskId with
  | none =>
    rw [h.absent taskId hrow] at hrow'
    cases hrow'
  | some row =>
    obtain ⟨found, more, hfound, -, htask⟩ := h.rows taskId row hrow
    rw [hrow'] at hfound
    cases hfound
    have hsame : row'.snapshot.status = row.snapshot.status := by
      rw [htask.frame]
    cases hfind : row.snapshot.operations.find? operationId with
    | none =>
      rw [htask.absent operationId hfind] at hlater
      cases hlater
    | some operation =>
      by_cases hsettled : db.Abandoned taskId operationId
      · obtain ⟨found, hfound, huncertain⟩ := htask.uncertain operationId operation hfind hsettled
        rw [hlater] at hfound
        cases hfound
        rw [huncertain.status] at hstatus
        cases hstatus
      · have hkept := htask.kept operationId operation hfind hsettled
        rw [hlater] at hkept
        cases hkept
        refine hsettled ⟨row, hrow, by rw [← hsame]; exact hrunning, ?_⟩
        exact mem_startedOperationIds.mpr ⟨later, hfind, hstatus⟩

theorem foldlM_abandon_of_none {db : Db} {records : List TaskRecord}
    (h : ∀ record ∈ records, record.snapshot.status.isTerminal = false →
      record.snapshot.startedOperationIds = []) :
    records.foldlM (abandonTaskOperations sha256) db = .ok db := by
  induction records with
  | nil => rfl
  | cons record records ih =>
    rw [forall_mem_cons] at h
    refine foldlM_cons_eq_ok.mpr ⟨db, ?_, ih h.2⟩
    unfold abandonTaskOperations
    cases hterminal : record.snapshot.status.isTerminal with
    | true => rfl
    | false =>
      rw [h.1 hterminal]
      rfl

theorem reconcile_of_none {db : Db} (hdb : db.Consistent) (hchildren : db.ChildrenFollow)
    (hnone : ∀ taskId operationId, ¬ db.Abandoned taskId operationId) :
    reconcileAbandonedTaskOperations sha256 db = .ok db := by
  obtain ⟨records, hrecords⟩ := validateTaskProjectionCompleteness_of_consistent hdb hchildren
  obtain ⟨-, -, hload⟩ := scanned_records hrecords
  simp only [reconcileAbandonedTaskOperations, bind_eq_ok]
  refine ⟨records, hrecords, foldlM_abandon_of_none ?_⟩
  intro record hrecord hrunning
  obtain ⟨row, hrow, -, hsame⟩ := loadTaskRecord_eq_some.mp (hload record hrecord)
  apply eq_nil_iff_forall_not_mem.mpr
  intro operationId hstarted
  rw [hsame] at hrunning hstarted
  exact hnone _ operationId ⟨row, hrow, hrunning, hstarted⟩

/-- With room in the tables, the reconciliation at startup settles every abandoned operation, and a
second one changes nothing. -/
theorem reconciliation_settles_abandoned_operations (sha256 : Sha256)
    (calls : List Call) (hroom : (run sha256 calls).db.RoomToAbandon) :
    ∃ db', reconcileAbandonedTaskOperations sha256 (run sha256 calls).db = .ok db' ∧
      Abandons (run sha256 calls).db.Abandoned (run sha256 calls).db db' ∧
      (∀ taskId row, db'.agentTasks.find? taskId = some row →
        row.snapshot.status.isTerminal = false → ∀ operationId operation,
            row.snapshot.operations.find? operationId = some operation →
              operation.status ≠ .started) ∧
      reconcileAbandonedTaskOperations sha256 db' = .ok db' := by
  have hready : (run sha256 calls).db.Ready := ⟨run_regular calls, run_childrenFollow calls, hroom⟩
  obtain ⟨db', hcall, hready', habandons⟩ := @Db.Ready.reconcile sha256 _ hready
  have hnone := habandons.none_abandoned
  refine ⟨db', hcall, habandons, ?_, reconcile_of_none
    hready'.regular.consistent hready'.children hnone⟩
  intro taskId row hrow hrunning operationId operation hfind hstarted
  exact hnone taskId operationId ⟨row, hrow, hrunning,
    mem_startedOperationIds.mpr ⟨operation, hfind, hstarted⟩⟩

namespace Sample

open List CarlAgent.Task.Sample

def runningOperation : List TaskEvent :=
  [activation, .epochStarted epochId "o",
    .operationIntentRecorded operationId epochId "i" .observation "d",
    .operationTransitioned operationId .intentRecorded .started []]

def abandonedDigest : Sha256Digest :=
  ⟨0xb923fdddeee41af23cf6bc433ac362c013e8039b1aa6ea92191d516ad2338652⟩

def abandonedSha (_ : List UInt8) : Sha256Digest := abandonedDigest

def runningDb : Db :=
  (World.run abandonedSha (calls runningOperation)).db

theorem runningDb_stored :
    (∀ envelope ∈ runningDb.events.rows, isTaskEvent taskId envelope = true) ∧
    (∀ session ∈ runningDb.sessions.rows,
      session.nextSequence + 2 * runningDb.children.startedRows ≤ maxI64) ∧
    (∀ row ∈ runningDb.agentTasks.rows, row.snapshot.status.isTerminal = false →
      row.snapshot.revision + 2 * row.snapshot.startedOperationIds.length ≤ maxI64 ∧
      row.snapshot.toJson.size + eventBytes * (2 * row.snapshot.startedOperationIds.length) ≤
        maxSnapshotJsonBytes) ∧
    ∃ row ∈ runningDb.agentTasks.find? taskId,
      ∃ operation ∈ row.snapshot.operations.find? operationId,
        row.snapshot.status = .active ∧ row.snapshot.revision = 5 ∧
        row.snapshot.operations.entries = [(operationId, operation)] ∧
        operation.status = .started := by
  decide +kernel

end Sample

theorem sample_operation_is_abandoned :
    ∃ db', reconcileAbandonedTaskOperations abandonedSha runningDb = .ok db' ∧
      runningDb.Abandoned Task.Sample.taskId Task.Sample.operationId ∧
      reconcileAbandonedTaskOperations abandonedSha db' = .ok db' := by
  obtain ⟨-, hsessions, htasks, row, hrow, operation, hfind, hstatus, -, -, hstarted⟩ :=
    runningDb_stored
  have hroom : runningDb.RoomToAbandon := ⟨hsessions, htasks⟩
  obtain ⟨db', hcall, -, -, hagain⟩ := reconciliation_settles_abandoned_operations abandonedSha
      (calls runningOperation) hroom
  refine ⟨db', hcall, ⟨row, hrow, ?_, ?_⟩, hagain⟩
  · rw [hstatus]
    rfl
  · exact mem_startedOperationIds.mpr ⟨operation, hfind, hstarted⟩

/-! ## Without room -/

def abandonedEvidence (sha256 : Sha256) (operationId : OperationId) : TaskEvent :=
  .operationEvidenceRecorded operationId
    (sha256 (asciiBytes "carl-startup-abandoned-operation-v1")).text

/-- One task whose only operation is running and whose events after the fifth
are evidence of it. -/
structure OnlyRunning (db : Db) (taskId : TaskId) (operationId : OperationId)
    (row : AgentTaskRow) (operation : OperationSnapshot) : Prop where
  events : ∀ envelope ∈ db.events.rows, isTaskEvent taskId envelope = true
  found : db.agentTasks.find? taskId = some row
  running : row.snapshot.status.isTerminal = false
  entries : row.snapshot.operations.entries = [(operationId, operation)]
  started : operation.status = .started
  evidence : row.snapshot.revision ≤ operation.evidence.recordedSequences.keys.length + 5

section Refused

variable {db db' : Db} {taskId : TaskId} {operationId : OperationId}
  {row : AgentTaskRow} {operation : OperationSnapshot}

theorem OnlyRunning.evidence_accepted (h : OnlyRunning db taskId operationId row operation)
    (hdb : db.Consistent) (hok : reconcileAbandonedTaskOperations sha256 db = .ok db') :
    ∃ appended, appendTaskEvent db taskId row.snapshot.revision
      (abandonedEvidence sha256 operationId) = .ok (some appended) := by
  simp only [reconcileAbandonedTaskOperations, bind_eq_ok] at hok
  obtain ⟨records, hrecords, hfold⟩ := hok
  obtain ⟨hids, -, hload⟩ := scanned_records hrecords
  have honly : journalTaskIds db = [taskId] := by
    apply sortDedup_id_of_forall_eq
    · intro hnil
      have hmem := mem_sortDedup_id.mp (mem_journalTaskIds hdb h.found)
      rw [hnil] at hmem
      cases hmem
    · intro id hid
      obtain ⟨envelope, henvelope, hevent⟩ := mem_filterMap.mp hid
      obtain ⟨event, htask⟩ := isTaskEvent_iff.mp (h.events envelope henvelope)
      rw [htask] at hevent
      exact (Option.some.inj hevent).symm
  rw [honly] at hids
  obtain ⟨record, rfl, hrecord⟩ := map_eq_singleton_iff.mp hids
  have hrow := hload record (by simp)
  rw [hrecord] at hrow
  obtain ⟨found, hfound, hcoherent, rfl⟩ := loadTaskRecord_eq_some.mp hrow
  rw [h.found] at hfound
  cases hfound
  obtain ⟨mid, htask, -⟩ := foldlM_cons_eq_ok.mp hfold
  have hids : row.snapshot.startedOperationIds = [operationId] := by
    simp [startedOperationIds, h.entries, h.started]
  simp only [abandonTaskOperations, h.running, Bool.false_eq_true, if_false,
    hids, bind_eq_ok, Prod.exists] at htask
  obtain ⟨_, _, hoperation, -⟩ := htask
  obtain ⟨_, hoperation, -⟩ := foldlM_cons_eq_ok.mp hoperation
  simp only [abandonOperation, bind_eq_ok, Prod.exists] at hoperation
  obtain ⟨first, sequence, next, hfirst, -⟩ := hoperation
  refine ⟨(first, next), ?_⟩
  simp only [appendTaskEvent, bind_eq_ok]
  refine ⟨_, currentRecord_eq_some.mpr ⟨hrow, hcoherent.revision.symm⟩, ?_⟩
  simp only [bind_eq_ok]
  exact ⟨_, hfirst, rfl⟩

theorem OnlyRunning.next {session : SessionRow} {resultDigest : String} {next : TaskSnapshot}
    (h : OnlyRunning db taskId operationId row operation)
    (happend : TaskAppend db taskId (.operationEvidenceRecorded operationId resultDigest) row
      session next db') :
    ∃ later, OnlyRunning db' taskId operationId (row.withSnapshot next) later ∧
      next.revision = row.snapshot.revision + 1 := by
  obtain ⟨changed, heffect, rfl⟩ := happend.step.effect
  obtain ⟨active, evidence, hactive, hrecord, rfl⟩ :
      ∃ active evidence, ActiveOperation row.snapshot operationId active ∧
        active.evidence.record active.status active.lastTransitionSequence
          session.nextSequence = .ok evidence ∧
        changed = row.snapshot.setOperation operationId { active with evidence } := by
    cases heffect with
    | operationEvidenceRecorded hactive hrecord =>
      exact ⟨_, _, hactive, hrecord, rfl⟩
    | epochClosed hevent _ _ | recordOnly hevent | observed hevent _ => cases hevent
  have hsame : active = operation := by
    have hmem := OrderedMap.find?_eq_some_iff.mp hactive.1
    rw [h.entries, mem_singleton] at hmem
    exact (Prod.mk.inj hmem).2
  subst hsame
  obtain ⟨-, -, hfresh, hevidence⟩ := OperationEvidenceState.record_eq_ok.mp hrecord
  have hnone : active.evidence.recordedSequences.find? session.nextSequence = none := by
    simpa [OrderedMap.contains] using hfresh
  refine ⟨{ active with evidence }, ⟨?_, ?_, h.running, ?_, h.started, ?_⟩, rfl⟩
  · rw [happend.events, forall_mem_append, forall_mem_singleton]
    exact ⟨h.events, by simp⟩
  · rw [happend.tasks, if_pos rfl]
  · simp [AgentTaskRow.withSnapshot, setOperation,
      OrderedMap.insert, h.entries, OrderedMap.insertEntry]
  · subst hevidence
    rw [OrderedMap.length_keys_insert_of_new hnone]
    have hbefore := h.evidence
    change row.snapshot.revision + 1 ≤ _
    omega

theorem OnlyRunning.revision_lt (h : OnlyRunning db taskId operationId row operation) :
    row.snapshot.revision < row.snapshot.toJson.size + 5 := by
  have hlength := length_le_sum_of_one_le
    (operation.evidence.recordedSequences.keys.map fun sequence => (Json.nat sequence).size + 1)
    (by simp)
  have hevidence := h.evidence
  rw [length_map] at hlength
  simp only [toJson, OperationSnapshot.toJson, OperationEvidenceState.toJson,
    Json.size_obj, Json.size_list, h.entries, map_cons, map_nil, sum_cons, sum_nil]
  omega

end Refused

namespace Sample

open CarlAgent.Task.Sample

/-- A run in which the only operation is given evidence `n` times. -/
def piledEvidence (n : Nat) : List Call :=
  calls (runningOperation ++ replicate n (abandonedEvidence abandonedSha operationId))

/-- Evidence is piled up until the store refuses it; from then on it refuses
the reconciliation too. -/
theorem run_piledEvidence (n : Nat) : ∃ row operation,
    OnlyRunning (run abandonedSha (piledEvidence n)).db taskId operationId row operation ∧
    (row.snapshot.revision = n + 5 ∨ row.snapshot.revision < n + 5 ∧ ∃ error,
      reconcileAbandonedTaskOperations abandonedSha
        (run abandonedSha (piledEvidence n)).db = .error error) := by
  induction n with
  | zero =>
    obtain ⟨hevents, -, -, row, hrow, operation, -, hstatus, hrevision, hentry, hstarted⟩ :=
      runningDb_stored
    rw [piledEvidence, replicate_zero, append_nil, ← runningDb]
    refine ⟨row, operation, ⟨hevents, hrow, ?_, hentry, hstarted, ?_⟩, .inl hrevision⟩
    · rw [hstatus]
      rfl
    · omega
  | succ n ih =>
    obtain ⟨row, operation, honly, hreached⟩ := ih
    have hdb := @run_consistent abandonedSha (piledEvidence n)
    have hcalls : piledEvidence (n + 1) = piledEvidence n ++ [.appendTaskEvent 0 taskId (n + 5)
        (abandonedEvidence abandonedSha operationId)] := by
      simp [piledEvidence, calls, replicate_succ', zipIdx_append, runningOperation]
      omega
    rw [hcalls, run, foldl_concat, ← run]
    generalize run abandonedSha (piledEvidence n) = world at *
    by_cases haccepted : ∃ appended, appendTaskEvent world.db taskId (n + 5)
        (abandonedEvidence abandonedSha operationId) = .ok (some appended)
    · obtain ⟨⟨record, mid⟩, happend⟩ := haccepted
      have hmid : (step abandonedSha world (.appendTaskEvent 0 taskId (n + 5)
          (abandonedEvidence abandonedSha operationId))).db = mid := by
        rw [step, Call.run, happend]
        rfl
      obtain ⟨found, session, next, htask, -, hrevision, -⟩ := appendTaskEvent_eq_some happend
      have hfound := htask.found
      rw [honly.found] at hfound
      cases hfound
      obtain ⟨later, hlater, hnext⟩ := honly.next htask
      rw [← htask.coherent.revision] at hrevision
      rw [hmid]
      refine ⟨_, later, hlater, .inl ?_⟩
      change next.revision = n + 1 + 5
      omega
    · have hkept : (step abandonedSha world (.appendTaskEvent 0 taskId (n + 5)
          (abandonedEvidence abandonedSha operationId))).db = world.db := by
        rw [step, Call.run]
        rcases happend : appendTaskEvent world.db taskId (n + 5)
            (abandonedEvidence abandonedSha operationId) with error | _ | appended
        · rfl
        · rfl
        · exact absurd ⟨appended, happend⟩ haccepted
      rw [hkept]
      refine ⟨row, operation, honly, .inr ?_⟩
      rcases hreached with hrevision | ⟨hrevision, hrefused⟩
      · refine ⟨by omega, ?_⟩
        cases hcall : reconcileAbandonedTaskOperations abandonedSha world.db with
        | error error => exact ⟨error, rfl⟩
        | ok db' =>
          rw [← hrevision] at haccepted
          exact absurd (honly.evidence_accepted hdb hcall) haccepted
      · exact ⟨by omega, hrefused⟩

end Sample

theorem reconciliation_refused_without_room :
    ∃ error, reconcileAbandonedTaskOperations abandonedSha
      (run abandonedSha (piledEvidence maxSnapshotJsonBytes)).db = .error error := by
  obtain ⟨row, operation, honly, hrevision | ⟨-, hrefused⟩⟩ :=
    run_piledEvidence maxSnapshotJsonBytes
  · have hsmall := (checkTaskColumns_eq_ok.mp
      ((run_regular (piledEvidence maxSnapshotJsonBytes)).fits _ row honly.found)).2
    have hlarge := honly.revision_lt
    omega
  · exact hrefused

end CarlAgent.Storage
