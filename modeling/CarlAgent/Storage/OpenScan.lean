import CarlAgent.Storage.CheckpointRows

/-!
# Opening the store

The scan that opens the store compares every canonical checkpoint with its
context package, with the journal and with the stored artifacts.  Committed
checkpoints keep what the scan asks for; only a completed compaction that names
an unknown package can break it.
-/

namespace CarlAgent.Storage

open List Foundation CarlAgent.Task Sample Table World

variable {sha256 : Sha256}

structure TaskContextPackageRow.Packs (sha256 : Sha256)
    (packageRow : TaskContextPackageRow) (row : TaskCheckpointRow)
    (checkpoint : CanonicalCheckpoint) (package : ContextPackage) : Prop where
  payload : packageRow.package = some package
  id : package.packageId = packageRow.id
  checkpointId : package.checkpointId = row.id
  generation : checkpoint.compactionGeneration = packageRow.generation
  sequence : packageRow.eventSequence = row.eventSequence
  first : package.sourceSequenceStart = checkpoint.sourceSequenceStart
  last : package.sourceSequenceEnd = checkpoint.sourceSequenceEnd
  bytes : package.canonicalBytes sha256 = .ok (Text.utf8 package.toJson.render)

/-- The packages that the scan joins with a checkpoint. -/
def TaskContextPackageRow.Joins (packageRow : TaskContextPackageRow)
    (row : TaskCheckpointRow) : Prop :=
  packageRow.taskId = row.taskId ∧ packageRow.checkpointId = row.id

structure ChildTables.Packaged (sha256 : Sha256)
    (children : ChildTables) : Prop where
  refers : ∀ packageRow ∈ children.taskContextPackages.rows,
    children.taskCheckpoints.find? packageRow.checkpointId ≠ none
  packed : ∀ row ∈ children.taskCheckpoints.rows, ∀ checkpoint, row.checkpoint = some checkpoint →
      ∃ packageRow ∈ children.taskContextPackages.rows, packageRow.Joins row
  packs : ∀ row ∈ children.taskCheckpoints.rows, ∀ checkpoint, row.checkpoint = some checkpoint →
      ∀ packageRow ∈ children.taskContextPackages.rows, packageRow.Joins row →
          ∃ package, packageRow.Packs sha256 row checkpoint package
  plain : ∀ row ∈ children.taskCheckpoints.rows, row.checkpoint = none →
    ∀ packageRow ∈ children.taskContextPackages.rows,
      packageRow.Joins row → packageRow.package = none

variable {children children' : ChildTables}

theorem ChildTables.Packaged.of_same (h : children.Packaged sha256)
    (hcheckpoints : children'.taskCheckpoints = children.taskCheckpoints)
    (hpackages : children'.taskContextPackages = children.taskContextPackages) :
    children'.Packaged sha256 := by
  refine ⟨?_, ?_, ?_, ?_⟩
  · rw [hcheckpoints, hpackages]
    exact h.refers
  · rw [hcheckpoints, hpackages]
    exact h.packed
  · rw [hcheckpoints, hpackages]
    exact h.packs
  · rw [hcheckpoints, hpackages]
    exact h.plain

variable {row : TaskCheckpointRow}

theorem ChildTables.Packaged.not_joins (h : children.Packaged sha256)
    (hnew : children.taskCheckpoints.find? row.id = none) {packageRow : TaskContextPackageRow}
    (hpackage : packageRow ∈ children.taskContextPackages.rows) : ¬ packageRow.Joins row := by
  intro hjoins
  apply h.refers packageRow hpackage
  rw [hjoins.2]
  exact hnew

theorem ChildTables.Packaged.insertPlain (h : children.Packaged sha256)
    {checkpoints : Table TaskCheckpointRow.id}
    (hinsert : children.taskCheckpoints.insert row = some checkpoints)
    (hplain : row.checkpoint = none) :
    ({ children with taskCheckpoints := checkpoints } : ChildTables).Packaged sha256 := by
  have hnew := (insert_eq_some.mp hinsert).1
  refine ⟨?_, ?_, ?_, ?_⟩
  · intro packageRow hpackage
    obtain ⟨stored, hstored⟩ := Option.ne_none_iff_exists'.mp (h.refers packageRow hpackage)
    simp [find?_insert_of_some hinsert hstored]
  · exact (forall_insert hinsert).mpr ⟨h.packed, by simp [hplain]⟩
  · exact (forall_insert hinsert).mpr ⟨h.packs, by simp [hplain]⟩
  · refine (forall_insert hinsert).mpr ⟨h.plain, ?_⟩
    intro _ packageRow hpackage hjoins
    exact absurd hjoins (h.not_joins hnew hpackage)

theorem ChildTables.Packaged.insertEmptyPackage (h : children.Packaged sha256)
    {packageRow : TaskContextPackageRow} {packages : Table TaskContextPackageRow.id}
    {stored : TaskCheckpointRow}
    (hinsert : children.taskContextPackages.insert packageRow = some packages)
    (hempty : packageRow.package = none)
    (hstored : children.taskCheckpoints.find? packageRow.checkpointId = some stored)
    (hplain : stored.checkpoint = none) :
    ({ children with taskContextPackages := packages } : ChildTables).Packaged sha256 := by
  have hrows := (insert_eq_some.mp hinsert).2
  have hnotjoins : ∀ row ∈ children.taskCheckpoints.rows, ∀ checkpoint,
      row.checkpoint = some checkpoint → ¬ packageRow.Joins row := by
    intro row hrow checkpoint hcheckpoint hjoins
    have hfind := find?_of_mem hrow
    rw [← hjoins.2, hstored] at hfind
    cases hfind
    rw [hplain] at hcheckpoint
    cases hcheckpoint
  refine ⟨?_, ?_, ?_, ?_⟩
  · exact (forall_insert hinsert).mpr ⟨h.refers, by simp [hstored]⟩
  · intro row hrow checkpoint hcheckpoint
    obtain ⟨other, hother, hjoins⟩ := h.packed row hrow checkpoint hcheckpoint
    refine ⟨other, ?_, hjoins⟩
    rw [hrows]
    exact mem_append_left _ hother
  · intro row hrow checkpoint hcheckpoint
    refine (forall_insert hinsert).mpr ⟨h.packs row hrow checkpoint hcheckpoint, ?_⟩
    exact fun hjoins => absurd hjoins (hnotjoins row hrow checkpoint hcheckpoint)
  · intro row hrow hnone
    exact (forall_insert hinsert).mpr ⟨h.plain row hrow hnone, fun _ => hempty⟩

theorem contextPackage_canonicalBytes_eq_utf8 {package : ContextPackage} {bytes : List UInt8}
    (h : package.canonicalBytes sha256 = .ok bytes) : bytes = Text.utf8 package.toJson.render := by
  simp only [ContextPackage.canonicalBytes, ok_iff] at h
  obtain ⟨-, -, -, -, rfl⟩ := h
  rfl

def NewCheckpoint.packageRow (input : NewCheckpoint) (sequence : Nat) : TaskContextPackageRow :=
  ⟨input.contextPackage.packageId, input.taskId, input.checkpoint.checkpointId,
    input.checkpoint.compactionGeneration, sequence, some input.contextPackage⟩

theorem NewCheckpoint.packageRow_packs {input : NewCheckpoint}
    (h : validateCheckpointInput sha256 input = .ok ()) (sequence : Nat) :
    (input.packageRow sequence).Packs sha256 (input.row sequence)
      input.checkpoint.normalize input.contextPackage := by
  simp only [validateCheckpointInput, ContextPackage.digest, ok_iff, ne_eq, not_or, not_not] at h
  obtain ⟨⟨-, hcheckpoint, hfirst, hlast⟩, _, -, -, _, ⟨bytes, hbytes, -⟩, -⟩ := h
  refine ⟨rfl, rfl, hcheckpoint, rfl, rfl, hfirst, hlast, ?_⟩
  rw [hbytes, ← contextPackage_canonicalBytes_eq_utf8 hbytes]

theorem ChildTables.Packaged.insertCanonical {input : NewCheckpoint} {sequence : Nat}
    (h : children.Packaged sha256) (hinput : validateCheckpointInput sha256 input = .ok ())
    (hinsert : children.insertCanonical sequence input = .ok children') :
    children'.Packaged sha256 := by
  obtain ⟨checkpoints, packages, hcheckpoint, hpackage, rfl⟩ := insertCanonical_writes hinsert
  have hpacks := NewCheckpoint.packageRow_packs hinput sequence
  obtain ⟨hnew, hrows⟩ := insert_eq_some.mp hcheckpoint
  have hpackageRows := (insert_eq_some.mp hpackage).2
  change checkpoints.rows = _ ++ [input.row sequence] at hrows
  change packages.rows = _ ++ [input.packageRow sequence] at hpackageRows
  -- The new package is joined with the new checkpoint alone.
  have hothers : ∀ row ∈ children.taskCheckpoints.rows,
      ¬ (input.packageRow sequence).Joins row := by
    intro row hrow hjoins
    have hfind := find?_of_mem hrow
    rw [← hjoins.2] at hfind
    cases hnew.symm.trans hfind
  refine ⟨?_, ?_, ?_, ?_⟩
  · intro packageRow hpackageRow
    rw [hpackageRows, mem_append, mem_singleton] at hpackageRow
    rcases hpackageRow with hpackageRow | rfl
    · obtain ⟨stored, hstored⟩ := Option.ne_none_iff_exists'.mp (h.refers packageRow hpackageRow)
      simp [find?_insert_of_some hcheckpoint hstored]
    · have hfind := find?_insert hcheckpoint input.checkpoint.checkpointId
      rw [if_pos rfl] at hfind
      exact fun hnone => Option.some_ne_none _ (hfind.symm.trans hnone)
  · intro row hrow checkpoint hpayload
    rw [hrows, mem_append, mem_singleton] at hrow
    rcases hrow with hrow | rfl
    · obtain ⟨packageRow, hpackageRow, hjoins⟩ := h.packed row hrow checkpoint hpayload
      refine ⟨packageRow, ?_, hjoins⟩
      rw [hpackageRows]
      exact mem_append_left _ hpackageRow
    · refine ⟨input.packageRow sequence, ?_, rfl, rfl⟩
      rw [hpackageRows]
      exact mem_append_right _ (mem_singleton_self _)
  · intro row hrow checkpoint hpayload packageRow hpackageRow hjoins
    rw [hrows, mem_append, mem_singleton] at hrow
    rw [hpackageRows, mem_append, mem_singleton] at hpackageRow
    rcases hrow with hrow | rfl
    · rcases hpackageRow with hpackageRow | rfl
      · exact h.packs row hrow checkpoint hpayload packageRow hpackageRow hjoins
      · exact absurd hjoins (hothers row hrow)
    · rcases hpackageRow with hpackageRow | rfl
      · exact absurd hjoins (h.not_joins hnew hpackageRow)
      · cases hpayload
        exact ⟨input.contextPackage, hpacks⟩
  · intro row hrow hnone packageRow hpackageRow hjoins
    rw [hrows, mem_append, mem_singleton] at hrow
    rw [hpackageRows, mem_append, mem_singleton] at hpackageRow
    rcases hrow with hrow | rfl
    · rcases hpackageRow with hpackageRow | rfl
      · exact h.plain row hrow hnone packageRow hpackageRow hjoins
      · exact absurd hjoins (hothers row hrow)
    · cases hnone

/-! ## Which compactions are safe -/

/-- A completed compaction of a canonical checkpoint names a stored package. -/
def Db.NamesPackage (db : Db) : TaskEvent → Prop
  | .compactionCompleted _ checkpointId contextPackageId =>
    (∃ stored ∈ db.children.taskCheckpoints.find? checkpointId, stored.checkpoint ≠ none) →
    db.children.taskContextPackages.find? contextPackageId ≠ none
  | _ => True

def Call.NamesPackage (world : World) : Call → Prop
  | .appendTaskEvent _ _ _ event => world.db.NamesPackage event
  | _ => True

variable {db : Db} {event : TaskEvent}

theorem Db.namesPackage_of_routine (h : isRoutineEvent event = true) : db.NamesPackage event := by
  cases event <;> trivial

theorem ChildWrite.packaged {taskId : TaskId} {sequence : Nat} (hchildren : db.children = children)
    (hnames : db.NamesPackage event) (hpackaged : children.Packaged sha256)
    (h : ChildWrite children taskId sequence event children') : children'.Packaged sha256 := by
  subst hchildren
  cases h with
  | checkpointCommitted hinsert => exact hpackaged.insertPlain hinsert rfl
  | compactionCompleted hinsert hcheckpoint =>
    obtain ⟨stored, hstored, -⟩ := Option.any_eq_true _ _ |>.mp hcheckpoint
    refine hpackaged.insertEmptyPackage hinsert rfl hstored ?_
    by_contra hpayload
    exact hnames ⟨stored, hstored, hpayload⟩ (insert_eq_some.mp hinsert).1
  | epochClosed _ hclose hrest =>
    refine hpackaged.of_same ?_ ?_
    · rw [hrest, closeEpoch_rest hclose]
    · rw [hrest, closeEpoch_rest hclose]
  | configurationQueued _ _ hrest | configurationApplied _ _ _ _ _ _ hrest | steeringQueued hrest =>
    exact hpackaged.of_same (by rw [hrest]) (by rw [hrest])
  | _ => exact hpackaged.of_same rfl rfl

def Db.ArtifactsKept (db : Db) : Prop :=
  ∀ row ∈ db.children.taskCheckpoints.rows, ∀ checkpoint, row.checkpoint = some checkpoint →
      ∀ digest ∈ checkpoint.artifactDigests, db.artifactObjects.find? digest ≠ none

theorem Db.ArtifactsKept.of_same {db db' : Db} (h : db.ArtifactsKept)
    (hartifacts : db'.artifactObjects = db.artifactObjects)
    (hrows : ∀ row ∈ db'.children.taskCheckpoints.rows,
      row.checkpoint ≠ none → row ∈ db.children.taskCheckpoints.rows) : db'.ArtifactsKept := by
  intro row hrow checkpoint hcheckpoint digest hdigest
  rw [hartifacts]
  exact h row (hrows row hrow (by simp [hcheckpoint])) checkpoint hcheckpoint digest hdigest

theorem validateCheckpointArtifacts_eq_ok {checkpoint : CanonicalCheckpoint} {u : Unit} :
    validateCheckpointArtifacts db checkpoint = .ok u ↔ ∀ digest ∈ checkpoint.artifactDigests,
        db.artifactObjects.find? digest ≠ none := by
  unfold validateCheckpointArtifacts
  rw [forM_eq_ok]
  simp only [rejectIf_eq_ok, ne_eq]

theorem find?_deleteWhere_of_kept {table : Table ArtifactObjectRow.id} {referenced : List String}
    {digest : String} (hreferenced : digest ∈ referenced) (h : table.find? digest ≠ none) :
    (table.deleteWhere fun row => decide (row.id ∉ referenced)).find? digest ≠ none := by
  obtain ⟨row, hrow⟩ := Option.ne_none_iff_exists'.mp h
  obtain ⟨hmem, hid⟩ := find?_eq_some_iff.mp hrow
  have hkept : row ∈ (table.deleteWhere fun row =>
      decide (row.id ∉ referenced)).rows := by
    refine mem_filter.mpr ⟨hmem, ?_⟩
    simp [hid, hreferenced]
  rw [find?_eq_some_iff.mpr ⟨hkept, hid⟩]
  simp

structure Db.Openable (sha256 : Sha256) (db : Db) : Prop where
  packaged : db.children.Packaged sha256
  artifacts : db.ArtifactsKept

theorem Db.openable_empty : Db.empty.Openable sha256 where
  packaged := by
    refine ⟨?_, ?_, ?_, ?_⟩ <;> exact fun _ h => nomatch h
  artifacts := fun _ h => nomatch h

theorem Db.Openable.of_idle {db db' : Db} (h : db.Openable sha256) (hidle : Idle db db')
    (hartifacts : db'.artifactObjects = db.artifactObjects) : db'.Openable sha256 := by
  have hchildren := hidle.children
  refine ⟨h.packaged.of_same ?_ ?_, h.artifacts.of_same hartifacts ?_⟩
  · rw [hchildren]
  · rw [hchildren]
  · intro row hrow _
    rw [hchildren] at hrow
    exact hrow

theorem DbStep.openable {db db' : Db} {action : Action} (hdb : db.Openable sha256)
    (hnames : ∀ taskId event, action = .event taskId event → db.NamesPackage event)
    (h : DbStep sha256 db action db') : db'.Openable sha256 := by
  cases h with
  | session h =>
    exact ⟨hdb.packaged, hdb.artifacts⟩
  | otherEvent h => exact hdb.of_idle h.idle (by rw [h.rest])
  | artifact h =>
    refine ⟨hdb.packaged, ?_⟩
    intro row hrow checkpoint hcheckpoint digest hdigest
    obtain ⟨stored, hstored⟩ := Option.ne_none_iff_exists'.mp
      (hdb.artifacts row hrow checkpoint hcheckpoint digest hdigest)
    simp [find?_insert_of_some h hstored]
  | sweep h =>
    refine ⟨hdb.packaged, ?_⟩
    intro row hrow checkpoint hcheckpoint digest hdigest
    exact find?_deleteWhere_of_kept (h row hrow checkpoint hcheckpoint digest
      hdigest) (hdb.artifacts row hrow checkpoint hcheckpoint digest hdigest)
  | receipt h => exact ⟨hdb.packaged, hdb.artifacts⟩
  | steering h =>
    refine hdb.of_idle (bindSteeringControl_idle h) ?_
    simp only [bindSteeringControl, ok_iff] at h
    obtain ⟨-, -, -, -, rfl⟩ := h
    rfl
  | created h =>
    refine ⟨hdb.packaged.of_same ?_ ?_, hdb.artifacts.of_same h.artifacts ?_⟩
    · rw [h.children]
    · rw [h.children]
    · intro row hrow _
      rw [h.children] at hrow
      exact hrow
  | @event _ taskId event row _ _ h hwrite =>
    have hchildren := childTables_apply_write hwrite
    refine ⟨hchildren.packaged rfl (hnames taskId event rfl) hdb.packaged,
      hdb.artifacts.of_same h.artifacts ?_⟩
    intro stored hstored hpayload
    obtain ⟨added, hrows, hadded, -⟩ := hchildren.checkpointRows row.sessionId
    rw [hrows, mem_append] at hstored
    rcases hstored with hstored | hstored
    · exact hstored
    · exact absurd (hadded stored hstored).2 hpayload
  | @checkpoint _ input _ _ _ _ _ h =>
    refine ⟨hdb.packaged.insertCanonical h.inputOk h.children, ?_⟩
    obtain ⟨checkpoints, packages, hinsert, -, hwritten⟩ := insertCanonical_writes h.children
    have hartifacts := validateCheckpointArtifacts_eq_ok.mp h.artifacts
    rw [Db.ArtifactsKept, hwritten, h.append.artifacts]
    refine (forall_insert hinsert).mpr ⟨hdb.artifacts, ?_⟩
    rintro checkpoint ⟨⟩ digest hdigest
    exact hartifacts digest (CanonicalCheckpoint.artifactDigests_normalize hdigest)

theorem World.run_openable {calls : List Call}
    (hmeet : initial.CallsMeet sha256 Call.NamesPackage calls) :
    (run sha256 calls).db.Openable sha256 := by
  refine run_step_invariant Db.openable_empty ?_ hmeet
  intro world call db action db' hguard hpermits _ _ _ hdb hstep
  refine hstep.openable hdb ?_
  rintro taskId event rfl
  rcases hpermits with ⟨h, expectedRevision, rfl, rfl⟩ | hroutine
  · exact hguard
  · exact Db.namesPackage_of_routine hroutine

/-! ## The scan -/

theorem validateTaskProjectionCompleteness_of_consistent (hdb : db.Consistent)
    (hchildren : db.ChildrenFollow) :
    ∃ records, validateTaskProjectionCompleteness db = .ok records := by
  have htask : ∀ taskId ∈ journalTaskIds db, ∃ record,
      ∃ authority, validateTaskAuthorityFromJournal db taskId =
        .ok authority ∧ record = authority.record := by
    intro taskId htaskId
    have hmem := mem_sortDedup_id.mp htaskId
    obtain ⟨envelope, henvelope, hevent⟩ := mem_filterMap.mp hmem
    have hjournal : envelope ∈ db.journal taskId := by
      refine mem_filter.mpr ⟨henvelope, ?_⟩
      unfold isTaskEvent
      cases h : envelope.event with
      | other =>
        rw [h] at hevent
        cases hevent
      | taskLifecycle id event =>
        rw [h] at hevent
        simpa using hevent
    cases hrow : db.agentTasks.find? taskId with
    | none =>
      rw [hdb.replayed.absent taskId hrow] at hjournal
      cases hjournal
    | some row =>
      obtain ⟨record, hreplayed⟩ := hchildren.rows taskId row hrow
      exact ⟨_, _, validateTaskAuthorityFromJournal_eq_ok hdb hrow hreplayed, rfl⟩
  obtain ⟨records, hrecords⟩ : ∃ records, List.Forall₂ (fun taskId record =>
      ∃ authority, validateTaskAuthorityFromJournal db taskId =
        .ok authority ∧ record = authority.record)
      (journalTaskIds db) records := by
    generalize journalTaskIds db = taskIds at htask
    induction taskIds with
    | nil => exact ⟨[], .nil⟩
    | cons taskId rest ih =>
      rw [forall_mem_cons] at htask
      obtain ⟨record, hrecord⟩ := htask.1
      obtain ⟨records, hrecords⟩ := ih htask.2
      exact ⟨record :: records, .cons hrecord hrecords⟩
  refine ⟨records, validateTaskProjectionCompleteness_eq_ok.mpr ⟨hrecords, ?_⟩⟩
  intro row hrow
  have hreplayed := hdb.replayed.rows row.id row (find?_of_mem hrow)
  obtain ⟨envelope, henvelope⟩ := exists_mem_of_ne_nil _ (reduced_ne_nil hreplayed.fold)
  exact ⟨envelope, mem_filter.mp henvelope⟩

section Row

variable {db : Db} {row : TaskCheckpointRow}
  {checkpoint : CanonicalCheckpoint} {before after : List EventEnvelope}
  {event : EventEnvelope}

theorem filter_before (hdb : db.Consistent)
    (hsplit : db.journal row.taskId = before ++ event :: after) :
    db.events.rows.filter (fun envelope => isTaskEvent row.taskId envelope &&
      decide (envelope.sequence < event.sequence)) = before := by
  have hincreasing := hdb.journal_increasing row.taskId
  have hjournal : db.events.rows.filter (fun envelope =>
      isTaskEvent row.taskId envelope && decide (envelope.sequence < event.sequence)) =
      (db.journal row.taskId).filter
        fun envelope => decide (envelope.sequence < event.sequence) := by
    unfold Db.journal
    rw [filter_filter]
    exact filter_congr fun _ _ => Bool.and_comm _ _
  rw [hsplit] at hjournal hincreasing
  obtain ⟨-, hlater, hbefore⟩ := pairwise_append.mp hincreasing
  have hfirst : before.filter (fun envelope => decide (envelope.sequence < event.sequence)) =
        before := by
    refine filter_eq_self.mpr fun envelope henvelope => ?_
    simpa using hbefore envelope henvelope event (by simp)
  have hrest : (event :: after).filter
      (fun envelope => decide (envelope.sequence < event.sequence)) = [] := by
    refine filter_eq_nil_iff.mpr fun envelope henvelope => ?_
    rcases mem_cons.mp henvelope with rfl | henvelope
    · simp
    · have hlt := (pairwise_cons.mp hlater).1 envelope henvelope
      simpa using hlt.le
  rw [hjournal, filter_append, hfirst, hrest, append_nil]

theorem validateCanonicalSourceBounds_of_certified (hdb : db.Consistent)
    (hsplit : db.journal row.taskId = before ++ event :: after)
    (hmark : checkpointMark event = some row.mark)
    (hcertified : row.Certified sha256 checkpoint before) :
    validateCanonicalSourceBounds db checkpoint row.eventSequence row.digest = .ok () := by
  have hsequence : event.sequence = row.eventSequence := (checkpointMark_sequence hmark).symm
  have hincreasing := hdb.journal_increasing row.taskId
  rw [hsplit] at hincreasing
  obtain ⟨snapshot, hreduced⟩ := hcertified.reduced
  have hbounds := sequenceBounds_of_filter (filter_before hdb hsplit)
    (pairwise_append.mp hincreasing).1 (reduced_ne_nil hreduced)
  have hmem : event ∈ db.journal row.taskId := by
    rw [hsplit]
    exact mem_append_right _ (mem_cons_self ..)
  obtain ⟨hstored, htaskEvent⟩ := mem_filter.mp hmem
  have hevent : isCheckpointEvent checkpoint row.digest event = true := by
    unfold checkpointMark at hmark
    split at hmark
    · rename_i taskId id found heq
      have hsame : taskId = row.taskId := by
        simpa [isTaskEvent, heq] using htaskEvent
      have hfields := CheckpointMark.mk.inj (Option.some.inj hmark)
      simp [isCheckpointEvent, heq, hcertified.taskId, hcertified.id, hsame, hfields]
    · cases hmark
  rw [hsequence] at hbounds
  simp only [validateCanonicalSourceBounds, hcertified.taskId, hbounds, ok_iff, Option.some.injEq,
    exists_eq_left', not_or, ne_eq, not_not]
  refine ⟨⟨hcertified.first, hcertified.last⟩, ?_⟩
  rw [any_eq_true]
  exact ⟨event, hstored, by simp [hsequence, hevent]⟩

theorem checkpointMarks_before {journal : List EventEnvelope}
    (hincreasing : journal.Pairwise fun a b => a.sequence < b.sequence)
    (hsplit : journal = before ++ event :: after) :
    (checkpointMarks journal).filter (fun mark => decide (mark.sequence < event.sequence)) =
        checkpointMarks before := by
  have hsequence : ∀ events : List EventEnvelope, ∀ mark,
      mark ∈ checkpointMarks events → ∃ envelope ∈ events, mark.sequence = envelope.sequence := by
    intro events mark hmark
    obtain ⟨envelope, henvelope, hmark⟩ := mem_filterMap.mp hmark
    exact ⟨envelope, henvelope, checkpointMark_sequence hmark⟩
  rw [hsplit] at hincreasing
  obtain ⟨-, hlater, hbefore⟩ := pairwise_append.mp hincreasing
  have hmarks : checkpointMarks journal =
      checkpointMarks before ++ checkpointMarks (event :: after) := by
    rw [hsplit]
    exact filterMap_append ..
  rw [hmarks, filter_append]
  have hfirst : (checkpointMarks before).filter
      (fun mark => decide (mark.sequence < event.sequence)) =
        checkpointMarks before := by
    refine filter_eq_self.mpr fun mark hmark => ?_
    obtain ⟨envelope, henvelope, hmark⟩ := hsequence before mark hmark
    rw [hmark]
    simpa using hbefore envelope henvelope event (by simp)
  have hrest : (checkpointMarks (event :: after)).filter
      (fun mark => decide (mark.sequence < event.sequence)) = [] := by
    refine filter_eq_nil_iff.mpr fun mark hmark => ?_
    obtain ⟨envelope, henvelope, hmark⟩ := hsequence _ mark hmark
    rw [hmark]
    rcases mem_cons.mp henvelope with rfl | henvelope
    · simp
    · have hlt := (pairwise_cons.mp hlater).1 envelope henvelope
      simpa using hlt.le
  rw [hfirst, hrest, append_nil]

theorem previousCheckpointDigest_eq (hdb : db.Consistent) (hrecorded : db.CheckpointsRecorded)
    (hsplit : db.journal row.taskId = before ++ event :: after)
    (hmark : checkpointMark event = some row.mark) :
    previousCheckpointDigest db row.taskId row.eventSequence =
      (checkpointMarks before).getLast?.map (·.digest) := by
  have hsequence : event.sequence = row.eventSequence := (checkpointMark_sequence hmark).symm
  have hincreasing := hdb.journal_increasing row.taskId
  have hrows : (db.children.taskCheckpoints.rows.filter fun stored =>
      decide (stored.taskId = row.taskId ∧ stored.eventSequence < row.eventSequence)).map
          TaskCheckpointRow.mark = checkpointMarks before := by
    rw [← checkpointMarks_before hincreasing hsplit, ← hrecorded row.taskId, filter_map, hsequence]
    congr 1
    unfold Db.checkpointRows
    rw [filter_filter]
    refine filter_congr fun stored _ => ?_
    rw [Bool.decide_and, Bool.and_comm]
    rfl
  have hsorted : (db.children.taskCheckpoints.rows.filter fun stored =>
      decide (stored.taskId = row.taskId ∧ stored.eventSequence < row.eventSequence)).Pairwise
          fun a b => a.eventSequence ≤ b.eventSequence := by
    have hbefore := checkpointMarks_increasing (pairwise_append.mp (hsplit ▸ hincreasing)).1
    rw [← hrows, pairwise_map] at hbefore
    exact hbefore.imp le_of_lt
  unfold previousCheckpointDigest
  rw [sortByKey_of_pairwise hsorted, ← hrows, getLast?_map, Option.map_map]
  rfl

theorem validatePayload_eq_ok {packageRow : TaskContextPackageRow} {package : ContextPackage}
    (hdb : db.Consistent) (hrecorded : db.CheckpointsRecorded) (hartifacts : db.ArtifactsKept)
    (hrow : row ∈ db.children.taskCheckpoints.rows) (hpayload : row.checkpoint = some checkpoint)
    (hsplit : db.journal row.taskId = before ++ event :: after)
    (hmark : checkpointMark event = some row.mark)
    (hcertified : row.Certified sha256 checkpoint before)
    (hpacks : packageRow.Packs sha256 row checkpoint package) :
    validatePayload sha256 db row packageRow checkpoint package = .ok () := by
  have hbounds := validateCanonicalSourceBounds_of_certified hdb hsplit hmark hcertified
  have hprevious := previousCheckpointDigest_eq hdb hrecorded hsplit hmark
  have hgeneration : ¬ packageRow.generation > maxU32 := by
    rw [← hpacks.generation]
    exact not_lt.mpr hcertified.generation
  simp only [validatePayload, ok_iff, hcertified.bytes, hpacks.bytes, exists_eq_left',
    hcertified.digest, hbounds, not_or, ne_eq, not_not, true_and]
  refine ⟨hgeneration, ⟨hcertified.taskId, hcertified.id, hpacks.id, hpacks.checkpointId,
    hpacks.generation, hpacks.sequence, hpacks.first, hpacks.last⟩, ?_, ?_⟩
  · rw [hcertified.previous, hprevious]
  · exact validateCheckpointArtifacts_eq_ok.mpr (hartifacts row hrow checkpoint hpayload)

end Row

theorem mem_joinedPackages {joined : PayloadRow}
    (h : joined ∈ joinedPackages db row) :
    joined.1 = row ∧
      match joined.2 with
      | some packageRow =>
        packageRow ∈ db.children.taskContextPackages.rows ∧ packageRow.Joins row
      | none => ∀ packageRow ∈ db.children.taskContextPackages.rows, ¬ packageRow.Joins row := by
  unfold joinedPackages at h
  split at h
  · rename_i hnone
    rw [mem_singleton] at h
    subst h
    refine ⟨rfl, fun packageRow hpackageRow hjoins => ?_⟩
    exact filter_eq_nil_iff.mp hnone packageRow hpackageRow (decide_eq_true hjoins)
  · obtain ⟨packageRow, hpackageRow, rfl⟩ := mem_map.mp h
    obtain ⟨hmem, hjoins⟩ := mem_filter.mp hpackageRow
    exact ⟨rfl, hmem, show _ ∧ _ from of_decide_eq_true hjoins⟩

theorem validateTaskCanonicalPayloads_eq_ok (hdb : db.Consistent)
    (hrecorded : db.CheckpointsRecorded) (hcertified : db.Certified sha256)
    (hopen : db.Openable sha256) :
    validateTaskCanonicalPayloadsFiltered sha256 db none = .ok () := by
  unfold validateTaskCanonicalPayloadsFiltered
  rw [forM_eq_ok]
  intro joined hjoined
  unfold payloadRows at hjoined
  rw [mem_sortByKey] at hjoined
  obtain ⟨hjoined, hpayload⟩ := mem_filter.mp hjoined
  obtain ⟨row, hrow, hjoined⟩ := mem_flatMap.mp hjoined
  replace hrow := (mem_filter.mp hrow).1
  obtain ⟨hsame, hpackage⟩ := mem_joinedPackages hjoined
  subst hsame
  obtain ⟨row, package⟩ := joined
  unfold validatePayloadRow
  cases hcheckpoint : row.checkpoint with
  | none =>
    cases package with
    | none => simp [isPayloadRow, hcheckpoint] at hpayload
    | some packageRow =>
      have hempty := hopen.packaged.plain row hrow hcheckpoint packageRow hpackage.1 hpackage.2
      simp [isPayloadRow, hcheckpoint, hempty] at hpayload
  | some checkpoint =>
    cases package with
    | none =>
      obtain ⟨packageRow, hmem, hjoins⟩ := hopen.packaged.packed row hrow checkpoint hcheckpoint
      exact absurd hjoins (hpackage packageRow hmem)
    | some packageRow =>
      obtain ⟨package, hpacks⟩ := hopen.packaged.packs row hrow checkpoint
        hcheckpoint packageRow hpackage.1 hpackage.2
      obtain ⟨before, event, after, hsplit, hmark, hrowCertified⟩ :=
        hcertified row hrow checkpoint hcheckpoint
      simp only [hpacks.payload]
      exact validatePayload_eq_ok hdb hrecorded hopen.artifacts hrow
        hcheckpoint hsplit hmark hrowCertified hpacks

/-- While every completed compaction of a canonical checkpoint names a stored
package, the store can be opened. -/
theorem store_opens_of_named_packages (sha256 : Sha256) (calls : List Call)
    (hmeet : initial.CallsMeet sha256 Call.NamesPackage calls) :
    ∃ records, validateTasksOnOpen sha256 (run sha256 calls).db = .ok records := by
  have hconsistent := @run_consistent sha256 calls
  obtain ⟨hrecorded, hcertified⟩ := @run_certified sha256 calls
  obtain ⟨records, hrecords⟩ := validateTaskProjectionCompleteness_of_consistent hconsistent
      (run_childrenFollow calls)
  have hpayloads := validateTaskCanonicalPayloads_eq_ok hconsistent hrecorded
    hcertified (run_openable hmeet)
  refine ⟨records, ?_⟩
  simp only [validateTasksOnOpen, ok_iff]
  exact ⟨records, hrecords, (), hpayloads, rfl⟩

namespace Sample

def compaction (generation : Nat) (contextPackageId : ContextPackageId) : Call :=
  .appendTaskEvent 0 Task.Sample.taskId 2
    (.compactionCompleted generation checkpointId contextPackageId)

end Sample

theorem sample_compaction_opens : ∃ records, validateTasksOnOpen sha (run sha
      (checkpointCalls ++ [compaction 0 packageId])).db = .ok records := by
  refine store_opens_of_named_packages sha _
    (callsMeet_concat.mpr ⟨⟨trivial, trivial, trivial, trivial⟩, fun _ => ?_⟩)
  have hpackage : (run sha checkpointCalls).db.children
      |>.taskContextPackages.find? packageId |>.isSome := by
    decide +kernel
  exact Option.isSome_iff_ne_none.mp hpackage

/-- An accepted compaction into an unknown package leaves a store that the
same program refuses to open. -/
theorem sample_compaction_blocks_open :
    validateTasksOnOpen sha (run sha (checkpointCalls ++ [compaction 1 ⟨8⟩])).db =
        .error (.storage "canonical checkpoint and context package are not atomic") ∧
    ((run sha (checkpointCalls ++
      [compaction 1 ⟨8⟩])).db.agentTasks.find? Task.Sample.taskId).map (·.revision) = some 3 := by
  decide +kernel

end CarlAgent.Storage
