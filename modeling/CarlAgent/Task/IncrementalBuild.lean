import CarlAgent.Task.OperationReplay

/-!
# Building checkpoints segment by segment

A checkpoint carries only the status and the consumed evidence of an
operation.  That is enough to continue the build: a carried operation is
resolved, and no event touches a resolved operation again.
-/

namespace CarlAgent.Task

open List Foundation OrderedMap

variable {events before segment : List EventEnvelope} {first last : Nat}
  {a b operations whole : OperationBuildMap}
  {previous : Option CanonicalCheckpoint}
variable {segments : List (List EventEnvelope × CanonicalCheckpoint)}
  {sequence last' : Nat} {a' : OperationBuildMap}

/-- The checkpoint of `segment`, which follows the events `before`.  The
fields that the operations do not depend on are those of `rest`. -/
def buildAtCut (before : List EventEnvelope) (previous : Option CanonicalCheckpoint)
    (segment : List EventEnvelope) (rest : CanonicalCheckpoint) :
    Except CheckpointError CanonicalCheckpoint :=
  match reduceJournal (before ++ segment) with
  | .ok (some snapshot) => do
    validateEventOrder segment snapshot previous
    let range ← sourceRange previous segment
    let operations ← buildOperations previous segment range.1 range.2
    .ok { rest with operations, sourceSequenceStart := range.1, sourceSequenceEnd := range.2 }
  | _ => .error .invalidSource

def buildSegmentsFrom (before : List EventEnvelope) (previous : Option CanonicalCheckpoint) :
    List (List EventEnvelope × CanonicalCheckpoint) →
      Except CheckpointError (Option CanonicalCheckpoint)
  | [] => .ok previous
  | (segment, rest) :: segments => do
    let checkpoint ← buildAtCut before previous segment rest
    buildSegmentsFrom (before ++ segment) (some checkpoint) segments

def buildSegments (segments : List (List EventEnvelope × CanonicalCheckpoint)) :
    Except CheckpointError (Option CanonicalCheckpoint) :=
  buildSegmentsFrom [] none segments

def joinSegments (segments : List (List EventEnvelope × CanonicalCheckpoint)) :
    List EventEnvelope :=
  segments.flatMap (·.1)

/-- Equal states, or two states of a resolved operation with one checkpoint. -/
inductive SameOutcome : OperationBuildState → OperationBuildState → Prop
  | same (operation : OperationBuildState) : SameOutcome operation operation
  | resolved {whole carried : OperationBuildState}
    (hcheckpoint : whole.checkpoint = carried.checkpoint)
    (hresolved : whole.checkpoint.status.isResolved = true) :
    SameOutcome whole carried

/-- Two build maps that no further event can tell apart. -/
def Interchangeable (whole carried : OperationBuildMap) : Prop :=
  ∀ operationId, Option.Rel SameOutcome (whole.find? operationId) (carried.find? operationId)

theorem SameOutcome.symm {a b : OperationBuildState} (h : SameOutcome a b) : SameOutcome b a := by
  cases h with
  | same => exact .same a
  | resolved hcheckpoint hresolved =>
    exact .resolved hcheckpoint.symm (hcheckpoint ▸ hresolved)

theorem SameOutcome.checkpoint_eq {a b : OperationBuildState}
    (h : SameOutcome a b) : a.checkpoint = b.checkpoint := by
  cases h with
  | same => rfl
  | resolved hcheckpoint _ => exact hcheckpoint

private theorem sameOutcome_rel_symm {a b : Option OperationBuildState}
    (h : Option.Rel SameOutcome a b) : Option.Rel SameOutcome b a := by
  cases h with
  | some hsame => exact .some hsame.symm
  | none => exact .none

theorem Interchangeable.symm (h : Interchangeable a b) : Interchangeable b a :=
  fun operationId => sameOutcome_rel_symm (h operationId)

theorem Interchangeable.find?_none {operationId : OperationId} (h : Interchangeable a b)
    (hnone : a.find? operationId = none) : b.find? operationId = none := by
  have hrel := h operationId
  rw [hnone] at hrel
  cases hb : b.find? operationId with
  | none => rfl
  | some found =>
    rw [hb] at hrel
    cases hrel

theorem Interchangeable.find?_unresolved {operationId : OperationId}
    {operation : OperationBuildState} (h : Interchangeable a b)
    (hfind : a.find? operationId = some operation)
    (hopen : operation.checkpoint.status.isResolved = false) :
    b.find? operationId = some operation := by
  have hrel := h operationId
  rw [hfind] at hrel
  cases hb : b.find? operationId with
  | none =>
    rw [hb] at hrel
    cases hrel
  | some found =>
    rw [hb] at hrel
    cases hrel with
    | some hsame =>
      cases hsame with
      | same => rfl
      | resolved _ hresolved => simp [hresolved] at hopen

theorem Interchangeable.insert (h : Interchangeable a b) (operationId : OperationId)
    (operation : OperationBuildState) :
    Interchangeable (a.insert operationId operation) (b.insert operationId operation) := by
  intro other
  rw [find?_insert, find?_insert]
  split
  · exact .some (.same operation)
  · exact h other

theorem BuildEffect.interchangeable {event : TaskEvent}
    (heffect : BuildEffect first last a sequence event a') (h : Interchangeable a b) :
    ∃ b', BuildEffect first last b sequence event b' ∧ Interchangeable a' b' := by
  cases heffect with
  | intent hnew =>
    exact ⟨_, .intent (h.find?_none hnew), h.insert _ _⟩
  | transition hfind hrange hevidence =>
    obtain ⟨hsource, hedge, -⟩ := OperationEvidenceState.transition_eq_ok.mp hevidence
    have hopen := hsource ▸ not_isResolved_of_legalOperationEdge hedge
    have hsame := h.find?_unresolved hfind hopen
    exact ⟨_, .transition hsame hrange hevidence, h.insert _ _⟩
  | @record _ _ operation _ hfind hdigest hevidence =>
    obtain ⟨hstatus, -⟩ := OperationEvidenceState.record_eq_ok.mp hevidence
    have hopen : operation.checkpoint.status.isResolved = false := by
      rcases hstatus with hstatus | hstatus <;> rw [hstatus] <;> rfl
    have hsame := h.find?_unresolved hfind hopen
    exact ⟨_, .record hsame hdigest hevidence, h.insert _ _⟩
  | skip hevent => exact ⟨b, .skip hevent, h⟩

theorem foldlM_buildOperation_interchangeable (h : Interchangeable a b)
    (hbuild : events.foldlM (buildOperation first last) a = .ok a') :
    ∃ b', events.foldlM (buildOperation first last) b = .ok b' ∧ Interchangeable a' b' := by
  refine foldlM_simulation ?_ h hbuild
  intro a b envelope a' _ hab hturn
  obtain ⟨taskId, event, hevent, heffect⟩ := buildOperation_eq_ok.mp hturn
  obtain ⟨b', heffect', hab'⟩ := heffect.interchangeable hab
  exact ⟨b', buildOperation_eq_ok.mpr ⟨taskId, event, hevent, heffect'⟩, hab'⟩

/-! ## What a checkpoint carries -/

theorem Interchangeable.map_checkpoint (h : Interchangeable a b) (operationId : OperationId) :
    (a.find? operationId).map (·.checkpoint) = (b.find? operationId).map (·.checkpoint) := by
  have hrel := h operationId
  generalize a.find? operationId = x at hrel
  generalize b.find? operationId = y at hrel
  cases hrel with
  | some hsame => simp [hsame.checkpoint_eq]
  | none => rfl

theorem Interchangeable.checkpoints_eq (h : Interchangeable a b) :
    a.values.map (·.checkpoint) = b.values.map (·.checkpoint) :=
  values_map_eq h.map_checkpoint

theorem Interchangeable.resolved (h : Interchangeable a b)
    (hresolved : (buildLedger a).Resolved) : (buildLedger b).Resolved := by
  intro operationId cell hcell
  obtain ⟨operation, hfind, rfl⟩ := Option.map_eq_some_iff.mp hcell
  have hmap := h.map_checkpoint operationId
  rw [hfind] at hmap
  obtain ⟨other, hother, hcheckpoint⟩ := Option.map_eq_some_iff.mp hmap
  have hstatus := hresolved operationId other.cell (by simp [buildLedger, hother])
  simpa [OperationBuildState.cell, hcheckpoint] using hstatus

theorem BuildEffect.change_last {next : OperationBuildMap} {event : TaskEvent}
    (h : BuildEffect first last operations sequence event next) (hlast : sequence ≤ last') :
    BuildEffect first last' operations sequence event next := by
  cases h with
  | intent hnew => exact .intent hnew
  | transition hfind hrange hevidence =>
    refine .transition hfind ?_ hevidence
    intro cited hcited
    obtain ⟨hfirst, -, hbefore⟩ := hrange cited hcited
    exact ⟨hfirst, by omega, hbefore⟩
  | record hfind hdigest hevidence => exact .record hfind hdigest hevidence
  | skip hevent => exact .skip hevent

theorem foldlM_buildOperation_change_last {start : OperationBuildMap}
    (hlast : ∀ envelope ∈ events, envelope.sequence ≤ last')
    (h : events.foldlM (buildOperation first last) start = .ok operations) :
    events.foldlM (buildOperation first last') start = .ok operations := by
  obtain ⟨other, hother, rfl⟩ := foldlM_simulation (R := fun a b : OperationBuildMap => a = b)
    (g := buildOperation first last') (t := start) (by
      rintro a _ envelope a' hmem rfl hturn
      obtain ⟨taskId, event, hevent, heffect⟩ := buildOperation_eq_ok.mp hturn
      exact ⟨a', buildOperation_eq_ok.mpr ⟨taskId, event, hevent,
        heffect.change_last (hlast envelope hmem)⟩, rfl⟩) rfl h
  exact hother

theorem sourceRange_some {checkpoint : CanonicalCheckpoint}
    (hrange : checkpoint.sourceSequenceStart ≤
      (events.getLast?.map (·.sequence)).getD checkpoint.sourceSequenceEnd) :
    sourceRange (some checkpoint) events =
      .ok (checkpoint.sourceSequenceStart, (events.getLast?.map (·.sequence)).getD
          checkpoint.sourceSequenceEnd) := by
  cases hlast : events.getLast? with
  | none =>
    rw [hlast] at hrange
    have hle : checkpoint.sourceSequenceStart ≤ checkpoint.sourceSequenceEnd := hrange
    simp [sourceRange, hlast, bind, Except.bind, requireSome, rejectIf, hle]
  | some last =>
    rw [hlast] at hrange
    have hle : checkpoint.sourceSequenceStart ≤ last.sequence := hrange
    simp [sourceRange, hlast, bind, Except.bind, requireSome, rejectIf, hle]

variable {snapshot : TaskSnapshot}

theorem reduced_identity (haccepted : reduceJournal events = .ok (some snapshot)) :
    ∀ envelope ∈ events, envelope.sessionId = snapshot.sessionId ∧
      ∃ event, envelope.event = .taskLifecycle snapshot.taskId event := by
  induction haccepted using reduceJournal_induction with
  | create envelope created hreduce =>
    intro other hother
    obtain rfl : other = envelope := by simpa using hother
    obtain ⟨taskId, _, _, _, _, _, _, hevent, -, rfl⟩ := reduceTask_none_iff.mp hreduce
    exact ⟨rfl, _, hevent⟩
  | step events state envelope next _ ih hreduce =>
    intro other hother
    obtain ⟨event, hevent, hsession, hstep⟩ := reduceTask_some_iff.mp hreduce
    obtain ⟨changed, heffect, rfl⟩ := hstep.effect
    obtain ⟨htask, hsame, -⟩ := heffect.frame
    simp only [htask, hsame]
    rcases mem_append.mp hother with hold | hnew
    · exact ih other hold
    · obtain rfl : other = envelope := by simpa using hnew
      exact ⟨hsession, event, hevent⟩

/-- The checkpoint `previous` stands for the build `whole` of the events
`before` in one go. -/
structure CutState (first last : Nat) (before : List EventEnvelope)
    (previous : Option CanonicalCheckpoint) (whole : OperationBuildMap) :
    Prop where
  built : before.foldlM (buildOperation first last) OrderedMap.empty =
    .ok whole
  carried : Interchangeable whole (carriedOperations previous)
  range : previous = none ∧ before = [] ∨
    ∃ checkpoint, previous = some checkpoint ∧ before ≠ [] ∧
      checkpoint.sourceSequenceStart = first ∧
      checkpoint.sourceSequenceEnd = lastSequence before

theorem CutState.wellFormed (h : CutState first last before previous whole) :
    WellFormedBuild whole :=
  foldlM_buildOperation_wellFormed (fun operationId operation hfind => by simp at hfind) h.built

theorem lastSequence_append (before segment : List EventEnvelope) :
    lastSequence (before ++ segment) =
      (segment.getLast?.map (·.sequence)).getD (lastSequence before) := by
  simp only [lastSequence, getLast?_append]
  cases segment.getLast? <;> simp

theorem CutState.source (h : CutState first last before previous whole)
    (haccepted : reduceJournal (before ++ segment) = .ok (some snapshot))
    (hincreasing : (before ++ segment).Pairwise fun a b => a.sequence < b.sequence)
    (hnonzero : ∀ envelope ∈ before ++ segment, envelope.sequence ≠ 0)
    (hfirst : firstSequence (before ++ segment) = first) :
    validateEventOrder segment snapshot previous = .ok () ∧ sourceRange previous segment =
        .ok (first, lastSequence (before ++ segment)) := by
  have hsegment := pairwise_append.mp hincreasing
  have hidentity := reduced_identity haccepted
  have horder : (∀ checkpoint ∈ previous, ∀ envelope ∈ segment,
      checkpoint.sourceSequenceEnd < envelope.sequence) →
      validateEventOrder segment snapshot previous = .ok () := by
    intro hafter
    have hloop := @foldlM_of_states _ _ _ (validateEventPosition snapshot previous)
      (fun seen => seen.getLast?.map (·.sequence)) segment (by
        intro seen envelope rest hsplit
        have hmem : envelope ∈ segment := by simp [hsplit]
        obtain ⟨hsession, event, hevent⟩ := hidentity envelope (by simp [hmem])
        have hfresh : seen.getLast?.map (·.sequence) ≠ some envelope.sequence := by
          intro hsame
          obtain ⟨prior, hprior, hsequence⟩ := Option.map_eq_some_iff.mp hsame
          have hincreasing := hsegment.2.1
          rw [hsplit] at hincreasing
          have hlt := (pairwise_append.mp hincreasing).2.2 prior
            (mem_of_getLast? hprior) envelope (by simp)
          omega
        simp [validateEventPosition, bind_eq_ok, hevent, hsession, hfresh,
          hnonzero envelope (by simp [hmem])]
        exact fun checkpoint hsome => hafter checkpoint hsome envelope hmem)
    simp only [getLast?_nil, Option.map_none] at hloop
    simp [validateEventOrder, hloop, bind, Except.bind]
  rcases h.range with ⟨rfl, rfl⟩ | ⟨checkpoint, rfl, hbefore, hstart, hend⟩
  · rw [nil_append] at haccepted hincreasing hfirst ⊢
    refine ⟨horder (by simp), ?_⟩
    rw [sourceRange_none (reduced_ne_nil haccepted) hincreasing, hfirst]
  · have hlast : lastSequence before ∈ before.map (·.sequence) := by
      obtain ⟨final, hfinal⟩ : ∃ final, before.getLast? = some final :=
        Option.isSome_iff_exists.mp (by simpa using hbefore)
      have hmem : final ∈ before := mem_of_getLast? hfinal
      simpa [lastSequence, hfinal] using ⟨final, hmem, rfl⟩
    obtain ⟨final, hfinal, hsequence⟩ := mem_map.mp hlast
    constructor
    · refine horder ?_
      intro other hother envelope hmem
      obtain rfl : checkpoint = other := by simpa using hother
      rw [hend, ← hsequence]
      exact hsegment.2.2 final hfinal envelope hmem
    · have hrange : checkpoint.sourceSequenceStart ≤ (segment.getLast?.map (·.sequence)).getD
            checkpoint.sourceSequenceEnd := by
        rw [hend, ← lastSequence_append, hstart, ← hfirst]
        have hwithin := within_of_increasing hincreasing final (by simp [hfinal])
        omega
      rw [sourceRange_some hrange, hend, ← lastSequence_append, hstart]

theorem buildAtCut_eq_ok {rest checkpoint : CanonicalCheckpoint}
    (h : CutState first last before previous whole)
    (haccepted : reduceJournal (before ++ segment) = .ok (some snapshot))
    (hincreasing : (before ++ segment).Pairwise fun a b => a.sequence < b.sequence)
    (hnonzero : ∀ envelope ∈ before ++ segment, envelope.sequence ≠ 0)
    (hfirst : firstSequence (before ++ segment) = first)
    (hlast : ∀ envelope ∈ before ++ segment, envelope.sequence ≤ last) :
    buildAtCut before previous segment rest = .ok checkpoint ↔
      ∃ next, segment.foldlM (buildOperation first last) whole = .ok next ∧
        (buildLedger next).Resolved ∧
        checkpoint = { rest with
          operations := next.values.map (·.checkpoint), sourceSequenceStart := first,
          sourceSequenceEnd := lastSequence (before ++ segment) } := by
  obtain ⟨horder, hrange⟩ := h.source haccepted hincreasing hnonzero hfirst
  have hsegment : ∀ envelope ∈ segment, envelope.sequence ≤ lastSequence (before ++ segment) :=
    fun envelope hmem =>
      (within_of_increasing hincreasing envelope (by simp [hmem])).2
  have hbound : ∀ envelope ∈ segment, envelope.sequence ≤ last :=
    fun envelope hmem => hlast envelope (by simp [hmem])
  simp only [buildAtCut, haccepted, horder, hrange, ok_iff, buildOperations_eq_ok, exists_eq_left',
    true_and]
  constructor
  · rintro ⟨operations, ⟨built, hbuilt, hresolved, rfl⟩, rfl⟩
    obtain ⟨next, hnext, hsame⟩ := foldlM_buildOperation_interchangeable
      h.carried.symm (foldlM_buildOperation_change_last hbound hbuilt)
    exact ⟨next, hnext, hsame.resolved hresolved, by rw [hsame.checkpoints_eq]⟩
  · rintro ⟨next, hnext, hresolved, rfl⟩
    obtain ⟨built, hbuilt, hsame⟩ := foldlM_buildOperation_interchangeable h.carried hnext
    exact ⟨_, ⟨built, foldlM_buildOperation_change_last hsegment hbuilt,
      hsame.resolved hresolved, rfl⟩, by rw [hsame.checkpoints_eq]⟩

theorem CutState.next {next : OperationBuildMap} {checkpoint : CanonicalCheckpoint}
    (h : CutState first last before previous whole) (hne : before ++ segment ≠ [])
    (hbuild : segment.foldlM (buildOperation first last) whole = .ok next)
    (hresolved : (buildLedger next).Resolved)
    (hoperations : checkpoint.operations = next.values.map (·.checkpoint))
    (hstart : checkpoint.sourceSequenceStart = first)
    (hend : checkpoint.sourceSequenceEnd = lastSequence (before ++ segment)) :
    CutState first last (before ++ segment) (some checkpoint) next where
  built := foldlM_append_eq_ok.mpr ⟨whole, h.built, hbuild⟩
  carried := by
    have hwell := foldlM_buildOperation_wellFormed h.wellFormed hbuild
    have hcarried : carriedOperations (some checkpoint) =
        next.mapValues fun operation =>
          .carried checkpoint.sourceSequenceEnd operation.checkpoint := by
      rw [← ofList_entries (next.mapValues _)]
      simp only [carriedOperations, hoperations, mapValues, values, map_map]
      congr 1
      refine map_congr_left ?_
      rintro ⟨operationId, operation⟩ hmem
      have hid := (hwell operationId operation (find?_eq_some_iff.mpr hmem)).1
      simp [hid]
    intro operationId
    rw [hcarried, find?_mapValues]
    cases hfind : next.find? operationId with
    | none => exact .none
    | some operation =>
      refine .some (.resolved rfl ?_)
      exact hresolved operationId operation.cell (by simp [buildLedger, hfind])
  range := .inr ⟨checkpoint, rfl, hne, hstart, hend⟩

def ResolvedCuts (before : List EventEnvelope)
    (segments : List (List EventEnvelope × CanonicalCheckpoint)) : Prop :=
  ∀ earlier later, segments = earlier ++ later → earlier ≠ [] → later ≠ [] → ∃ snapshot,
      reduceJournal (before ++ joinSegments earlier) = .ok (some snapshot) ∧
        snapshot.hasUnresolvedOperations = false

theorem ResolvedCuts.tail {rest : CanonicalCheckpoint}
    (h : ResolvedCuts before ((segment, rest) :: segments)) :
    ResolvedCuts (before ++ segment) segments := by
  rintro earlier later rfl hearlier hlater
  obtain ⟨snapshot, hreduce, hresolved⟩ := h ((segment, rest) :: earlier) later rfl (by simp) hlater
  refine ⟨snapshot, ?_, hresolved⟩
  rw [← hreduce]
  simp [joinSegments]

theorem firstSequence_append (hne : before ≠ []) :
    firstSequence (before ++ segment) = firstSequence before := by
  cases before with
  | nil => exact absurd rfl hne
  | cons head rest => rfl

/-- The chain of checkpoints ends in the build of all its events in one go. -/
theorem buildSegmentsFrom_iff {operations : List OperationCheckpoint} {final : TaskSnapshot}
    (before : List EventEnvelope) (previous : Option CanonicalCheckpoint)
    (whole : OperationBuildMap) (hne : segments ≠ [])
    (h : CutState first last before previous whole)
    (haccepted : reduceJournal (before ++ joinSegments segments) = .ok (some final))
    (hincreasing : (before ++ joinSegments segments).Pairwise fun a b => a.sequence < b.sequence)
    (hnonzero : ∀ envelope ∈ before ++ joinSegments segments, envelope.sequence ≠ 0)
    (hfirst : firstSequence (before ++ joinSegments segments) = first)
    (hlast : ∀ envelope ∈ before ++ joinSegments segments, envelope.sequence ≤ last)
    (hcuts : ResolvedCuts before segments) :
    (∃ checkpoint, buildSegmentsFrom before previous segments = .ok (some checkpoint) ∧
          checkpoint.operations = operations) ↔
      ∃ built, (joinSegments segments).foldlM (buildOperation first last) whole = .ok built ∧
        (buildLedger built).Resolved ∧
        operations = built.values.map (·.checkpoint) := by
  induction segments generalizing before previous whole with
  | nil => exact absurd rfl hne
  | cons head segments ih =>
    obtain ⟨segment, rest⟩ := head
    have hjoin : joinSegments ((segment, rest) :: segments) =
        segment ++ joinSegments segments := by simp [joinSegments]
    rw [hjoin, ← append_assoc] at haccepted hincreasing hnonzero
    rw [hjoin, ← append_assoc] at hfirst hlast
    have hleft : ∀ envelope ∈ before ++ segment,
        envelope ∈ before ++ segment ++ joinSegments segments :=
      fun envelope hmem => mem_append_left _ hmem
    have hbegin := (pairwise_append.mp hincreasing).1
    cases segments with
    | nil =>
      have hnil : joinSegments [] = [] := rfl
      rw [hnil, append_nil] at haccepted hincreasing hnonzero
      rw [hnil, append_nil] at hfirst hlast
      have hcut := fun checkpoint =>
        @buildAtCut_eq_ok before segment first last whole previous final
          rest checkpoint h haccepted hincreasing hnonzero hfirst hlast
      simp only [buildSegmentsFrom, hjoin, hnil, append_nil, ok_iff, hcut, Option.some.injEq]
      constructor
      · rintro ⟨_, ⟨_, ⟨built, hbuilt, hresolved, rfl⟩, rfl⟩, rfl⟩
        exact ⟨built, hbuilt, hresolved, rfl⟩
      · rintro ⟨built, hbuilt, hresolved, rfl⟩
        exact ⟨_, ⟨_, ⟨built, hbuilt, hresolved, rfl⟩, rfl⟩, rfl⟩
    | cons following segments =>
      obtain ⟨snapshot, hreduce, hresolved⟩ :=
        hcuts [(segment, rest)] (following :: segments) rfl (by simp)
          (by simp)
      have hsnapshot : reduceJournal (before ++ segment) = .ok (some snapshot) := by
        simpa [joinSegments] using hreduce
      have hnonempty := reduced_ne_nil hsnapshot
      rw [firstSequence_append hnonempty] at hfirst
      have hcut := fun checkpoint =>
        @buildAtCut_eq_ok before segment first last whole previous snapshot
          rest checkpoint h hsnapshot hbegin
          (fun envelope hmem => hnonzero envelope (hleft envelope hmem))
          hfirst
          (fun envelope hmem => hlast envelope (hleft envelope hmem))
      have hfollow := fun checkpoint next hstate =>
        ih (before ++ segment) (some checkpoint) next (by simp) hstate
          haccepted hincreasing hnonzero
          (by rw [firstSequence_append hnonempty, hfirst]) hlast hcuts.tail
      rw [hjoin]
      constructor
      · rintro ⟨last, hbuild, hoperations⟩
        rw [buildSegmentsFrom] at hbuild
        obtain ⟨checkpoint, hcheckpoint, hrest⟩ := bind_eq_ok.mp hbuild
        obtain ⟨next, hnext, hopen, rfl⟩ := (hcut checkpoint).mp hcheckpoint
        obtain ⟨built, hbuilt, hdone⟩ := (hfollow _ next
          (h.next hnonempty hnext hopen rfl rfl rfl)).mp ⟨last, hrest, hoperations⟩
        exact ⟨built, foldlM_append_eq_ok.mpr ⟨next, hnext, hbuilt⟩, hdone⟩
      · rintro ⟨built, hbuilt, hdone⟩
        obtain ⟨next, hnext, hlater⟩ := foldlM_append_eq_ok.mp hbuilt
        have hopen : (buildLedger next).Resolved := by
          rw [builder_agrees hsnapshot (foldlM_append_eq_ok.mpr ⟨whole, h.built, hnext⟩)]
          exact TaskSnapshot.ledger_resolved.mpr hresolved
        let checkpoint : CanonicalCheckpoint := { rest with
          operations := next.values.map (·.checkpoint), sourceSequenceStart := first,
          sourceSequenceEnd := lastSequence (before ++ segment) }
        have hcheckpoint := (hcut checkpoint).mpr ⟨next, hnext, hopen, rfl⟩
        have hstate : CutState first last (before ++ segment) (some checkpoint) next :=
          h.next hnonempty hnext hopen rfl rfl rfl
        obtain ⟨last, hrest, hoperations⟩ := (hfollow _ next hstate).mpr ⟨built, hlater, hdone⟩
        refine ⟨last, ?_, hoperations⟩
        rw [buildSegmentsFrom]
        exact bind_eq_ok.mpr ⟨_, hcheckpoint, hrest⟩

/-- Every way of cutting an accepted journal at resolved operations builds the
same operations as the build in one go, and succeeds exactly when it does. -/
theorem buildSegments_iff_one_go {events : List EventEnvelope} {snapshot : TaskSnapshot}
    (haccepted : reduceJournal events = .ok (some snapshot))
    (hincreasing : events.Pairwise fun a b => a.sequence < b.sequence)
    (hnonzero : ∀ envelope ∈ events, envelope.sequence ≠ 0)
    (segments : List (List EventEnvelope × CanonicalCheckpoint))
    (hjoin : joinSegments segments = events) (hcuts : ResolvedCuts [] segments)
    (rest : CanonicalCheckpoint) (operations : List OperationCheckpoint) :
    (∃ checkpoint, buildSegments segments = .ok (some checkpoint) ∧
        checkpoint.operations = operations) ↔
      ∃ checkpoint, buildSegments [(events, rest)] = .ok (some checkpoint) ∧
        checkpoint.operations = operations := by
  subst hjoin
  have hne : segments ≠ [] := by
    rintro rfl
    exact reduced_ne_nil haccepted rfl
  have hstart : CutState (firstSequence (joinSegments segments))
      (lastSequence (joinSegments segments)) [] none empty :=
    ⟨rfl, fun _ => .none, .inl ⟨rfl, rfl⟩⟩
  have hlast := fun envelope hmem =>
    (within_of_increasing hincreasing envelope hmem).2
  have hsingle : joinSegments [(joinSegments segments, rest)] =
      joinSegments segments := by simp [joinSegments]
  have honce : ResolvedCuts [] [(joinSegments segments, rest)] := by
    intro earlier later hsplit hearlier hlater
    have hlength := congrArg length hsplit
    have hpos := length_pos_of_ne_nil hearlier
    have hpos' := length_pos_of_ne_nil hlater
    simp only [length_singleton, length_append] at hlength
    omega
  rw [buildSegments, buildSegments, buildSegmentsFrom_iff [] none empty hne hstart haccepted
      hincreasing hnonzero rfl hlast hcuts,
    buildSegmentsFrom_iff [] none empty (by simp) hstart
      (by rw [hsingle]; exact haccepted) (by rw [hsingle]; exact hincreasing)
      (by rw [hsingle]; exact hnonzero) (by rw [hsingle]; rfl)
      (by rw [hsingle]; exact hlast) honce, hsingle]

/-! ## A journal in two segments -/

namespace Sample

def checkpoint : CanonicalCheckpoint :=
  { CanonicalCheckpoint.blank taskId (contract .pending []) digest with
    verification := [⟨"clause", []⟩] }

def twoSegments : List (List EventEnvelope × CanonicalCheckpoint) :=
  [(operationJournal [], checkpoint), (envelopes 12 [.epochFinished epochId digest], checkpoint)]

end Sample

theorem sample_segments_iff_one_go :
    (∃ snapshot, reduceJournal (joinSegments Sample.twoSegments) = .ok (some snapshot)) ∧
    ∀ operations, (∃ checkpoint, buildSegments Sample.twoSegments = .ok (some checkpoint) ∧
          checkpoint.operations = operations) ↔
      ∃ checkpoint, buildSegments [(joinSegments Sample.twoSegments, Sample.checkpoint)] =
            .ok (some checkpoint) ∧
          checkpoint.operations = operations := by
  have hincreasing : (joinSegments Sample.twoSegments).Pairwise
      fun a b => a.sequence < b.sequence := by decide
  have hnonzero : ∀ envelope ∈ joinSegments Sample.twoSegments, envelope.sequence ≠ 0 := by decide
  have hcuts : ResolvedCuts [] Sample.twoSegments := by
    intro earlier later hsplit hearlier hlater
    obtain ⟨first, rfl⟩ : ∃ first, earlier = [first] := by
      rw [← List.length_eq_one_iff]
      have hlength := congrArg List.length hsplit
      have hpos := List.length_pos_of_ne_nil hearlier
      have hpos' := List.length_pos_of_ne_nil hlater
      simp only [Sample.twoSegments, List.length_cons, List.length_nil,
        List.length_append] at hlength
      omega
    obtain rfl : (Sample.operationJournal [], Sample.checkpoint) = first :=
      (List.cons.inj hsplit).1
    exact ⟨_, rfl, rfl⟩
  exact ⟨⟨_, rfl⟩, buildSegments_iff_one_go rfl hincreasing hnonzero
    Sample.twoSegments rfl hcuts Sample.checkpoint⟩

end CarlAgent.Task
