import CarlAgent.Task.Build
import CarlAgent.Task.IncrementalBuild

/-!
# Chains of checkpoints

Successive builds, each over the result of the one before.  Generations count
from zero, the source range only grows at its end, and every record of a
checkpoint is in all that follow it.
-/

namespace CarlAgent.Task

open List Foundation Sample CanonicalCheckpoint

variable {previous : CanonicalCheckpoint} {chain : List CanonicalCheckpoint}
variable {events : List EventEnvelope} {works : List WorkEvidence}
  {work : WorkEvidence}

theorem validateEventPosition_after {snapshot : TaskSnapshot} {prior next : Option Nat}
    {envelope : EventEnvelope}
    (h : validateEventPosition snapshot (some previous) prior envelope = .ok next) :
    previous.sourceSequenceEnd < envelope.sequence := by
  simp only [validateEventPosition, ok_iff, Option.mem_def, Option.some.injEq, exists_eq_left',
    not_le] at h
  exact h.2.1

theorem validateEventOrder_after {snapshot : TaskSnapshot} {u : Unit}
    (h : validateEventOrder events snapshot (some previous) = .ok u) :
    ∀ envelope ∈ events, previous.sourceSequenceEnd < envelope.sequence := by
  simp only [validateEventOrder, bind_eq_ok] at h
  obtain ⟨last, hfold, -⟩ := h
  generalize none = prior at hfold
  induction events generalizing prior with
  | nil =>
    intro envelope henvelope
    cases henvelope
  | cons first rest ih =>
    obtain ⟨next, hturn, hrest⟩ := foldlM_cons_eq_ok.mp hfold
    intro envelope henvelope
    rcases mem_cons.mp henvelope with rfl | henvelope
    · exact validateEventPosition_after hturn
    · exact ih next hrest envelope henvelope

theorem sourceRange_extends {first last : Nat}
    (hafter : ∀ envelope ∈ events, previous.sourceSequenceEnd < envelope.sequence)
    (h : sourceRange (some previous) events = .ok (first, last)) :
    first = previous.sourceSequenceStart ∧ previous.sourceSequenceEnd ≤ last := by
  simp only [sourceRange, ok_iff, Prod.mk.injEq] at h
  obtain ⟨start, hstart, stop, hstop, -, rfl, rfl⟩ := h
  constructor
  · simpa using hstart.symm
  · cases hlast : events.getLast? with
    | none =>
      rw [hlast] at hstop
      simp only [Option.map_none, Option.none_or, Option.map_some, Option.some.injEq] at hstop
      exact hstop.le
    | some envelope =>
      rw [hlast] at hstop
      have hmem := hafter envelope (mem_of_getLast? hlast)
      have hsame : envelope.sequence = stop := by simpa using hstop
      omega

def CanonicalCheckpoint.InSource (checkpoint : CanonicalCheckpoint) (sequence : Nat) : Prop :=
  checkpoint.sourceSequenceStart ≤ sequence ∧ sequence ≤ checkpoint.sourceSequenceEnd

/-- Every evidence sequence that a checkpoint holds is in its source range. -/
structure CanonicalCheckpoint.EvidenceInSource (checkpoint : CanonicalCheckpoint) : Prop where
  work : ∀ work ∈ checkpoint.completedWork,
    ∀ sequence ∈ work.eventSequences, checkpoint.InSource sequence
  operations : ∀ operation ∈ checkpoint.operations,
    ∀ sequence ∈ operation.evidenceSequences, checkpoint.InSource sequence
  verification : ∀ clause ∈ checkpoint.verification,
    ∀ evidence ∈ clause.evidence, checkpoint.InSource evidence.eventSequence
  contract : ∀ clause ∈ checkpoint.contract.clauses,
    ∀ evidence ∈ clause.evidence, checkpoint.InSource evidence.eventSequence

theorem evidenceInSource_of_valid {checkpoint : CanonicalCheckpoint}
    (h : checkpoint.validateStructure = .ok ()) : checkpoint.EvidenceInSource := by
  have hoperations := (operations_of_valid h).2
  simp only [validateStructure, ok_iff, forM_eq_ok, ne_eq, not_not] at h
  obtain ⟨-, _, -, hwork, -, -, _, -, _, -, -, -, -, _, -, _, -, hclauses, hverification, -⟩ := h
  have hverified : ∀ clause ∈ checkpoint.verification, ∀ evidence ∈ clause.evidence,
        checkpoint.InSource evidence.eventSequence := by
    intro clause hclause evidence hevidence
    have hvalid := hclauses clause hclause
    simp only [validateClause, bind_eq_ok, forM_eq_ok,
      validateEvidenceRange_eq_ok, mem_singleton, forall_eq] at hvalid
    obtain ⟨_, -, hrange⟩ := hvalid
    exact hrange evidence hevidence
  refine ⟨?_, fun operation hmem => (hoperations operation hmem).range, hverified, ?_⟩
  · intro work hmem
    have hvalid := hwork work hmem
    simp only [validateWork, bind_eq_ok, validateEvidenceRange_eq_ok] at hvalid
    obtain ⟨_, -, hrange⟩ := hvalid
    exact hrange
  · intro clause hclause evidence hevidence
    refine hverified
      { clauseId := clause.id, evidence := normalizeEvidence clause.evidence } ?_ evidence ?_
    · rw [hverification, verificationFromContract, mem_sortByKey]
      exact mem_map.mpr ⟨clause, hclause, rfl⟩
    · exact mem_sortDedup.mpr hevidence

structure CanonicalCheckpoint.Extends (earlier later : CanonicalCheckpoint) : Prop where
  start : later.sourceSequenceStart = earlier.sourceSequenceStart
  last : earlier.sourceSequenceEnd ≤ later.sourceSequenceEnd
  work : ∀ work ∈ earlier.completedWork, work ∈ later.completedWork
  decisions : ∀ decision ∈ earlier.decisions, decision ∈ later.decisions
  identifiers : ∀ identifier ∈ earlier.exactIdentifiers, identifier ∈ later.exactIdentifiers
  operations : ∀ operation ∈ earlier.operations, operation ∈ later.operations

theorem CanonicalCheckpoint.Extends.refl (checkpoint : CanonicalCheckpoint) :
    checkpoint.Extends checkpoint :=
  ⟨rfl, le_rfl, fun _ h => h, fun _ h => h, fun _ h => h, fun _ h => h⟩

theorem CanonicalCheckpoint.Extends.trans
    {first second third : CanonicalCheckpoint} (h₁ : first.Extends second)
    (h₂ : second.Extends third) : first.Extends third where
  start := h₂.start.trans h₁.start
  last := h₁.last.trans h₂.last
  work := fun work hwork => h₂.work work (h₁.work work hwork)
  decisions := fun decision hdecision =>
    h₂.decisions decision (h₁.decisions decision hdecision)
  identifiers := fun identifier hidentifier =>
    h₂.identifiers identifier (h₁.identifiers identifier hidentifier)
  operations := fun operation hoperation =>
    h₂.operations operation (h₁.operations operation hoperation)

/-- The form that the builder gives to every checkpoint. -/
structure CanonicalCheckpoint.WellBuilt (checkpoint : CanonicalCheckpoint) : Prop where
  work : ∀ work ∈ checkpoint.completedWork, work.normalize = work
  decisionIds : (checkpoint.decisions.map (·.id)).Nodup
  operationIds : (checkpoint.operations.map (·.operationId)).Nodup
  resolved : ∀ operation ∈ checkpoint.operations, operation.status.isResolved = true
  evidence : checkpoint.EvidenceInSource

theorem mem_normalizeWork (hmem : work ∈ works)
    (hnormal : work.normalize = work) : work ∈ normalizeWork works := by
  rw [normalizeWork, mem_sortDedup]
  exact mem_map.mpr ⟨work, hmem, hnormal⟩

theorem normalize_of_mem_normalizeWork (hmem : work ∈ normalizeWork works) :
    work.normalize = work := by
  rw [normalizeWork, mem_sortDedup] at hmem
  obtain ⟨source, -, rfl⟩ := mem_map.mp hmem
  exact source.normalize_idem

variable {input : CheckpointBuildInput}

theorem BuiltFrom.wellBuilt {checkpoint : CanonicalCheckpoint} (h : BuiltFrom input checkpoint)
    (hprevious : ∀ previous ∈ input.previousCheckpoint, previous.WellBuilt) :
    checkpoint.WellBuilt := by
  have hdecisions : ((carriedFrom (·.decisions) input.previousCheckpoint).map (·.id)).Nodup := by
    cases hcase : input.previousCheckpoint with
    | none => exact .nil
    | some previous => exact (hprevious previous hcase).decisionIds
  have hoperations : ((carriedFrom (·.operations)
      input.previousCheckpoint).map (·.operationId)).Nodup := by
    cases hcase : input.previousCheckpoint with
    | none => exact .nil
    | some previous => exact (hprevious previous hcase).operationIds
  have hresolved : ∀ operation ∈ carriedFrom (·.operations)
      input.previousCheckpoint, operation.status.isResolved = true := by
    cases hcase : input.previousCheckpoint with
    | none =>
      intro operation hoperation
      cases hoperation
    | some previous => exact (hprevious previous hcase).resolved
  obtain ⟨hids, hall, -⟩ := buildOperations_spec hoperations hresolved h.operations
  refine ⟨?_, (mergeDecisions_spec hdecisions h.decisions).1, hids, hall,
    evidenceInSource_of_valid h.valid⟩
  intro work hwork
  rw [h.completedWork] at hwork
  exact normalize_of_mem_normalizeWork hwork

theorem BuiltFrom.extends {checkpoint : CanonicalCheckpoint} (h : BuiltFrom input checkpoint)
    (hinput : input.previousCheckpoint = some previous)
    (hprevious : previous.WellBuilt) : previous.Extends checkpoint := by
  obtain ⟨horder, -, hrange, hwork, hdecisions, hidentifiers, hoperations, -⟩ := h
  rw [hinput] at horder hrange hwork hdecisions hidentifiers hoperations
  obtain ⟨hstart, hlast⟩ := sourceRange_extends (validateEventOrder_after horder) hrange
  have hdecisionIds : ((carriedFrom (·.decisions)
      (some previous)).map (·.id)).Nodup := hprevious.decisionIds
  have hoperationIds : ((carriedFrom (·.operations)
      (some previous)).map (·.operationId)).Nodup := hprevious.operationIds
  refine ⟨hstart, hlast, ?_, (mergeDecisions_spec hdecisionIds hdecisions).2,
    ?_, (buildOperations_spec hoperationIds hprevious.resolved hoperations).2.2⟩
  · intro work hmem
    rw [hwork]
    exact mem_normalizeWork (mem_append_left _ hmem) (hprevious.work work hmem)
  · intro identifier hmem
    rw [hidentifiers, mergeIdentifiers, mem_sortDedup]
    exact mem_append_left _ hmem

theorem BuiltFrom.generation_eq {checkpoint : CanonicalCheckpoint}
    (h : BuiltFrom input checkpoint) :
    checkpoint.compactionGeneration =
      (input.previousCheckpoint.map (·.compactionGeneration + 1)).getD 0 := by
  have hgeneration := h.generation
  cases hcase : input.previousCheckpoint with
  | none =>
    rw [hcase] at hgeneration
    simpa [validateGeneration] using hgeneration
  | some previous =>
    rw [hcase] at hgeneration
    simp only [validateGeneration, rejectIf_eq_ok, not_not] at hgeneration
    exact hgeneration.2.symm

/-! ## Whole chains -/

inductive BuildChain (sha256 : Sha256) :
    List CanonicalCheckpoint → Prop
  | first {input : CheckpointBuildInput} {checkpoint : CanonicalCheckpoint}
    (hinput : input.previousCheckpoint = none)
    (hbuild : build sha256 input = .ok checkpoint) :
    BuildChain sha256 [checkpoint]
  | next {chain : List CanonicalCheckpoint} {previous : CanonicalCheckpoint}
    {input : CheckpointBuildInput} {checkpoint : CanonicalCheckpoint}
    (hchain : BuildChain sha256 (chain ++ [previous]))
    (hinput : input.previousCheckpoint = some previous)
    (hbuild : build sha256 input = .ok checkpoint) :
    BuildChain sha256 (chain ++ [previous] ++ [checkpoint])

structure ChainKept (chain : List CanonicalCheckpoint) : Prop where
  generations : chain.map (·.compactionGeneration) = List.range chain.length
  built : ∀ checkpoint ∈ chain, checkpoint.WellBuilt
  extend : chain.Pairwise Extends

theorem ChainKept.next {checkpoint : CanonicalCheckpoint} (h : ChainKept (chain ++ [previous]))
    (hinput : input.previousCheckpoint = some previous) (hbuilt : BuiltFrom input checkpoint) :
    ChainKept (chain ++ [previous] ++ [checkpoint]) := by
  have hprevious : previous.WellBuilt := h.built previous (by simp)
  have hextends := hbuilt.extends hinput hprevious
  have hlength : previous.compactionGeneration = chain.length := by
    have hlast := congrArg getLast? h.generations
    simpa [range_succ] using hlast
  refine ⟨?_, ?_, ?_⟩
  · have hnext := hbuilt.generation_eq
    rw [hinput] at hnext
    have hlast : checkpoint.compactionGeneration = (chain ++ [previous]).length := by
      simp [hnext, hlength]
    have hcount : (chain ++ [previous] ++ [checkpoint]).length =
        (chain ++ [previous]).length + 1 := by simp
    rw [map_append, h.generations, map_singleton, hlast, hcount, range_succ]
  · intro found hfound
    rcases mem_append.mp hfound with hfound | hfound
    · exact h.built found hfound
    · rw [mem_singleton.mp hfound]
      apply hbuilt.wellBuilt
      intro carried hcarried
      rw [hinput] at hcarried
      cases hcarried
      exact hprevious
  · refine pairwise_append.mpr ⟨h.extend, pairwise_singleton _ _, ?_⟩
    intro earlier hearlier later hlater
    rw [mem_singleton.mp hlater]
    rcases mem_append.mp hearlier with hearlier | hearlier
    · have hold := (pairwise_append.mp h.extend).2.2 earlier hearlier previous (by simp)
      exact hold.trans hextends
    · rw [mem_singleton.mp hearlier]
      exact hextends

theorem BuildChain.kept {sha256 : Sha256} (h : BuildChain sha256 chain) : ChainKept chain := by
  induction h with
  | @first input checkpoint hinput hbuild =>
    have hbuilt := builtFrom_of_build hbuild
    have hgeneration := hbuilt.generation_eq
    rw [hinput] at hgeneration
    refine ⟨by simpa using hgeneration, ?_, pairwise_singleton _ _⟩
    intro found hfound
    rw [mem_singleton.mp hfound]
    apply hbuilt.wellBuilt
    intro previous hprevious
    rw [hinput] at hprevious
    cases hprevious
  | next hchain hinput hbuild ih =>
    exact ih.next hinput (builtFrom_of_build hbuild)

theorem ChainKept.extends_of_le (h : ChainKept chain) {i j : Nat}
    {earlier later : CanonicalCheckpoint} (hij : i ≤ j) (hearlier : chain[i]? = some earlier)
    (hlater : chain[j]? = some later) : earlier.Extends later := by
  obtain ⟨hi, rfl⟩ := List.getElem?_eq_some_iff.mp hearlier
  obtain ⟨hj, rfl⟩ := List.getElem?_eq_some_iff.mp hlater
  rcases Nat.eq_or_lt_of_le hij with rfl | hlt
  · exact .refl _
  · exact List.pairwise_iff_getElem.mp h.extend i j hi hj hlt

/-- Along a chain of checkpoints nothing that was recorded is lost or changed. -/
theorem checkpoint_chain_keeps_history {sha256 : Sha256}
    {chain : List CanonicalCheckpoint} (hchain : BuildChain sha256 chain) :
    chain.map (·.compactionGeneration) = List.range chain.length ∧
    (∀ (i j : Nat) earlier later, i ≤ j → chain[i]? = some earlier →
      chain[j]? = some later → earlier.Extends later ∧
        (∀ decision ∈ earlier.decisions, ∀ found ∈ later.decisions,
          found.id = decision.id → found = decision) ∧
        (∀ operation ∈ earlier.operations, ∀ found ∈ later.operations,
          found.operationId = operation.operationId → found = operation)) ∧
    (∀ checkpoint ∈ chain, checkpoint.EvidenceInSource) := by
  have hkept := hchain.kept
  refine ⟨hkept.generations, ?_, fun checkpoint hmem =>
    (hkept.built checkpoint hmem).evidence⟩
  intro i j earlier later hij hearlier hlater
  have hextends := hkept.extends_of_le hij hearlier hlater
  have hbuilt := hkept.built later (mem_of_getElem? hlater)
  refine ⟨hextends, ?_, ?_⟩
  · intro decision hdecision found hfound hid
    exact inj_on_of_nodup_map hbuilt.decisionIds hfound (hextends.decisions decision hdecision) hid
  · intro operation hoperation found hfound hid
    exact inj_on_of_nodup_map hbuilt.operationIds hfound
      (hextends.operations operation hoperation) hid

namespace Sample

def snapshotAfter (events : List EventEnvelope) : TaskSnapshot :=
  match reduceJournal events with
  | .ok (some snapshot) => snapshot
  | _ => .created taskId sessionId (contract .pending []) .default

def buildInput (generation : Nat) (work : WorkEvidence) (before events : List EventEnvelope)
    (previous : Option CanonicalCheckpoint) : CheckpointBuildInput where
  checkpointId := ⟨5⟩
  snapshot := snapshotAfter (before ++ events)
  events := events
  completedWork := [work]
  decisions := [⟨"d", "decide", "why"⟩]
  exactIdentifiers := []
  requiredIdentifiers := []
  repository := ⟨digest, none, none, none, OrderedMap.empty⟩
  runningProcesses := []
  pendingApprovalDigests := []
  pendingSteeringDigests := []
  uncertainDeliveryDigests := []
  nextObjective := "next"
  blockers := []
  provider := ⟨"codex", "m1", "low", none, none, none⟩
  compactionGeneration := generation
  previousCheckpoint := previous
  artifactContents := OrderedMap.empty
  modelNarrative := none

def firstBuild : CheckpointBuildInput :=
  buildInput 0 ⟨"first", [10, 6], []⟩ [] (operationJournal []) none

def firstBuilt : CanonicalCheckpoint :=
  { checkpoint with
    completedWork := [⟨"first", [6, 10], []⟩], decisions := [⟨"d", "decide", "why"⟩],
    operations := [⟨operationId, .succeeded, .observation, digest, [10]⟩], sourceSequenceStart := 5,
    sourceSequenceEnd := 11 }

def chainSha (_ : List UInt8) : Sha256Digest :=
  ⟨0x4a892c024100f544f757517b7f6a5369571ebb48742b5290a8fc4fa10d704448⟩

def secondBuild : CheckpointBuildInput :=
  buildInput 1 ⟨"second", [12], []⟩ (operationJournal [])
    (envelopes 12 [.epochFinished epochId digest]) (some firstBuilt)

def secondBuilt : CanonicalCheckpoint :=
  { firstBuilt with
    completedWork := [⟨"first", [6, 10], []⟩, ⟨"second", [12], []⟩]
    compactionGeneration := 1
    sourceSequenceEnd := 12
    previousDigest := some "4a892c024100f544f757517b7f6a5369571ebb48742b5290a8fc4fa10d704448" }

end Sample

theorem sample_chain_keeps_history : BuildChain chainSha [firstBuilt, secondBuilt] ∧
      firstBuilt.Extends secondBuilt ∧
      secondBuilt.EvidenceInSource := by
  have hfirst : build chainSha firstBuild =
      .ok firstBuilt := by decide +kernel
  have hsecond : build chainSha
      secondBuild = .ok secondBuilt := by decide +kernel
  have hchain : BuildChain chainSha ([] ++ [firstBuilt] ++ [secondBuilt]) :=
    .next (.first rfl hfirst) rfl hsecond
  obtain ⟨-, hextends, hevidence⟩ := checkpoint_chain_keeps_history hchain
  exact ⟨hchain, (hextends 0 1 _ _ (by decide) rfl rfl).1, hevidence _ (by simp)⟩

end CarlAgent.Task
