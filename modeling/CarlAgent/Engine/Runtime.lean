import CarlAgent.Engine.Port
import CarlAgent.Foundation.RelativePath
import CarlAgent.Storage.Store
import CarlAgent.Task.Metrics
import CarlAgent.Task.Progress

/-!
# The runtime of a task

What the engine keeps in memory about the task it works on, the texts and
budgets it derives from that, and the fold over the journal that rebuilds it.
-/

namespace CarlAgent.Engine

open Foundation RelativePath CarlAgent.Task Storage List

structure ContextInput where
  runtimeInstructions : String
  ownerInstructions : String
  projectInstructions : String
  contract : CompletionContract
  checkpoint : CanonicalCheckpoint
  epochObjective : String

/-- The engine's surroundings: the hash, the JSON decoders and the assembly of
context packages, and the task that it works on. -/
class Host where
  taskId : TaskId
  capabilities : AgentCapabilities
  sha256 : Sha256
  decodeReport : List Char → Option EpochReport
  decodeContract : List Char → Option CompletionContract
  assemble : Nat → ContextInput → Except ContextError ContextPackage

structure PendingTaskConfiguration where
  controlId : String
  model : ModelId
  effort : ReasoningEffort
  permissionMode : PermissionMode
  deriving DecidableEq

structure PendingRecovery where
  epochId : EpochId
  strategy : RecoveryStrategy
  strategyFingerprint : String
  deriving DecidableEq, Repr

structure RuntimeTask where
  workspace : PathBuf
  request : String
  model : ModelId
  effort : ReasoningEffort
  permissionMode : PermissionMode
  effectivePermissionMode : PermissionMode
  contextId : AgentContextId
  nextObjective : String
  previousCheckpoint : Option CanonicalCheckpoint
  progress : List ProgressAssessment
  recoveryAttempts : List RecoveryAttempt
  pendingRecovery : Option PendingRecovery
  freshContextDiagnosis : Bool
  providerReplacementNeeded : Bool
  runningProcesses : List AgentProcess
  providerReady : Bool
  steering : List String
  steeringSequence : Nat
  operationEvidence : List OperationEvidence
  fileHashes : OrderedMap String String
  observedTotalTokens : Option Nat
  observedContextWindow : Option Nat
  estimatedTokensSinceUsage : Nat
  completedTools : Nat
  startedTools : Nat
  providerRequests : Nat
  pendingConfiguration : Option PendingTaskConfiguration
  quiesceAfterCheckpoint : Bool
  safeBoundaryRequested : Bool
  explicitCompactionRequested : Bool

def maxRequestBytes : Nat := 16 * 1024
def maxContractOutputBytes : Nat := 64 * 1024
def defaultContextWindow : Nat := 128000
def contextTriggerPercent : Nat := 80
def contextTargetPercent : Nat := 60

def checkedAdd (a b : Nat) : Option Nat :=
  if a + b ≤ maxU64 then some (a + b) else none

def saturatingAdd (a b : Nat) : Nat :=
  if a + b ≤ maxU64 then a + b else max a maxU64

/-- `Utc::now` minus the creation, in nanoseconds, against a budget. -/
def wallTimeExhausted (elapsed : Int) (budget : TaskBudget) : Bool :=
  budget.maxWallTimeSeconds.any fun maximum =>
    decide (elapsed.tdiv 1000000000 ≥ min maximum maxI64)

def providerDispatchBudgetReason (elapsed : Int) (record : TaskRecord)
    (runtime : RuntimeTask) : Option String :=
  let budget := record.snapshot.budget
  if wallTimeExhausted elapsed budget then
    some "maximum task wall time exhausted"
  else if budget.maxProviderRequests.any
      fun maximum => decide (runtime.providerRequests ≥ maximum) then
    some "maximum provider requests exhausted"
  else none

structure ContextEngine where
  contextWindow : Nat
  triggerTokens : Nat
  targetTokens : Nat
  deriving DecidableEq, Repr

def ContextEngine.new (contextWindow triggerPercent targetPercent : Nat) :
    Except ContextError ContextEngine := do
  rejectIf (contextWindow = 0 ∨ targetPercent = 0 ∨ triggerPercent > 100 ∨
    targetPercent ≥ triggerPercent) .invalidSource
  rejectIf (contextWindow * triggerPercent + 99 > maxU64) .arithmeticOverflow
  rejectIf (contextWindow * targetPercent > maxU64) .arithmeticOverflow
  .ok
    { contextWindow, triggerTokens := (contextWindow * triggerPercent + 99) / 100,
      targetTokens := contextWindow * targetPercent / 100 }

def contextEngine (runtime : RuntimeTask) : Except TaskEngineErrorCode ContextEngine :=
  (ContextEngine.new (runtime.observedContextWindow.getD defaultContextWindow)
    contextTriggerPercent contextTargetPercent).mapError fun _ => .context

/-! ## Requests, contracts and objectives -/

def invalidRequest (request : String) : Bool :=
  Text.isBlank request || Nat.blt maxRequestBytes request.utf8ByteSize ||
    request.toList.any (· == '\x00')

def validateSteering (text : String) : Except TaskEngineErrorCode Unit :=
  rejectIf (invalidRequest text) .invalidTask

def contractOpen : String := "<carl-completion-contract>"
def contractClose : String := "</carl-completion-contract>"
def contractLike : String := "carl-completion-contract"

def parseContract [Host] (output : List Char) : Except TaskEngineErrorCode CompletionContract := do
  rejectIf (Text.byteLen output > maxContractOutputBytes) .verification
  let block ← requireSome (findBlock contractOpen contractClose output) .verification
  rejectIf (Text.containsSub contractLike.toList block.before ∨
    Text.containsSub contractLike.toList block.after ∨
    Text.trim block.after ≠ []) .verification
  let contract ← requireSome (Host.decodeContract block.body) .verification
  rejectIf (contract.clauses = []) .verification
  let contract :=
    { contract with
      version := 1
      clauses := contract.clauses.map fun clause =>
        { clause with status := .pending, evidence := [] } }
  contract.validate.mapError fun _ => .verification
  .ok contract

/-- The clauses of the block, as the planner has written them. -/
def plannedClauses [Host] (output : List Char) : List CompletionClause :=
  match (findBlock contractOpen contractClose output).bind fun block =>
    Host.decodeContract block.body with
  | some contract => contract.clauses
  | none => []

theorem parseContract_clauses [Host] {output : List Char} {contract : CompletionContract}
    (h : parseContract output = .ok contract) :
    contract.clauses = (plannedClauses output).map fun clause =>
      { clause with status := .pending, evidence := [] } := by
  simp only [parseContract, ok_iff] at h
  obtain ⟨-, block, hblock, -, decoded, hdecoded, -, _, -, rfl⟩ := h
  simp only [plannedClauses, hblock, Option.bind_some, hdecoded]

/-- An accepted contract is open exactly if the planner has written a required clause. -/
theorem parseContract_unsatisfied_iff [Host] {output : List Char} {contract : CompletionContract}
    (h : parseContract output = .ok contract) :
    contract.requiredClausesSatisfied = false ↔
      ∃ clause ∈ plannedClauses output, clause.required = true := by
  rw [CompletionContract.requiredClausesSatisfied, parseContract_clauses h]
  simp [all_eq_false]

def optionalContract (required : Bool) : CompletionContract :=
  ⟨1, "Tidy the notes", [], [⟨"tidy", "The notes are tidy", required, .pending, []⟩]⟩

/-- A decoder that reads the text of one contract. -/
@[reducible] def planner (contract : CompletionContract) : Host where
  taskId := ⟨0⟩
  capabilities := ⟨true, false⟩
  sha256 _ := ⟨0⟩
  decodeReport _ := none
  decodeContract text := if text = contract.toJson.render then some contract else none
  assemble _ _ := .error .invalidSource

def plan (contract : CompletionContract) : List Char :=
  contractOpen.toList ++ contract.toJson.render ++ contractClose.toList

theorem parseContract_unsatisfied_iff_required :
    @parseContract (planner (optionalContract true)) (plan (optionalContract true)) =
        .ok (optionalContract true) ∧
      ((optionalContract true).requiredClausesSatisfied = false ↔
        ∃ clause ∈ @plannedClauses (planner (optionalContract true)) (plan (optionalContract true)),
          clause.required = true) :=
  have h : @parseContract (planner (optionalContract true)) (plan (optionalContract true)) =
      .ok (optionalContract true) := by decide +kernel
  ⟨h, @parseContract_unsatisfied_iff (planner (optionalContract true)) _ _ h⟩

theorem optional_contract_satisfied :
    @parseContract (planner (optionalContract false)) (plan (optionalContract false)) =
        .ok (optionalContract false) ∧
      (optionalContract false).requiredClausesSatisfied = true := by
  decide +kernel

def initialObjective (goal : String) : String :=
  "Implement and explicitly verify: " ++ goal

/-! ## Processes and evidence -/

def namedPaths : Json → List String
  | .arr changes => changes.filterMap changedPath
  | _ => []

def retainNormalizedEvidence [Host] (runtime : RuntimeTask) (operationId : OperationId)
    (item : AgentItem) (status : OperationStatus) : RuntimeTask :=
  match item with
  | .command _ _ _ _ exitCode _ _ =>
    { runtime with
      operationEvidence := runtime.operationEvidence ++
        [.command operationId (decide (status = .succeeded)) exitCode] }
  | .fileChange itemId _ changes =>
    let artifactDigest := jsonDigest Host.sha256 changes
    let paths := namedPaths changes
    { runtime with
      fileHashes :=
        if paths = [] then
          runtime.fileHashes.insert ("provider-item:" ++ itemId) artifactDigest
        else paths.foldl (fun hashes path => hashes.insert path artifactDigest) runtime.fileHashes
      operationEvidence := runtime.operationEvidence ++
        [.fileChange operationId (decide (status = .succeeded)) [artifactDigest]] }
  | .contextCompaction _ | .other _ _ => runtime

/-- `Path::strip_prefix` of a UTF-8 path: a workspace that is not UTF-8 has a
component that no such path has. -/
def stripWorkspace : PathBuf → String → Option String
  | .utf8 base, path => stripPrefix base path
  | .nonUtf8, _ => none

def normalizeFileChangeItemPaths (item : AgentItem) (workspace : PathBuf) :
    Except TaskEngineErrorCode AgentItem :=
  match item with
  | .fileChange itemId status _ => do
    let changes ← changesOf item
    let normalized ← changes.mapM fun change => do
      let path ← requireSome (changedPath change) .verification
      let relative ← if path.toList.head? = some '/' then
          requireSome (stripWorkspace workspace path) .verification
        else .ok path
      rejectIf (¬ isRelativePath relative) .verification
      .ok (withChangedPath relative change)
    .ok (.fileChange itemId status (.arr normalized))
  | item => .ok item

def trustedPaths (item : AgentItem) (workspace : PathBuf) :
    Except TaskEngineErrorCode (AgentItem × List String) := do
  let item ← normalizeFileChangeItemPaths item workspace
  let paths ← validatedFileChangePaths item
  .ok (item, paths)

/-! ## Trusted paths -/

section Paths

variable {path relative : String} {change : Json} {changes : List Json} {item : AgentItem}

theorem validate_of_isRelativePath (h : isRelativePath path = true)
    (digest : Option Sha256Digest) : FilePostconditionEntry.validate ⟨path, digest⟩ = .ok () := by
  simp only [isRelativePath, Bool.and_eq_true, Bool.not_eq_true', decide_eq_true_eq] at h
  obtain ⟨⟨⟨⟨hempty, hsize⟩, hchars⟩, hcontrol⟩, hnames⟩ := h
  simp only [FilePostconditionEntry.validate, rejectIf_eq_ok, hempty, hchars, hcontrol, hnames,
    Bool.false_eq_true, or_false, false_or]
  exact not_lt.mpr hsize

theorem proper_of_isRelativePath (h : isRelativePath path = true) : Proper path := by
  simp only [isRelativePath, Bool.and_eq_true, Bool.not_eq_true', any_eq_false] at h
  intro component hcomponent
  have hname := h.2 component hcomponent
  simpa [and_assoc] using hname

theorem withChangedPath_key (relative : String) (field : String × Json) :
    ((if field.1 == "path" then (field.1, Json.str relative) else field).1 == "path") =
      (field.1 == "path") := by
  split <;> rfl

theorem changedPath_withChangedPath (h : changedPath change = some path) :
    changedPath (withChangedPath relative change) = some relative := by
  cases change <;> simp only [changedPath, reduceCtorEq] at h
  split at h
  · rename_i hfound
    have hname := find?_some hfound
    simp only [withChangedPath, changedPath, find?_map, Function.comp_def,
      withChangedPath_key, hfound]
    simp_all
  · cases h

theorem withChangedPath_idem (relative : String) (change : Json) :
    withChangedPath relative (withChangedPath relative change) =
      withChangedPath relative change := by
  cases change <;> simp only [withChangedPath, map_map, Function.comp_def,
    withChangedPath_key, Json.obj.injEq]
  apply map_congr_left
  intro field _
  split <;> rfl

theorem steps_of_isRelativePath (h : isRelativePath path = true) :
    steps path = components path := by
  refine filter_eq_self.mpr fun component hcomponent => ?_
  obtain ⟨hempty, hdot, -⟩ := proper_of_isRelativePath h component hcomponent
  simp [isStep, hempty, hdot]

def workspaceSteps : PathBuf → List (List Char)
  | .utf8 text => steps text
  | .nonUtf8 => []

theorem steps_of_stripWorkspace {workspace : PathBuf}
    (h : stripWorkspace workspace path = some relative) :
    steps path = workspaceSteps workspace ++ steps relative := by
  cases workspace with
  | utf8 base => exact steps_of_stripPrefix h
  | nonUtf8 => cases h

/-- The files that an item names when the workspace is at `base`. -/
def filesOf (base : List (List Char)) : AgentItem → List (List (List Char))
  | .fileChange _ _ changes => (namedPaths changes).map fun path =>
    if path.toList.head? = some '/' then steps path else base ++ steps path
  | _ => []

theorem changesOf_eq_ok (h : changesOf item = .ok changes) :
    (∃ itemId status, item = .fileChange itemId status (.arr changes)) ∧
      changes ≠ [] ∧ changes.length ≤ maxChangedPaths := by
  unfold changesOf at h
  split at h
  · simp only [ok_iff, not_or, not_lt, gt_iff_lt] at h
    obtain ⟨hbounds, rfl⟩ := h
    exact ⟨⟨_, _, rfl⟩, hbounds⟩
  · cases h

variable {workspace : PathBuf}

/-- How the normalisation spells the path of a change. -/
def Spelled (workspace : PathBuf) (path relative : String) : Prop :=
  (if path.toList.head? = some '/' then stripWorkspace workspace path = some relative
    else path = relative) ∧ isRelativePath relative = true

theorem spelled_self (h : isRelativePath relative = true) : Spelled workspace relative relative := by
  refine ⟨?_, h⟩
  rw [if_neg (proper_of_isRelativePath h).head_ne]

theorem normalizeChange_eq_ok {next : Json} :
    (do
      let path ← requireSome (changedPath change) .verification
      let relative ← if path.toList.head? = some '/' then
          requireSome (stripWorkspace workspace path) .verification
        else .ok path
      rejectIf (¬ isRelativePath relative) .verification
      .ok (withChangedPath relative change) : Except TaskEngineErrorCode Json) = .ok next ↔
    ∃ path relative, changedPath change = some path ∧ Spelled workspace path relative ∧
      next = withChangedPath relative change := by
  rw [bind_eq_ok]
  refine exists_congr fun path => ?_
  rw [requireSome_eq_ok]
  by_cases habsolute : path.toList.head? = some '/'
  · simp [habsolute, Spelled, ok_iff, and_assoc, @eq_comm _ next]
  · simp [habsolute, Spelled, ok_iff, @eq_comm _ next]

/-- What the two path functions have settled when both succeed. -/
structure Trusted (workspace : PathBuf) (item normalized : AgentItem)
    (paths : List String) : Prop where
  strict : paths.Pairwise (· < ·)
  bounds : paths ≠ [] ∧ paths.length ≤ maxChangedPaths
  again : normalizeFileChangeItemPaths normalized workspace = .ok normalized
  relative : ∀ path ∈ paths, isRelativePath path = true
  files : ∀ file, file ∈ filesOf (workspaceSteps workspace) item ↔
    ∃ path ∈ paths, file = workspaceSteps workspace ++ steps path

theorem trustedPaths_trusted {normalized : AgentItem} {paths : List String}
    (h : trustedPaths item workspace = .ok (normalized, paths)) :
    Trusted workspace item normalized paths := by
  have hlocated : ∀ {path relative}, Spelled workspace path relative →
      (if path.toList.head? = some '/' then steps path
        else workspaceSteps workspace ++ steps path) =
        workspaceSteps workspace ++ steps relative := by
    rintro path relative ⟨hspelled, -⟩
    split at hspelled
    · rw [if_pos ‹_›, steps_of_stripWorkspace hspelled]
    · rw [if_neg ‹_›, hspelled]
  obtain ⟨_, hnormal, h⟩ := bind_eq_ok.mp h
  obtain ⟨_, hpaths, h⟩ := bind_eq_ok.mp h
  cases h
  simp only [validatedFileChangePaths, ok_iff, not_not] at hpaths
  obtain ⟨after, hread, relatives, hrelatives, hlength, rfl⟩ := hpaths
  obtain ⟨⟨itemId, status, rfl⟩, hne, hbound⟩ := changesOf_eq_ok hread
  cases item with
  | fileChange itemId' status' json =>
    obtain ⟨changes, hchanges, hrun⟩ := bind_eq_ok.mp hnormal
    obtain ⟨⟨_, _, hitem⟩, -⟩ := changesOf_eq_ok hchanges
    cases hitem
    obtain ⟨_, hafter, hitem⟩ := bind_eq_ok.mp hrun
    cases hitem
    obtain ⟨hrewritten, hrewrites⟩ := mem_of_mapM_eq_ok hafter
    obtain ⟨hnamed, hnames⟩ := mem_of_mapM_eq_ok hrelatives
    simp only [normalizeChange_eq_ok] at hrewritten hrewrites
    simp only [ok_iff, not_not] at hnamed hnames
    refine ⟨sortDedup_id_strict _, ⟨?_, hlength ▸ hbound⟩, ?_, ?_, fun file => ?_⟩
    · rw [← length_pos_iff, hlength]
      exact length_pos_iff.mpr hne
    · refine bind_eq_ok.mpr ⟨after, hread, bind_eq_ok.mpr ⟨after, mapM_eq_ok_self ?_, rfl⟩⟩
      intro next hnext
      obtain ⟨change, -, path, relative, hpath, hspelled, rfl⟩ := hrewrites next hnext
      exact normalizeChange_eq_ok.mpr ⟨relative, relative, changedPath_withChangedPath hpath,
        spelled_self hspelled.2, (withChangedPath_idem relative change).symm⟩
    · intro name hname
      obtain ⟨_, -, _, -, hvalid, -, -, rfl⟩ := hnames name (mem_sortDedup_id.mp hname)
      exact hvalid
    · simp only [filesOf, namedPaths, mem_map, mem_filterMap, mem_sortDedup_id]
      constructor
      · rintro ⟨path, ⟨change, hchange, hpath⟩, rfl⟩
        obtain ⟨next, hnext, _, relative, hsame, hspelled, rfl⟩ := hrewritten change hchange
        cases hpath.symm.trans hsame
        obtain ⟨name, hname, _, hagain, -, -, -, rfl⟩ := hnamed _ hnext
        cases hagain.symm.trans (changedPath_withChangedPath hpath)
        exact ⟨relative, hname, hlocated hspelled⟩
      · rintro ⟨name, hname, rfl⟩
        obtain ⟨next, hnext, _, hagain, -, -, -, rfl⟩ := hnames name hname
        obtain ⟨change, hchange, path, relative, hpath, hspelled, rfl⟩ := hrewrites next hnext
        cases hagain.symm.trans (changedPath_withChangedPath hpath)
        exact ⟨path, ⟨change, hchange, hpath⟩, hlocated hspelled⟩
  | _ => cases hnormal

theorem Trusted.subset {first second normalized normalized' : AgentItem}
    {paths paths' : List String} (hfirst : Trusted workspace first normalized paths)
    (hsecond : Trusted workspace second normalized' paths')
    (hfiles : ∀ file ∈ filesOf (workspaceSteps workspace) first,
      file ∈ filesOf (workspaceSteps workspace) second) (hpath : path ∈ paths) : path ∈ paths' := by
  obtain ⟨name, hname, hsame⟩ := (hsecond.files _).mp (hfiles _ ((hfirst.files _).mpr
    ⟨path, hpath, rfl⟩))
  have hvalid := hfirst.relative path hpath
  have hvalid' := hsecond.relative name hname
  rw [append_cancel_left_eq, steps_of_isRelativePath hvalid,
    steps_of_isRelativePath hvalid'] at hsame
  rwa [components_injective hsame]

/-- Trusted paths are relative, distinct and stable, and depend only on the files they name. -/
theorem trustedPaths_sound {normalized : AgentItem} {paths : List String}
    (h : trustedPaths item workspace = .ok (normalized, paths)) :
    (∀ path ∈ paths, Proper path ∧ path.toList.head? ≠ some '/') ∧ paths.Nodup ∧
      (∀ digest : String → Option Sha256Digest, validateFilePostconditionEntries
        (paths.map fun path => ⟨path, digest path⟩) = .ok ()) ∧
      normalizeFileChangeItemPaths normalized workspace = .ok normalized ∧
      ∀ other normalized' paths', trustedPaths other workspace = .ok (normalized', paths') →
        (∀ file, file ∈ filesOf (workspaceSteps workspace) item ↔
          file ∈ filesOf (workspaceSteps workspace) other) → paths' = paths := by
  have htrusted := trustedPaths_trusted h
  refine ⟨fun path hpath => ?_, htrusted.strict.imp ne_of_lt, fun digest => ?_, htrusted.again, ?_⟩
  · have hproper := proper_of_isRelativePath (htrusted.relative path hpath)
    exact ⟨hproper, hproper.head_ne⟩
  · simp only [validateFilePostconditionEntries, ok_iff, forM_eq_ok, forall_mem_map]
    refine ⟨?_, fun path hpath => validate_of_isRelativePath (htrusted.relative path hpath) _⟩
    rintro (hempty | hlong | ⟨pair, hpair, hle⟩)
    · exact htrusted.bounds.1 (map_eq_nil_iff.mp hempty)
    · rw [length_map] at hlong
      exact absurd htrusted.bounds.2 (not_le.mpr hlong)
    · have hstrict : (paths.map fun path => (⟨path, digest path⟩ : FilePostconditionEntry)).Pairwise
          fun first second => first.relativePath < second.relativePath :=
        pairwise_map.mpr htrusted.strict
      exact absurd (Text.neighbours_of_pairwise hstrict pair hpair) (not_lt.mpr hle)
  · intro other normalized' paths' hother hfiles
    have hothers := trustedPaths_trusted hother
    refine hothers.strict.eq_of_mem_iff htrusted.strict fun path => ?_
    exact ⟨hothers.subset htrusted fun file => (hfiles file).mpr,
      htrusted.subset hothers fun file => (hfiles file).mp⟩

end Paths

def changeOf (path : String) : AgentItem :=
  .fileChange "item" "completed" (.arr [.obj [("path", .str path)]])

theorem trustedPaths_sound_absolute :
    trustedPaths (changeOf "/w/a") (.utf8 "/w") = .ok (changeOf "a", ["a"]) ∧
      normalizeFileChangeItemPaths (changeOf "a") (.utf8 "/w") = .ok (changeOf "a") ∧
      ∃ normalized paths,
        trustedPaths (changeOf "/./w//a/") (.utf8 "/w") = .ok (normalized, paths) ∧
        paths = ["a"] := by
  have h : trustedPaths (changeOf "/w/a") (.utf8 "/w") = .ok (changeOf "a", ["a"]) := rfl
  have hother : trustedPaths (changeOf "/./w//a/") (.utf8 "/w") = .ok (changeOf "a", ["a"]) := rfl
  have hfiles : filesOf (workspaceSteps (.utf8 "/w")) (changeOf "/w/a") =
      filesOf (workspaceSteps (.utf8 "/w")) (changeOf "/./w//a/") := by decide +kernel
  obtain ⟨-, -, -, hstable, hsame⟩ := trustedPaths_sound h
  exact ⟨h, hstable, _, _, hother, hsame _ _ _ hother fun file => by rw [hfiles]⟩

/-! ## Rehydration -/

structure Rehydration where
  workspace : Option PathBuf
  progress : List ProgressAssessment
  recoveryAttempts : List RecoveryAttempt
  pendingRecovery : Option PendingRecovery
  operationEvidence : List OperationEvidence
  steeringSequence : Nat
  completedTools : Nat
  startedTools : Nat
  providerRequests : Nat
  observedTotalTokens : Option Nat
  observedContextWindow : Option Nat
  lastProviderContext : Option String
  replacementPending : Bool
  replacementBoundSequence : Option Nat
  explicitCompactionRequested : Bool

namespace Rehydration

def initial : Rehydration where
  workspace := none
  progress := []
  recoveryAttempts := []
  pendingRecovery := none
  operationEvidence := []
  steeringSequence := 0
  completedTools := 0
  startedTools := 0
  providerRequests := 0
  observedTotalTokens := none
  observedContextWindow := none
  lastProviderContext := none
  replacementPending := false
  replacementBoundSequence := none
  explicitCompactionRequested := false

def closeEpoch (state : Rehydration) (sequence : Nat) : Rehydration :=
  if state.replacementBoundSequence.any fun bound => decide (bound < sequence)
  then
    { state with replacementPending := false, replacementBoundSequence := none }
  else state

/-- A past assessment, with placeholders for what the journal does not
hold. -/
def assessed (snapshot : TaskSnapshot) (fingerprint : String)
    (stalled : Bool) : ProgressAssessment where
  fingerprint := fingerprint
  newInformation := !stalled
  resolvedClauseIds := (snapshot.contract.clauses.filter fun clause =>
    decide (clause.status = .satisfied)).map (·.id)
  stallCount := if stalled then 1 else 0
  recovery := none

def observe (snapshot : TaskSnapshot) (state : Rehydration) (sequence : Nat) :
    TaskEvent → Except TaskEngineErrorCode Rehydration
  | .created _ workspace _ _ _ _ _ =>
    .ok { state with workspace := some workspace }
  | .providerRequestRecorded _ _ _ _ =>
    .ok { state with providerRequests := saturatingAdd state.providerRequests 1 }
  | .providerContextLost contextId _ =>
    .ok { state with
      lastProviderContext := some contextId, replacementPending := true,
      replacementBoundSequence := none }
  | .providerContextBound contextId =>
    .ok { state with
      lastProviderContext := some contextId
      replacementBoundSequence :=
        if state.replacementPending then some sequence
        else state.replacementBoundSequence }
  | .epochFinished _ _ => .ok (state.closeEpoch sequence)
  | .epochInterrupted _ _ => .ok (state.closeEpoch sequence)
  | .usageObserved _ totalTokens contextWindow =>
    .ok { state with
      observedTotalTokens := some totalTokens
      observedContextWindow := contextWindow.or state.observedContextWindow }
  | .compactionRequested _ _ =>
    .ok { state with explicitCompactionRequested := true }
  | .compactionCompleted _ _ _ =>
    .ok { state with explicitCompactionRequested := false }
  | .progressAssessed fingerprint stalled =>
    .ok { state with
      progress := state.progress ++ [assessed snapshot fingerprint stalled] }
  | .recoveryAttemptStarted epochId strategy strategyFingerprint => do
    rejectIf (state.pendingRecovery.isSome) .storage
    .ok { state with pendingRecovery := some ⟨epochId, strategy, strategyFingerprint⟩ }
  | .recoveryAttemptRecorded epochId strategy strategyFingerprint outcome => do
    rejectIf (state.pendingRecovery ≠ some ⟨epochId, strategy, strategyFingerprint⟩) .storage
    .ok { state with
      pendingRecovery := none
      recoveryAttempts := state.recoveryAttempts ++ [⟨strategy, strategyFingerprint, outcome⟩] }
  | .normalizedOperationEvidenceRecorded operationId evidence =>
    .ok { state with
      operationEvidence := state.operationEvidence ++
        [operationEvidenceFromEvent operationId evidence]
      completedTools := saturatingAdd state.completedTools 1 }
  | .operationIntentRecorded _ _ _ _ _ =>
    .ok { state with startedTools := saturatingAdd state.startedTools 1 }
  | .steeringQueued steeringSequence _ =>
    .ok { state with
      steeringSequence := max state.steeringSequence (saturatingAdd steeringSequence 1) }
  | _ => .ok state

def step (snapshot : TaskSnapshot) (state : Rehydration)
    (envelope : EventEnvelope) : Except TaskEngineErrorCode Rehydration :=
  match envelope.event with
  | .other => .error .storage
  | .taskLifecycle _ event => state.observe snapshot envelope.sequence event

end Rehydration

def rehydrated (snapshot : TaskSnapshot) (state : Rehydration)
    (workspace : PathBuf) (configuration : TaskConfigurationRecord)
    (pendingConfiguration : Option PendingTaskConfiguration)
    (previousCheckpoint : Option CanonicalCheckpoint)
    (contextId : AgentContextId) : RuntimeTask where
  workspace := workspace
  request := snapshot.contract.goal
  model := configuration.activeModel
  effort := configuration.activeEffort
  permissionMode := configuration.activePermissionMode
  effectivePermissionMode := configuration.effectivePermissionMode
  contextId := contextId
  nextObjective :=
    match previousCheckpoint with
    | none => initialObjective snapshot.contract.goal
    | some checkpoint => checkpoint.nextObjective
  previousCheckpoint := previousCheckpoint
  progress := state.progress
  recoveryAttempts := state.recoveryAttempts
  pendingRecovery := state.pendingRecovery
  freshContextDiagnosis := state.replacementPending
  providerReplacementNeeded := snapshot.providerContext.isNone
  runningProcesses := []
  providerReady := false
  steering := []
  steeringSequence := state.steeringSequence
  operationEvidence := state.operationEvidence
  fileHashes :=
    match previousCheckpoint with
    | none => OrderedMap.empty
    | some checkpoint => checkpoint.repository.fileHashes
  observedTotalTokens := state.observedTotalTokens
  observedContextWindow := state.observedContextWindow
  estimatedTokensSinceUsage := 0
  completedTools := state.completedTools
  startedTools := state.startedTools
  providerRequests := state.providerRequests
  pendingConfiguration := pendingConfiguration
  quiesceAfterCheckpoint := false
  safeBoundaryRequested := false
  explicitCompactionRequested := state.explicitCompactionRequested

/-! ## The metrics of the same journal -/

section Metrics

open Rehydration TaskMetricsReducer

variable {events : List EventEnvelope}

def observedWindow : TaskEvent → Option (Option Nat)
  | .usageObserved _ _ contextWindow => some contextWindow
  | _ => none

/-- What the usage events say about the context window, in their order. -/
def observedWindows (events : List EventEnvelope) : List (Option Nat) :=
  events.filterMap fun envelope => envelope.taskEvent?.bind observedWindow

def keptWindow (windows : List (Option Nat)) : Option Nat :=
  windows.foldl (fun kept window => window.or kept) none

theorem keptWindow_eq_none {windows : List (Option Nat)} :
    keptWindow windows = none ↔ ∀ window ∈ windows, window = none := by
  induction windows using reverseRecOn with
  | nil => simp [keptWindow]
  | append_singleton before window ih =>
    rw [forall_mem_append, ← ih]
    cases window <;> simp [keptWindow]

theorem latest_eq_keptWindow_iff (windows : List (Option Nat)) :
    windows.foldl (fun _ window => window) none = keptWindow windows ↔
      (windows.getLast? = some none → ∀ window ∈ windows, window = none) := by
  rcases eq_nil_or_concat' windows with rfl | ⟨before, window, rfl⟩
  · simp [keptWindow]
  · cases window with
    | none =>
      simp [keptWindow, @eq_comm _ none, ← keptWindow_eq_none, or_imp]
    | some window => simp [keptWindow]

theorem expected_window {expected : ExpectedProvider}
    (h : events.foldlM ExpectedProvider.observe (.initial none) = .ok expected) :
    expected.contextWindow = keptWindow (observedWindows events) := by
  rw [keptWindow, observedWindows, foldl_filterMap]
  refine foldlM_view (fun before envelope after hstep => ?_) h
  obtain ⟨_, _, event⟩ := envelope
  cases event with
  | other => cases hstep
  | taskLifecycle _ event => cases event <;> cases hstep <;> rfl

theorem rehydrated_window {snapshot : TaskSnapshot} {state : Rehydration}
    (h : events.foldlM (step snapshot) .initial = .ok state) :
    state.observedContextWindow = keptWindow (observedWindows events) := by
  rw [keptWindow, observedWindows, foldl_filterMap]
  refine foldlM_view (fun before envelope after hstep => ?_) h
  obtain ⟨_, _, event⟩ := envelope
  cases event with
  | other => cases hstep
  | taskLifecycle _ event =>
    cases event <;> simp only [step, observe, ok_iff] at hstep <;> first
      | (subst hstep; rfl)
      | (obtain ⟨-, rfl⟩ := hstep; rfl)
      | (subst hstep; unfold closeEpoch; split <;> rfl)

theorem classify_window {reducer next : TaskMetricsReducer} {state state' : OperationMetricState}
    {target : OperationStatus} (h : reducer.classify state target = .ok (next, state')) :
    next.latestContextWindow = reducer.latestContextWindow := by
  cases target <;> simp only [classify, ok_iff, Prod.mk.injEq] at h <;> grind

theorem countEvent_window {reducer next : TaskMetricsReducer} {event : TaskEvent}
    (h : reducer.countEvent event = .ok next) :
    next.latestContextWindow = (observedWindow event).getD reducer.latestContextWindow := by
  cases event <;> simp only [countEvent, ok_iff] at h
  case operationTransitioned =>
    simp only [countOperationTransition, ok_iff] at h
    obtain ⟨_, -, -, ⟨_, _⟩, hclassify, rfl⟩ := h
    have hkept := classify_window hclassify
    exact hkept
  all_goals grind [observedWindow]

theorem metrics_window {reducer : TaskMetricsReducer} {taskId : TaskId}
    (h : events.foldlM push (.new taskId) = .ok reducer) :
    reducer.latestContextWindow = (observedWindows events).foldl (fun _ window => window) none := by
  rw [observedWindows, foldl_filterMap]
  refine foldlM_view (fun before envelope after hstep => ?_) h
  obtain ⟨_, _, event⟩ := envelope
  cases event with
  | other => simp [push, ok_iff] at hstep
  | taskLifecycle _ event =>
    simp only [push, ok_iff] at hstep
    obtain ⟨-, -, _, -, counted, hcount, _, -, rfl⟩ := hstep
    refine (countEvent_window hcount).trans ?_
    cases hwindow : observedWindow event <;> simp [EventEnvelope.taskEvent?, hwindow]

/-- What the metrics, the checkpoint builder and the engine make of one journal. -/
structure Summaries (taskId : TaskId) (events : List EventEnvelope) (snapshot : TaskSnapshot)
    (metrics : TaskMetrics) (expected : ExpectedProvider) (state : Rehydration) : Prop where
  reduced : reduceJournal events = .ok (some snapshot)
  derived : deriveTaskMetrics taskId events snapshot = .ok metrics
  expected : events.foldlM ExpectedProvider.observe (.initial none) = .ok expected
  rehydrated : events.foldlM (step snapshot) .initial = .ok state

/-- The metrics take the window of the last usage event, also when it names
none, and count a required clause as satisfied without looking for evidence. -/
theorem metrics_agree_iff {taskId : TaskId} {snapshot : TaskSnapshot} {metrics : TaskMetrics}
    {expected : ExpectedProvider} {state : Rehydration}
    (h : Summaries taskId events snapshot metrics expected state) :
    ((metrics.latestContextWindow = expected.contextWindow ∧
          metrics.latestContextWindow = state.observedContextWindow) ∧
        (metrics.requiredClausesSatisfied = metrics.requiredClausesTotal ↔
          snapshot.contract.requiredClausesSatisfied = true)) ↔
      ((observedWindows events).getLast? = some none →
          ∀ window ∈ observedWindows events, window = none) ∧
        ((∀ clause ∈ snapshot.contract.clauses, clause.required = true →
            clause.status = .satisfied) →
          ∀ clause ∈ snapshot.contract.clauses, clause.required = true → clause.evidence ≠ []) := by
  have hderived := h.derived
  simp only [deriveTaskMetrics, finish, clauseCount, ok_iff] at hderived
  obtain ⟨reducer, hfold, _, -, -, -, -, -, _, ⟨-, rfl⟩, _, ⟨-, rfl⟩, _, -, rfl⟩ := hderived
  rw [expected_window h.expected, rehydrated_window h.rehydrated, and_self, metrics_window hfold,
    latest_eq_keptWindow_iff]
  refine and_congr_right fun _ => ?_
  have hswap : (fun clause : CompletionClause => clause.required && clause.status == .satisfied) =
      fun clause => clause.status == .satisfied && clause.required :=
    funext fun _ => Bool.and_comm _ _
  rw [hswap, ← filter_filter, length_filter_eq_length_iff,
    requiredClausesSatisfied_eq_true]
  simp only [mem_filter, beq_iff_eq, and_imp, imp_and, forall_and, iff_self_and]

namespace Sample

open Task.Sample

def usageJournal (window : Option Nat) (evidence : List EvidenceRef) : List EventEnvelope :=
  envelopes 1 [creation (contract .satisfied evidence), .stateTransitioned .queued .active "r",
      .epochStarted epochId "o", .usageObserved epochId 5 (some 10),
      .usageObserved epochId 6 window]

end Sample

theorem metrics_agree_on_usage : ∃ snapshot metrics expected state,
    Summaries Task.Sample.taskId (Sample.usageJournal (some 9) [⟨1, none, none⟩]) snapshot metrics
        expected state ∧
      metrics.latestContextWindow = expected.contextWindow := by
  have h : ∃ snapshot metrics expected state,
      Summaries Task.Sample.taskId (Sample.usageJournal (some 9) [⟨1, none, none⟩]) snapshot metrics
        expected state ∧ ∀ clause ∈ snapshot.contract.clauses, clause.evidence ≠ [] :=
    ⟨_, _, _, _, ⟨rfl, rfl, rfl, rfl⟩, by decide⟩
  obtain ⟨snapshot, metrics, expected, state, h, hevidence⟩ := h
  exact ⟨snapshot, metrics, expected, state, h,
    ((metrics_agree_iff h).mpr ⟨by decide, fun _ clause hmem _ => hevidence clause hmem⟩).1.1⟩

theorem metrics_disagree_on_usage : ∃ snapshot metrics expected state,
    Summaries Task.Sample.taskId (Sample.usageJournal none []) snapshot metrics expected state ∧
      metrics.latestContextWindow = none ∧ expected.contextWindow = some 10 ∧
      state.observedContextWindow = some 10 ∧
      metrics.requiredClausesSatisfied = metrics.requiredClausesTotal ∧
      snapshot.contract.requiredClausesSatisfied = false :=
  ⟨_, _, _, _, ⟨rfl, rfl, rfl, rfl⟩, rfl, rfl, rfl, rfl, rfl⟩

end Metrics

end CarlAgent.Engine
