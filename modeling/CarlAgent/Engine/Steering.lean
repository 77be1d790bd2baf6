import CarlAgent.Engine.Runtime
import CarlAgent.Foundation.Service

/-!
# Steering a task

The queue of steering texts is a part of the runtime; the journal keeps the
number and the digest of each text, and the store the control that brought
it.  While an epoch runs, a text goes from its control to the provider and
does not pass through the queue.
-/

namespace CarlAgent.Engine

open Foundation CarlAgent.Task List

/-- A steering text, with the call that brought it. -/
structure Steering where
  call : Nat
  sequence : Nat
  controlId : Option String
  text : String
  deriving DecidableEq

/-- The part of `RuntimeTask` that steering reads and writes. -/
structure SteeringRuntime where
  steering : List Steering
  steeringSequence : Nat
  deriving DecidableEq

/-- What a write to the store comes to: the process may stop at it. -/
inductive StoreReply where
  | serves
  | fails
  | stops
  | stopsAfter
  deriving DecidableEq

inductive SteeringAnswer where
  | ok
  | error (code : TaskEngineErrorCode)
  | stopped

structure SteeredTask where
  journal : List (Nat × String)
  controls : List String
  /-- Absent while the task is not in memory. -/
  runtime : Option SteeringRuntime
  epochRuns : Bool
  handed : List Steering
  calls : Nat
  succeeded : List (Nat × Option String)
  failed : List Nat

namespace SteeredTask

variable (sha256 : Sha256) (task : SteeredTask)

def queue : List Steering :=
  (task.runtime.map SteeringRuntime.steering).getD []

def stop : SteeredTask := { task with runtime := none, epochRuns := false }

/-- Append the event, and with it the control that asked for it. -/
def record (steering : Steering) : StoreReply → SteeredTask × SteeringAnswer
  | .serves => (written, .ok)
  | .fails => (task, .error .storage)
  | .stops => (task.stop, .stopped)
  | .stopsAfter => (written.stop, .stopped)
where
  written : SteeredTask :=
    { task with
      journal := task.journal ++ [(steering.sequence, textDigest sha256 steering.text)]
      controls := task.controls ++ steering.controlId.toList }

/-- The checks that come first, then `accept` with the next number; the store
`finds` whether it knows the control, or the lookup fails. -/
def withNumber (text : String) (controlId : Option String) (inEpoch finds : Bool)
    (inputReply : StoreReply) (accept : SteeringRuntime → Steering → SteeredTask × SteeringAnswer) :
    SteeredTask × SteeringAnswer :=
  match validateSteering text with
  | .error code => (task, .error code)
  | .ok () =>
    if controlId.isSome && !finds then (task, .error .storage)
    else if controlId.any fun id => decide (id ∈ task.controls) then
      (task, .ok)
    else if task.epochRuns != inEpoch then (task, .error .invalidTask)
    else
      match task.runtime, inputReply with
      | none, _ => (task, .error .invalidTask)
      | some _, .fails => (task, .error .storage)
      | some runtime, .serves =>
        match checkedAdd runtime.steeringSequence 1 with
        | none => (task, .error .invalidTask)
        | some next =>
          accept ⟨runtime.steering, next⟩
            ⟨task.calls, runtime.steeringSequence, controlId, text⟩
      | some _, _ => (task.stop, .stopped)

/-- The task is steered while no epoch runs: the text is queued before it is
recorded. -/
def steerControlled (text : String) (controlId : Option String) (finds : Bool)
    (reply : StoreReply) : SteeredTask × SteeringAnswer :=
  task.withNumber text controlId false finds .serves fun runtime steering =>
    { task with
      runtime := some ⟨runtime.steering ++ [steering],
        runtime.steeringSequence⟩ }.record sha256 steering reply

/-- `apply_control` for a steering control: the text is recorded, as the
user's input and for the task, before the provider is steered with it. -/
def applySteer (text : String) (controlId : Option String) (finds : Bool)
    (inputReply reply : StoreReply) (accepts : Bool) : SteeredTask × SteeringAnswer :=
  task.withNumber text controlId true finds inputReply fun runtime steering =>
    match { task with runtime := some runtime }.record sha256 steering
      reply with
    | (recorded, .ok) =>
      if accepts then
        ({ recorded with handed := recorded.handed ++ [steering] }, .ok)
      else (recorded, .error .provider)
    | other => other

/-- The loop over the drained queue: it ends at the first refusal. -/
def handAll : List Steering → List Bool → SteeredTask → SteeredTask
  | steering :: rest, true :: answers, task =>
    handAll rest answers { task with handed := task.handed ++ [steering] }
  | _ :: _, _, task => { task with epochRuns := false }
  | [], _, task => task

def startEpoch (answers : List Bool) : SteeredTask :=
  match task.epochRuns, task.runtime with
  | false, some runtime =>
    handAll runtime.steering answers
      { task with runtime := some ⟨[], runtime.steeringSequence⟩, epochRuns := true }
  | _, _ => task

/-- The steering part of `rehydrate_runtime`. -/
def rehydrateRuntime : SteeredTask :=
  match task.runtime with
  | some _ => task
  | none =>
    { task with
      runtime := some ⟨[], task.journal.foldl (fun next event =>
        max next (saturatingAdd event.1 1)) 0⟩ }

def returned (controlId : Option String) : SteeringAnswer → SteeredTask
  | .ok =>
    { task with calls := task.calls + 1, succeeded := task.succeeded ++ [(task.calls, controlId)] }
  | .error _ =>
    { task with calls := task.calls + 1, failed := task.failed ++ [task.calls] }
  | .stopped => { task with calls := task.calls + 1 }

end SteeredTask

inductive SteeringAction where
  | steer (text : String) (controlId : Option String) (finds : Bool) (reply : StoreReply)
  | control (text : String) (controlId : Option String) (finds : Bool)
    (inputReply reply : StoreReply) (accepts : Bool)
  | startEpoch (answers : List Bool)
  | endEpoch
  | stop
  | rehydrate

namespace SteeredTask

def step (sha256 : Sha256) (task : SteeredTask) : SteeringAction → SteeredTask
  | .steer text controlId finds reply =>
    let result := task.steerControlled sha256 text controlId finds reply
    result.1.returned controlId result.2
  | .control text controlId finds inputReply reply accepts =>
    let result := task.applySteer sha256 text controlId finds inputReply reply accepts
    result.1.returned controlId result.2
  | .startEpoch answers => task.startEpoch answers
  | .endEpoch => { task with epochRuns := false }
  | .stop => task.stop
  | .rehydrate => task.rehydrateRuntime

def created : SteeredTask := ⟨[], [], some ⟨[], 0⟩, false, [], 0, [], []⟩

variable {sha256 : Sha256} {task : SteeredTask}
  {controlId : Option String}

def held (task : SteeredTask) : List Steering := task.handed ++ task.queue

variable {journal : List (Nat × String)} {answers : List Bool} {epochRuns : Bool}

theorem held_mk {controls : List String} {queued handed : List Steering} {sequence calls : Nat}
    {succeeded : List (Nat × Option String)} {failed : List Nat} :
    held ⟨journal, controls, some ⟨queued, sequence⟩, epochRuns, handed, calls,
      succeeded, failed⟩ = handed ++ queued :=
  rfl

structure Faithful (task : SteeredTask) : Prop where
  kept : ∀ call controlId, (call, controlId) ∈ task.succeeded →
    ∃ steering ∈ task.held, steering.call = call ∨ controlId ≠ none ∧ steering.controlId = controlId
  ordered : (task.handed.map Steering.sequence).Pairwise (· < ·)
  unfailed : ∀ steering ∈ task.handed, steering.call ∉ task.failed
  single : (task.held.filterMap Steering.controlId).Nodup

/-- The store takes each steering, the provider refuses none, and the process
stops only when none is queued. -/
def Steady (task : SteeredTask) : SteeringAction → Prop
  | .steer _ _ _ reply => reply = .serves
  | .control _ _ _ _ reply accepts => reply ≠ .stopsAfter ∧ accepts = true
  | .startEpoch answers =>
    answers.take task.queue.length = task.queue.map fun _ => true
  | .stop => task.queue = []
  | _ => True

structure Kept (task : SteeredTask) : Prop where
  kept : ∀ call controlId, (call, controlId) ∈ task.succeeded →
    ∃ steering ∈ task.held, steering.call = call ∨ controlId ≠ none ∧ steering.controlId = controlId
  ordered : (task.held.map Steering.sequence).Pairwise (· < ·)
  unfailed : ∀ steering ∈ task.held, steering.call ∉ task.failed
  single : task.controls.Nodup
  controls : task.controls = task.held.filterMap Steering.controlId
  journaled : task.journal.map Prod.fst = task.held.map Steering.sequence
  bounded : ∀ event ∈ task.journal, event.1 < maxU64
  numbered : ∀ runtime, task.runtime = some runtime →
    ∀ event ∈ task.journal, event.1 < runtime.steeringSequence
  fresh : ∀ steering ∈ task.held, steering.call < task.calls
  counted : ∀ call ∈ task.failed, call < task.calls
  drained : task.epochRuns = true → task.queue = []

theorem Kept.faithful (h : task.Kept) : task.Faithful where
  kept := h.kept
  ordered := by
    have hordered := h.ordered
    rw [held, map_append] at hordered
    exact (pairwise_append.mp hordered).1
  unfailed steering hsteering := h.unfailed steering (mem_append_left _ hsteering)
  single := h.controls ▸ h.single

theorem Kept.move (h : task.Kept) {runtime : Option SteeringRuntime} {handed : List Steering}
    (hheld : held { task with runtime, epochRuns, handed } = task.held)
    (hnumbered : ∀ later, runtime = some later →
      ∀ event ∈ task.journal, event.1 < later.steeringSequence)
    (hdrained : epochRuns = true → queue { task with runtime, epochRuns, handed } = []) :
    Kept { task with runtime, epochRuns, handed } where
  kept := hheld ▸ h.kept
  ordered := hheld ▸ h.ordered
  unfailed := hheld ▸ h.unfailed
  single := h.single
  controls := hheld ▸ h.controls
  journaled := hheld ▸ h.journaled
  bounded := h.bounded
  numbered := hnumbered
  fresh := hheld ▸ h.fresh
  counted := h.counted
  drained := hdrained

theorem Kept.stop (h : task.Kept) (hqueue : task.queue = []) : task.stop.Kept :=
  h.move (by rw [held, held, hqueue]; rfl) nofun nofun

theorem Kept.returned (h : task.Kept) {answer : SteeringAnswer}
    (hok : answer = .ok → ∃ id ∈ task.controls, controlId = some id) :
    (task.returned controlId answer).Kept := by
  have hfresh : ∀ steering ∈ task.held, steering.call < task.calls + 1 :=
    fun steering hsteering => Nat.lt_succ_of_lt (h.fresh steering hsteering)
  have hcounted : ∀ call ∈ task.failed, call < task.calls + 1 :=
    fun call hcall => Nat.lt_succ_of_lt (h.counted call hcall)
  cases answer with
  | ok =>
    obtain ⟨id, hid, rfl⟩ := hok rfl
    refine { h with fresh := hfresh, counted := hcounted, kept := ?_ }
    intro call controlId hmem
    rcases mem_append.mp hmem with hmem | hmem
    · exact h.kept call controlId hmem
    · cases mem_singleton.mp hmem
      rw [h.controls, mem_filterMap] at hid
      obtain ⟨steering, hsteering, hwhich⟩ := hid
      exact ⟨steering, hsteering, .inr ⟨by simp, hwhich⟩⟩
  | error code =>
    refine { h with fresh := hfresh, unfailed := ?_, counted := ?_ }
    · intro steering hsteering hcall
      rcases mem_append.mp hcall with hcall | hcall
      · exact h.unfailed steering hsteering hcall
      · have hlt := h.fresh steering hsteering
        rw [mem_singleton.mp hcall] at hlt
        exact hlt.false
    · intro call hcall
      rcases mem_append.mp hcall with hcall | hcall
      · exact hcounted call hcall
      · cases mem_singleton.mp hcall
        exact Nat.lt_succ_self _
  | stopped => exact { h with fresh := hfresh, counted := hcounted }

theorem Kept.add (h : task.Kept) {runtime : SteeringRuntime} {sequence : Nat}
    (hruntime : task.runtime = some runtime)
    (hsequence : checkedAdd runtime.steeringSequence 1 = some sequence)
    (hcontrol : ∀ id, controlId = some id → id ∉ task.controls) (text : String)
    {handed queued : List Steering} (hheld : handed ++ queued = task.held ++
      [⟨task.calls, runtime.steeringSequence, controlId, text⟩])
    (hdrained : task.epochRuns = true → queued = []) (digest : String) :
    Kept (SteeredTask.returned { task with
      journal := task.journal ++ [(runtime.steeringSequence, digest)],
      controls := task.controls ++ controlId.toList, runtime := some ⟨queued, sequence⟩,
      handed } controlId .ok) := by
  simp only [checkedAdd, Option.ite_none_right_eq_some, Option.some.injEq] at hsequence
  obtain ⟨hbound, rfl⟩ := hsequence
  have hnumbered := h.numbered runtime hruntime
  constructor
  all_goals simp only [SteeredTask.returned, held_mk, hheld]
  · intro call controlId hmem
    rcases mem_append.mp hmem with hmem | hmem
    · obtain ⟨other, hother, hwhich⟩ := h.kept call controlId hmem
      exact ⟨other, mem_append_left _ hother, hwhich⟩
    · cases mem_singleton.mp hmem
      exact ⟨_, mem_append_right _ (mem_singleton_self _), .inl rfl⟩
  · rw [map_append, pairwise_append, ← h.journaled]
    refine ⟨h.journaled ▸ h.ordered, by simp, ?_⟩
    simpa using fun sequence digest hevent => hnumbered (sequence, digest) hevent
  · simp only [forall_mem_append, forall_mem_singleton]
    exact ⟨h.unfailed, fun hcall => (h.counted _ hcall).false⟩
  · cases controlId with
    | none => simpa using h.single
    | some id => simpa using h.single.concat (hcontrol id rfl)
  · rw [filterMap_append, ← h.controls]
    cases controlId <;> rfl
  · simp [h.journaled]
  · simp only [forall_mem_append, forall_mem_singleton]
    exact ⟨h.bounded, by omega⟩
  · rintro _ ⟨⟩
    simp only [forall_mem_append, forall_mem_singleton]
    exact ⟨fun event hevent => Nat.lt_succ_of_lt (hnumbered event hevent), Nat.lt_succ_self _⟩
  · simp only [forall_mem_append, forall_mem_singleton]
    exact ⟨fun steering hsteering => Nat.lt_succ_of_lt
      (h.fresh steering hsteering), Nat.lt_succ_self _⟩
  · exact fun call hcall => Nat.lt_succ_of_lt (h.counted call hcall)
  · exact hdrained

/-- The calls that `withNumber` answers itself add no steering. -/
theorem Kept.withNumber (h : task.Kept) {text : String} {inEpoch finds : Bool}
    {inputReply : StoreReply} (hinput : inEpoch = false → inputReply = .serves)
    {accept : SteeringRuntime → Steering → SteeredTask × SteeringAnswer}
    (haccept : ∀ runtime sequence, task.runtime = some runtime →
      task.epochRuns = inEpoch →
      checkedAdd runtime.steeringSequence 1 = some sequence →
      (∀ id, controlId = some id → id ∉ task.controls) →
      ∀ result, accept ⟨runtime.steering, sequence⟩ ⟨task.calls,
        runtime.steeringSequence, controlId, text⟩ = result →
      (result.1.returned controlId result.2).Kept) :
    let result := task.withNumber text controlId inEpoch finds inputReply accept
    (result.1.returned controlId result.2).Kept := by
  have herror : ∀ code, (task.returned controlId (.error code)).Kept := fun code => h.returned nofun
  simp only [SteeredTask.withNumber]
  cases validateSteering text with
  | error code => exact herror code
  | ok =>
    split_ifs with hfinds hcontrol hepoch
    · exact herror _
    · simp only [Option.any_eq_true, decide_eq_true_eq] at hcontrol
      obtain ⟨id, rfl, hid⟩ := hcontrol
      exact h.returned fun _ => ⟨id, hid, rfl⟩
    · exact herror _
    · have hruns : task.epochRuns = inEpoch := by simpa using hepoch
      have hstop (hreply : inputReply ≠ .serves) :
          (task.stop.returned controlId .stopped).Kept := by
        have htrue : inEpoch = true := by
          rw [← Bool.not_eq_false]
          exact fun hfalse => hreply (hinput hfalse)
        exact (h.stop (h.drained (hruns.trans htrue))).returned nofun
      cases hruntime : task.runtime with
      | none => exact herror _
      | some runtime =>
        cases inputReply with
        | fails => exact herror _
        | stops => exact hstop nofun
        | stopsAfter => exact hstop nofun
        | serves =>
          simp only
          cases hsequence : checkedAdd runtime.steeringSequence 1 with
          | none => exact herror _
          | some sequence =>
            refine haccept runtime sequence hruntime hruns hsequence ?_ _ rfl
            rintro id rfl hid
            exact hcontrol (by simpa using hid)

theorem Kept.steerControlled (h : task.Kept) (text : String) (finds : Bool) :
    (task.step sha256 (.steer text controlId finds .serves)).Kept := by
  refine h.withNumber (fun _ => rfl) ?_
  rintro runtime sequence hruntime hidle hsequence hcontrol _ rfl
  refine h.add hruntime hsequence hcontrol text ?_ (by simp [hidle]) _
  simp [held, queue, hruntime]

theorem Kept.applySteer (h : task.Kept) (text : String) (finds : Bool) (inputReply : StoreReply)
    {reply : StoreReply} (hreply : reply ≠ .stopsAfter) :
    (task.step sha256 (.control text controlId finds inputReply reply true)).Kept := by
  refine h.withNumber ?_ ?_
  · nofun
  rintro runtime sequence hruntime hruns hsequence hcontrol _ rfl
  have hqueue : runtime.steering = [] := by
    simpa [queue, hruntime] using h.drained hruns
  have hnumbered : Kept { task with runtime := some ⟨runtime.steering, sequence⟩ } := by
    refine h.move (by simp [held, queue, hruntime]) ?_ fun _ => hqueue
    rintro _ ⟨⟩ event hevent
    have hlt := h.numbered runtime hruntime event hevent
    simp only [checkedAdd, Option.ite_none_right_eq_some, Option.some.injEq] at hsequence
    exact hsequence.2 ▸ Nat.lt_succ_of_lt hlt
  cases reply with
  | serves =>
    refine h.add hruntime hsequence hcontrol text ?_ (fun _ => hqueue) _
    simp [held, queue, hruntime, hqueue, record.written]
  | fails => exact hnumbered.returned nofun
  | stops => exact (hnumbered.stop hqueue).returned nofun
  | stopsAfter => exact absurd rfl hreply

theorem handAll_eq {steering : List Steering}
    (h : answers.take steering.length = steering.map fun _ => true)
    (task : SteeredTask) :
    handAll steering answers task = { task with handed := task.handed ++ steering } := by
  induction steering generalizing answers task with
  | nil => simp [handAll]
  | cons first rest ih =>
    cases answers with
    | nil => cases h
    | cons answer answers =>
      simp only [length_cons, take_succ_cons, map_cons, cons.injEq] at h
      obtain ⟨rfl, h⟩ := h
      rw [handAll, ih h]
      simp

theorem Kept.startEpoch (h : task.Kept) (hanswers : answers.take task.queue.length =
      task.queue.map fun _ => true) : (task.startEpoch answers).Kept := by
  rw [SteeredTask.startEpoch]
  split
  next runtime hidle hruntime =>
    have hqueue : task.queue = runtime.steering := by simp [queue, hruntime]
    rw [hqueue] at hanswers
    rw [handAll_eq hanswers]
    refine h.move ?_ ?_ (by simp [queue])
    · simp [held, queue, hruntime]
    · rintro _ ⟨⟩
      exact h.numbered runtime hruntime
  next => exact h

theorem lt_foldl_sequence (start : Nat) (h : ∀ event ∈ journal, event.1 < maxU64) :
    start ≤ journal.foldl (fun next event => max next (saturatingAdd event.1 1)) start ∧
      ∀ event ∈ journal, event.1 < journal.foldl (fun next event =>
        max next (saturatingAdd event.1 1)) start := by
  induction journal generalizing start with
  | nil => simp
  | cons first rest ih =>
    obtain ⟨hfirst, hrest⟩ := forall_mem_cons.mp h
    obtain ⟨hstart, hlater⟩ := ih (max start (saturatingAdd first.1 1)) hrest
    have hadd : saturatingAdd first.1 1 = first.1 + 1 := by
      rw [saturatingAdd, if_pos (by omega)]
    rw [hadd] at hstart hlater
    simp only [foldl_cons, forall_mem_cons, hadd]
    exact ⟨by omega, by omega, hlater⟩

theorem Kept.rehydrate (h : task.Kept) : task.rehydrateRuntime.Kept := by
  rw [SteeredTask.rehydrateRuntime]
  split
  next => exact h
  next hruntime =>
    refine h.move (by simp [held, queue, hruntime]) ?_ (by simp [queue])
    rintro _ ⟨⟩
    exact (lt_foldl_sequence 0 h.bounded).2

theorem Kept.step (h : task.Kept) {action : SteeringAction}
    (hsteady : task.Steady action) : (task.step sha256 action).Kept := by
  cases action with
  | steer text controlId finds reply =>
    cases hsteady
    exact h.steerControlled text finds
  | control text controlId finds inputReply reply accepts =>
    obtain ⟨hreply, rfl⟩ := hsteady
    exact h.applySteer text finds inputReply hreply
  | startEpoch answers => exact h.startEpoch hsteady
  | endEpoch => exact h.move rfl h.numbered nofun
  | stop => exact h.stop hsteady
  | rehydrate => exact h.rehydrate

theorem created_kept : created.Kept := by
  constructor <;> simp [created, held, queue]

def steeringService (sha256 : Sha256) :
    Service SteeredTask SteeringAction Unit where
  step task action := (task.step sha256 action, ())

/-- With `Steady` calls steering is kept, in order and once. -/
theorem steering_faithful (sha256 : Sha256) {actions : List SteeringAction}
    (h : (steeringService sha256).Meets Steady created actions) :
    ((steeringService sha256).run created actions).Faithful :=
  Kept.faithful (Service.run_invariant_of_meets
    (fun _ _ hkept hsteady => hkept.step hsteady) created_kept h)

theorem steering_faithful_steered : ((steeringService fun _ => ⟨0⟩).run created
      [.steer "Use the other file." (some (.ofList (replicate 64 'c'))) true .serves,
        .startEpoch [true], .control "Stop." none true .serves .serves true,
        .stop, .rehydrate]).Faithful :=
  steering_faithful _ (by
    simp only [Service.Meets, Steady]
    decide +kernel)

/-- A restart drops the queue, and with it a steering that was taken. -/
theorem rehydrateRuntime_not_faithful : ¬ ((steeringService fun _ => ⟨0⟩).run created
      [.steer "Use the other file." none true .serves, .stop, .rehydrate]).Faithful := by
  intro h
  obtain ⟨steering, hheld, -⟩ := h.kept 0 none (by decide +kernel)
  have hempty : held ((steeringService fun _ => ⟨0⟩).run created
      [.steer "Use the other file." none true .serves, .stop, .rehydrate]) = [] := by
    decide +kernel
  rw [hempty] at hheld
  exact not_mem_nil hheld

end SteeredTask

end CarlAgent.Engine
