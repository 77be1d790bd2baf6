import CarlAgent.Foundation.Paging
import CarlAgent.Foundation.Service
import CarlAgent.Task.Context

/-!
# Sessions of the ACP adapter

The handlers of a connection run one after another.  One that asks the service
works on a copy of the session's binding and writes the copy back when the
reply has come.  The streams of the session, pollers of prompts and replays,
take their steps at any time; each holds the generation with which it started
and works only while the binding has the same one.
-/

namespace CarlAgent.Acp

open Foundation CarlAgent.Task

structure ServicePendingApproval where
  taskId : TaskId
  displayCode : String
  deriving DecidableEq

structure ServiceSessionBinding where
  model : ModelId
  effort : ReasoningEffort
  permissionMode : PermissionMode
  taskId : Option TaskId
  lastEventCursor : Option Nat
  liveGeneration : String
  lastLiveCursor : Option Nat
  streamGeneration : Nat
  promptActive : Bool
  pendingApproval : Option ServicePendingApproval
  deriving DecidableEq

/-- Where a stream is in its loop; `deliver` holds the rest of a page. -/
inductive Phase where
  | connect
  | check
  | fetch
  | deliver (page : List Nat)
  | live
  | status
  deriving DecidableEq

/-- A poller has the identifier of the prompt it answers, a replay has none.
The last three fields are the cursor with which the stream started and what
its last page was taken from. -/
structure Stream where
  responseId : Option Nat
  taskId : TaskId
  cursor : Option Nat
  liveGeneration : String
  liveCursor : Option Nat
  generation : Nat
  phase : Phase
  running : Bool
  answers : Nat
  sent : List Nat
  start : Option Nat
  journalLength : Nat
  backlog : Nat
  deriving DecidableEq

structure LivePage where
  liveGeneration : String
  cursor : Option Nat
  pendingApproval : Option ServicePendingApproval
  deriving DecidableEq

/-- What a stream meets next: `failed` is a service or an output that fails,
`ended` tells whether the status is terminal, blocked or paused. -/
inductive StreamInput where
  | proceed
  | live (page : LivePage)
  | status (ended : Bool)
  | failed
  | cancelled
  deriving DecidableEq

def eventPageLimit : Nat := 128

/-- The failures that a poller reports as the answer to its prompt. -/
def Phase.answersFailure : Phase → Bool
  | connect | fetch | status => true
  | check | deliver _ | live => false

namespace Stream

variable (s : Stream) (binding : Option ServiceSessionBinding)

def ownsServiceStream : Bool :=
  binding.any fun b => b.streamGeneration == s.generation

def stop (answered : Bool) : Stream :=
  { s with running := false, answers := s.answers + (answered && s.responseId.isSome).toNat }

def deliver (sequence : Nat)
    (page : List Nat) : Stream × Option ServiceSessionBinding :=
  if s.cursor.any (sequence ≤ ·) then
    (if s.responseId.isSome then { s with phase := .deliver page }
      else s.stop false, binding)
  else if s.ownsServiceStream binding then
    ({ s with cursor := some sequence, sent := s.sent ++ [sequence], phase := .deliver page },
      binding.map fun b => { b with lastEventCursor := some sequence })
  else (s.stop false, binding)

def takeLive
    (page : LivePage) : Stream × Option ServiceSessionBinding :=
  let asked := page.pendingApproval.isSome
  if s.ownsServiceStream binding then
    ({ s with
      liveGeneration := page.liveGeneration, liveCursor := page.cursor, phase := .status,
      running := !asked, answers := s.answers + (asked && s.responseId.isSome).toNat },
      binding.map fun b => { b with
        lastEventCursor :=
          if s.responseId.isSome then b.lastEventCursor else s.cursor
        liveGeneration := page.liveGeneration
        lastLiveCursor := page.cursor
        promptActive := b.promptActive && !(asked && s.responseId.isSome)
        pendingApproval := page.pendingApproval.or b.pendingApproval })
  else (s.stop false, binding)

def takeStatus
    (ended : Bool) : Stream × Option ServiceSessionBinding :=
  if ended then
    (s.stop true,
      if s.responseId.isSome ∧ s.ownsServiceStream binding then
        binding.map fun b =>
          { b with
            lastEventCursor := s.cursor, liveGeneration := s.liveGeneration,
            lastLiveCursor := s.liveCursor, promptActive := false }
      else binding)
  else ({ s with phase := .check }, binding)

def step (journal : List Nat) (s : Stream) (binding : Option ServiceSessionBinding) :
    Phase → StreamInput → Stream × Option ServiceSessionBinding
  | phase, .failed => (s.stop phase.answersFailure, binding)
  | _, .cancelled => (s.stop false, binding)
  | .connect, .proceed => ({ s with phase := .check }, binding)
  | .check, .proceed =>
    (if s.ownsServiceStream binding then { s with phase := .fetch }
      else s.stop false, binding)
  | .fetch, .proceed =>
    let events := afterCursor id s.cursor journal
    ({ s with
      phase := .deliver (events.take eventPageLimit), journalLength := journal.length,
      backlog := events.length }, binding)
  | .deliver [], .proceed => ({ s with phase := .live }, binding)
  | .deliver (sequence :: page), .proceed => s.deliver binding sequence page
  | .live, .live page => s.takeLive binding page
  | .status, .status ended => s.takeStatus binding ended
  | _, _ => (s, binding)

def returned : StreamInput → List (TaskId × String × Option Nat)
  | .live page =>
    if s.phase = .live then [(s.taskId, page.liveGeneration, page.cursor)]
    else []
  | _ => []

end Stream

/-! ## Handlers -/

inductive ConfigChange where
  | model (model : ModelId)
  | thoughtLevel (effort : ReasoningEffort)
  | mode (permissionMode : PermissionMode)

def ServiceSessionBinding.configure (b : ServiceSessionBinding) :
    ConfigChange → ServiceSessionBinding
  | .model model => { b with model }
  | .thoughtLevel effort => { b with effort }
  | .mode permissionMode => { b with permissionMode }

/-- `permission` waits for the service on the frontend that asks it. -/
inductive Prompt where
  | approval (displayCode : String)
  | permission (permissionMode : PermissionMode) (waits : Bool)
  | text

inductive ServiceResult where
  | accepted (taskId : TaskId)
  | applied
  | failed

/-- A handler that waits for the service, with its copy of the binding. -/
inductive Waiting where
  | configure (copy : ServiceSessionBinding)
  | prompt (copy : ServiceSessionBinding) (responseId : Nat)

structure Session where
  binding : Option ServiceSessionBinding
  waiting : Option Waiting
  streams : List Stream
  journals : TaskId → List Nat
  livePages : List (TaskId × String × Option Nat)

def Session.empty : Session := ⟨none, none, [], fun _ => [], []⟩

/-- A new session has an identifier of its own, so it finds no binding. -/
inductive Action where
  | newSession (model : ModelId) (effort : ReasoningEffort)
    (permissionMode : PermissionMode) (liveGeneration : String)
  | loadSession (model : ModelId) (effort : ReasoningEffort)
    (permissionMode : PermissionMode) (taskId : Option TaskId)
    (lastEventCursor : Option Nat) (liveGeneration : String)
    (requested : Option String) (requestedCursor : Option Nat)
  | startReplay
  | setConfig (change : ConfigChange) (supported : Bool)
  | prompt (responseId : Nat) (prompt : Prompt)
  | reply (result : ServiceResult) (liveGeneration : String)
  | record (taskId : TaskId) (gap : Nat)
  | stream (index : Nat) (input : StreamInput)

namespace Session

variable (s : Session)

def spawn (b : ServiceSessionBinding) (responseId : Option Nat) (taskId : TaskId) : Session :=
  { s with
    binding := some b
    streams := s.streams ++ [⟨responseId, taskId, b.lastEventCursor,
      b.liveGeneration, b.lastLiveCursor, b.streamGeneration, .connect, true,
      0, [], b.lastEventCursor, 0, 0⟩] }

def nextGeneration (b : ServiceSessionBinding) : Nat :=
  min (b.streamGeneration + 1) maxU64

def startServiceReplay : Session :=
  match s.binding with
  | none => s
  | some b =>
    let b := { b with streamGeneration := nextGeneration b }
    match b.taskId with
    | none => { s with binding := some b }
    | some taskId => s.spawn b none taskId

/-- The copy of a prompt takes the cursors from the binding that is there. -/
def startPoller (copy : ServiceSessionBinding) (responseId : Nat) (taskId : TaskId) : Session :=
  match s.binding with
  | none => s
  | some current =>
    s.spawn { copy with
      promptActive := true, lastEventCursor := current.lastEventCursor,
      liveGeneration := current.liveGeneration, lastLiveCursor := current.lastLiveCursor,
      streamGeneration := nextGeneration current } (some responseId) taskId

def serviceSetConfig (change : ConfigChange) (supported : Bool) : Session :=
  match s.binding with
  | none => s
  | some b =>
    let copy := b.configure change
    if ¬ supported then s
    else if copy.taskId.isSome then
      { s with waiting := some (.configure copy) }
    else { s with binding := some copy }

def startServicePrompt (responseId : Nat) (prompt : Prompt) : Session :=
  match s.binding with
  | none => s
  | some b =>
    if b.promptActive then s
    else
      match b.pendingApproval, prompt with
      | some pending, .approval displayCode =>
        if displayCode ≠ pending.displayCode then s
        else
          let copy := { b with pendingApproval := none }
          { s with waiting := some (.prompt copy responseId) }
      | some _, _ => s
      | none, .approval _ => s
      | none, .permission permissionMode waits =>
        let copy := { b with permissionMode }
        if waits then { s with waiting := some (.configure copy) }
        else { s with binding := some copy }
      | none, .text => { s with waiting := some (.prompt b responseId) }

def takeReply (result : ServiceResult) (liveGeneration : String) : Session :=
  match s.waiting, result with
  | none, _ => s
  | some (.configure copy), .applied =>
    { s with binding := some copy, waiting := none }
  | some (.prompt copy responseId), .accepted taskId =>
    { s with waiting := none }.startPoller
      { copy with
        taskId := some taskId, lastEventCursor := none, liveGeneration,
        lastLiveCursor := none } responseId taskId
  | some (.prompt copy responseId), .applied =>
    match copy.taskId with
    | none => { s with waiting := none }
    | some taskId =>
      { s with waiting := none }.startPoller copy responseId taskId
  | _, _ => { s with waiting := none }

def stepStream (index : Nat) (input : StreamInput) : Session :=
  match s.streams[index]? with
  | none => s
  | some stream =>
    if stream.running then
      let (next, binding) := stream.step (s.journals stream.taskId) s.binding stream.phase input
      { s with
        binding, streams := s.streams.set index next,
        livePages := stream.returned input ++ s.livePages }
    else s

def record (taskId : TaskId) (gap : Nat) : Session :=
  let journal := s.journals taskId
  let sequence := journal.getLast?.getD 0 + gap + 1
  { s with journals := Function.update s.journals taskId (journal ++ [sequence]) }

/-- A waiting handler keeps the connection from the next request. -/
def handle : Action → Session
  | .newSession model effort permissionMode liveGeneration =>
    if s.binding.isSome then s
    else
      { s with binding := some ⟨model, effort, permissionMode, none, none,
        liveGeneration, none, 0, false, none⟩ }
  | .loadSession model effort permissionMode taskId lastEventCursor
    liveGeneration requested requestedCursor =>
    { s with binding := some ⟨model, effort, permissionMode, taskId,
      lastEventCursor, liveGeneration,
      if requested = some liveGeneration then requestedCursor else none, 0,
      false, none⟩ }
  | .startReplay => s.startServiceReplay
  | .setConfig change supported => s.serviceSetConfig change supported
  | .prompt responseId prompt => s.startServicePrompt responseId prompt
  | _ => s

def step : Action → Session
  | .reply result liveGeneration => s.takeReply result liveGeneration
  | .record taskId gap => s.record taskId gap
  | .stream index input => s.stepStream index input
  | action => if s.waiting.isSome then s else s.handle action

end Session

def sessions : Service Session Action Unit :=
  ⟨fun s action => (s.step action, ())⟩

/-! ## What a step does -/

/-- The copy differs from the binding at most in model, effort and mode. -/
def ServiceSessionBinding.SameButConfig (b copy : ServiceSessionBinding) : Prop :=
  copy = { b with
    model := copy.model, effort := copy.effort, permissionMode := copy.permissionMode }

def ServiceSessionBinding.merge (copy current : ServiceSessionBinding)
    (taskId : TaskId) : ServiceSessionBinding :=
  { copy with
    taskId := some taskId, promptActive := true, lastEventCursor := current.lastEventCursor,
    liveGeneration := current.liveGeneration, lastLiveCursor := current.lastLiveCursor,
    streamGeneration := Session.nextGeneration current }

def Phase.page : Phase → Option (List Nat)
  | connect | check | fetch => none
  | deliver page => some page
  | live | status => some []

section Move

variable (journal : List Nat) (s : Stream) (binding : Option ServiceSessionBinding)

inductive Stream.Move :
    StreamInput → Stream → Option ServiceSessionBinding → Prop
  | failed (answered : Bool) : Move .failed (s.stop answered) binding
  | cancelled : Move .cancelled (s.stop false) binding
  | lost {input : StreamInput} (h : s.ownsServiceStream binding = false) :
    Move input (s.stop false) binding
  | moved {input : StreamInput} (phase : Phase)
    (same : phase.page = none ∨ phase.page = s.phase.page) :
    Move input { s with phase } binding
  | skipped {input : StreamInput} (sequence : Nat) (page : List Nat)
    (next : Stream) (found : s.phase = .deliver (sequence :: page))
    (old : s.cursor.any (sequence ≤ ·))
    (either : next = s.stop false ∧ s.responseId = none ∨
      next = { s with phase := .deliver page }) : Move input next binding
  | fetched {input : StreamInput} : Move input
      { s with
        phase := .deliver ((afterCursor id s.cursor journal).take eventPageLimit)
        journalLength := journal.length
        backlog := (afterCursor id s.cursor journal).length } binding
  | delivered {input : StreamInput} (sequence : Nat) (page : List Nat)
    (found : s.phase = .deliver (sequence :: page))
    (new : ¬ s.cursor.any (sequence ≤ ·)) :
    Move input
      { s with cursor := some sequence, sent := s.sent ++ [sequence], phase := .deliver page }
      (binding.map fun b => { b with lastEventCursor := some sequence })
  | live (page : LivePage) (found : s.phase = .live) (owned : s.ownsServiceStream binding) :
    Move (.live page) (s.takeLive binding page).1 (s.takeLive binding page).2
  | ended (found : s.phase = .status) : Move (.status true) (s.takeStatus binding true).1
      (s.takeStatus binding true).2

end Move

theorem Stream.step_move (journal : List Nat) (s : Stream) (binding : Option ServiceSessionBinding)
    (input : StreamInput) : s.Move journal binding input (s.step journal binding s.phase input).1
      (s.step journal binding s.phase input).2 := by
  generalize hphase : s.phase = phase
  unfold step
  split
  case h_1 => exact .failed _
  case h_2 => exact .cancelled
  case h_3 => exact .moved .check (.inl rfl)
  case h_4 =>
    split
    · exact .moved .fetch (.inl rfl)
    · rename_i howned
      exact .lost (by simpa using howned)
  case h_5 => exact .fetched
  case h_6 => exact .moved .live (.inr (by rw [hphase]; rfl))
  case h_7 sequence page =>
    unfold deliver
    split
    · rename_i hold
      refine .skipped sequence page _ hphase hold ?_
      cases hid : s.responseId with
      | none => exact .inl ⟨rfl, rfl⟩
      | some responseId => exact .inr rfl
    · rename_i hnew
      split
      · exact .delivered sequence page hphase hnew
      · rename_i howned
        exact .lost (by simpa using howned)
  case h_8 page =>
    by_cases howned : s.ownsServiceStream binding
    · exact .live page hphase howned
    · simp only [takeLive, howned]
      exact .lost (by simpa using howned)
  case h_9 ended =>
    cases ended with
    | true => exact .ended hphase
    | false => exact .moved .check (.inl rfl)
  case h_10 =>
    have hmove : s.Move journal binding input { s with phase := s.phase }
      binding := .moved s.phase (.inr rfl)
    exact hmove

inductive Effect (s : Session) : Action → Session → Prop
  | same {action : Action} : Effect s action s
  | recorded (taskId : TaskId) (gap : Nat) : Effect s (.record taskId gap) (s.record taskId gap)
  | opened {action : Action} (b : ServiceSessionBinding) (idle : s.waiting = none)
    (fresh : b.streamGeneration = 0 ∧ b.promptActive = false)
    (opens : (∃ model effort mode generation, action =
        .newSession model effort mode generation) ∧ s.binding = none ∧
        b.lastLiveCursor = none ∨
      ∃ model effort mode taskId event generation requested cursor,
        action = .loadSession model effort mode taskId event generation
          requested cursor ∧ b = ⟨model, effort, mode, taskId, event,
            generation, if requested = some generation then cursor else none,
            0, false, none⟩) :
    Effect s action { s with binding := some b }
  | configured {action : Action} (b copy : ServiceSessionBinding)
    (idle : s.waiting = none) (found : s.binding = some b) (same : b.SameButConfig copy) :
    Effect s action { s with binding := some copy }
  | waits {action : Action} (b copy : ServiceSessionBinding)
    (found : s.binding = some b) (same : b.SameButConfig copy) :
    Effect s action { s with waiting := some (.configure copy) }
  | prompts {action : Action} (b copy : ServiceSessionBinding)
    (responseId : Nat) (found : s.binding = some b)
    (idle : b.promptActive = false)
    (same : copy = { b with pendingApproval := copy.pendingApproval }) :
    Effect s action { s with waiting := some (.prompt copy responseId) }
  | applied (generation : String) (copy : ServiceSessionBinding)
    (waited : s.waiting = some (.configure copy)) :
    Effect s (.reply .applied generation) { s with binding := some copy, waiting := none }
  | gaveUp {action : Action} : Effect s action { s with waiting := none }
  | advanced (b : ServiceSessionBinding) (idle : s.waiting = none) (found : s.binding = some b) :
    Effect s .startReplay { s with
      binding := some { b with streamGeneration := Session.nextGeneration b } }
  | replayed (b : ServiceSessionBinding) (taskId : TaskId)
    (idle : s.waiting = none) (found : s.binding = some b)
    (bound : b.taskId = some taskId) :
    Effect s .startReplay (s.spawn
      { b with streamGeneration := Session.nextGeneration b } none taskId)
  | polled (result : ServiceResult) (generation : String) (responseId : Nat)
    (taskId : TaskId) (copy current : ServiceSessionBinding)
    (waited : s.waiting = some (.prompt copy responseId))
    (found : s.binding = some current)
    (fate : result = .accepted taskId ∨ copy.taskId = some taskId) :
    Effect s (.reply result generation)
      ({ s with waiting := none }.spawn (copy.merge current taskId) (some responseId) taskId)
  | streamed (index : Nat) (input : StreamInput) (stream next : Stream)
    (binding : Option ServiceSessionBinding)
    (found : s.streams[index]? = some stream) (running : stream.running)
    (move : stream.Move (s.journals stream.taskId) s.binding input next binding) :
    Effect s (.stream index input)
      { s with
        binding, streams := s.streams.set index next,
        livePages := stream.returned input ++ s.livePages }

namespace Session

theorem takeReply_effect (s : Session) (result : ServiceResult) (generation : String) :
    Effect s (.reply result generation) (s.takeReply result generation) := by
  unfold takeReply startPoller
  split
  · exact .same
  · rename_i copy hwaiting
    exact .applied generation copy hwaiting
  · rename_i copy responseId taskId hwaiting
    split
    · exact .gaveUp
    · rename_i current hbinding
      exact .polled _ generation responseId taskId copy current hwaiting hbinding (.inl rfl)
  · rename_i copy responseId hwaiting
    split
    · exact .gaveUp
    · rename_i taskId htask
      split
      · exact .gaveUp
      · rename_i current hbinding
        have heffect := Effect.polled .applied generation responseId taskId
          copy current hwaiting hbinding (.inr htask)
        rw [ServiceSessionBinding.merge, ← htask] at heffect
        exact heffect
  · exact .gaveUp

theorem handle_effect (s : Session) (action : Action)
    (hidle : s.waiting = none) : Effect s action (s.handle action) := by
  cases action with
  | newSession model effort mode generation =>
    simp only [handle]
    split
    · exact .same
    · rename_i hbinding
      refine .opened _ hidle ⟨rfl, rfl⟩ (.inl ⟨⟨_, _, _, _, rfl⟩, ?_, rfl⟩)
      simpa using hbinding
  | loadSession model effort mode taskId event generation requested cursor =>
    exact .opened _ hidle ⟨rfl, rfl⟩ (.inr ⟨_, _, _, _, _, _, _, _, rfl, rfl⟩)
  | startReplay =>
    simp only [handle, startServiceReplay]
    split
    · exact .same
    · rename_i b hbinding
      split
      · exact .advanced b hidle hbinding
      · rename_i taskId htask
        exact .replayed b taskId hidle hbinding htask
  | setConfig change supported =>
    simp only [handle, serviceSetConfig]
    split
    · exact .same
    · rename_i b hbinding
      have hsame : b.SameButConfig (b.configure change) := by
        cases change <;> rfl
      split
      · exact .same
      · split
        · exact .waits b _ hbinding hsame
        · exact .configured b _ hidle hbinding hsame
  | prompt responseId prompt =>
    simp only [handle, startServicePrompt]
    split
    · exact .same
    · rename_i b hbinding
      split
      · exact .same
      · rename_i hactive
        have hquiet : b.promptActive = false := by simpa using hactive
        split
        · split
          · exact .same
          · exact .prompts b { b with pendingApproval := none } responseId hbinding hquiet rfl
        · exact .same
        · exact .same
        · rename_i mode waits _
          have hsame : b.SameButConfig { b with permissionMode := mode } := rfl
          split
          · exact .waits b _ hbinding hsame
          · exact .configured b _ hidle hbinding hsame
        · exact .prompts b b responseId hbinding hquiet rfl
  | _ => exact .same

theorem step_effect (s : Session) (action : Action) : Effect s action (s.step action) := by
  have hhandle : Effect s action (if s.waiting.isSome then s else s.handle action) := by
    split
    · exact .same
    · rename_i hwaiting
      exact s.handle_effect action (by simpa using hwaiting)
  cases action with
  | reply result generation => exact s.takeReply_effect result generation
  | record taskId gap => exact .recorded taskId gap
  | stream index input =>
    simp only [step, stepStream]
    split
    · exact .same
    · rename_i stream hstream
      split
      · rename_i hrunning
        exact .streamed index input stream _ _ hstream hrunning (stream.step_move _ _ input)
      · exact .same
  | _ => exact hhandle

end Session

end CarlAgent.Acp
