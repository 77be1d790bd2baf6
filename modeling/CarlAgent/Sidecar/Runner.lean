import CarlAgent.Sidecar.Jsonl

/-!
# The JSON-lines runner

A reader task turns the standard output of a child into messages on a bounded
channel; a supervisor moves them to the event queue of the caller and decides
the outcome, racing the channel against the exit of the child.  Every step of
the two tasks, of the child and of the caller is an action, and a run is any
list of them.
-/

namespace CarlAgent.Sidecar

open Foundation

def eventChannelCapacity : Nat := 64

inductive SidecarErrorCode where
  | protocolViolation
  deriving DecidableEq, Repr

inductive JsonlProcessOutcome where
  | succeeded
  | failed
  | cancelled
  | protocolFailed
  | timedOut
  deriving DecidableEq, Repr

inductive Reader where
  | reading (fills : List (Fill UInt8))
  | sending (message : StdoutMessage) (next : Option (List (Fill UInt8)))
  | finished

inductive Supervisor where
  | supervising
  | waitingForExit
  | draining (success : Bool)
  | stopped (outcome : JsonlProcessOutcome)
  deriving DecidableEq, Repr

/-- The two tasks, their channels, what the caller has taken from the event
queue, and the exit status of the child once it has one. -/
structure Runner where
  reader : Reader
  channel : List StdoutMessage
  supervisor : Supervisor
  events : List (Except SidecarErrorCode Json)
  received : List (Except SidecarErrorCode Json)
  exited : Option Bool

namespace Runner

def spawn (fills : List (Fill UInt8)) : Runner :=
  { reader := .reading fills, channel := [], supervisor := .supervising, events := [],
    received := [], exited := none }

variable (runner : Runner)

def delivered : List (Except SidecarErrorCode Json) :=
  runner.received ++ runner.events

def outcome : Option JsonlProcessOutcome :=
  match runner.supervisor with
  | .stopped outcome => some outcome
  | _ => none

def stop (outcome : JsonlProcessOutcome) : Runner :=
  { runner with supervisor := .stopped outcome }

def trySend (event : Except SidecarErrorCode Json) : Option Runner :=
  if runner.events.length < eventChannelCapacity then
    some { runner with events := runner.events ++ [event] }
  else none

def tryWait (fails : Bool) : Except Unit (Option Bool) :=
  if fails then .error () else .ok runner.exited

def protocolFailure : Runner :=
  ((runner.trySend (.error .protocolViolation)).getD runner).stop .protocolFailed

def exitOutcome (success : Bool) : JsonlProcessOutcome :=
  if success then .succeeded else .failed

def superviseMessage : StdoutMessage → Runner
  | .event value =>
    match runner.trySend (.ok value) with
    | some sent => sent
    | none => runner.protocolFailure
  | .eof => { runner with supervisor := .waitingForExit }
  | .protocolFailed => runner.protocolFailure

def drainMessage (success : Bool) : StdoutMessage → Runner
  | .event value =>
    match runner.trySend (.ok value) with
    | some sent => sent
    | none => runner.stop .protocolFailed
  | .eof => runner.stop (exitOutcome success)
  | .protocolFailed =>
    ((runner.trySend (.error .protocolViolation)).getD runner).stop .protocolFailed

def closed : Bool :=
  match runner.reader with
  | .finished => true
  | _ => false

inductive Action where
  | read
  | send
  | receive
  /-- A poll interval passes, and perhaps the deadline of the supervisor. -/
  | poll (fails elapsed : Bool)
  | exit (success : Bool)
  | nextEvent
  | cancel

variable (decode : Bytes → Option Json)

def read (maximumLineBytes : Nat) (runner : Runner) : Runner :=
  match runner.reader with
  | .reading fills =>
    let turn := readStdout decode maximumLineBytes fills
    { runner with reader := .sending turn.1 turn.2 }
  | _ => runner

/-- The reader waits for room in the channel, and ends when the supervisor
has dropped the receiver. -/
def send : Runner :=
  match runner.reader with
  | .sending message next =>
    if runner.outcome.isSome then { runner with reader := .finished }
    else if runner.channel.length < eventChannelCapacity then
      { runner with
        channel := runner.channel ++ [message]
        reader :=
          match next with
          | some rest => .reading rest
          | none => .finished }
    else runner
  | _ => runner

def receive : Runner :=
  match runner.supervisor, runner.channel with
  | .supervising, message :: rest =>
    superviseMessage { runner with channel := rest } message
  | .supervising, [] =>
    if runner.closed then runner.protocolFailure else runner
  | .draining success, message :: rest =>
    drainMessage { runner with channel := rest } success message
  | .draining success, [] =>
    if runner.closed then runner.stop (exitOutcome success) else runner
  | .waitingForExit, _ => runner
  | .stopped _, _ => runner

def poll (fails elapsed : Bool) (runner : Runner) : Runner :=
  match runner.supervisor with
  | .supervising =>
    match runner.tryWait fails with
    | .ok (some success) => { runner with supervisor := .draining success }
    | .ok none => runner
    | .error () => runner.protocolFailure
  | .waitingForExit =>
    match runner.tryWait fails with
    | .ok (some success) => runner.stop (exitOutcome success)
    | .ok none => if elapsed then runner.stop .timedOut else runner
    | .error () => runner.stop .protocolFailed
  | .draining _ => if elapsed then runner.stop .timedOut else runner
  | .stopped _ => runner

def nextEvent : Runner :=
  match runner.events with
  | [] => runner
  | event :: rest =>
    { runner with received := runner.received ++ [event], events := rest }

/-- The reader and the supervisor are aborted, unless the latter is done. -/
def cancel : Runner :=
  match runner.supervisor with
  | .stopped _ => runner
  | _ => { runner.stop .cancelled with reader := .finished }

def step (maximumLineBytes : Nat) (runner : Runner) : Action → Runner
  | .read => runner.read decode maximumLineBytes
  | .send => runner.send
  | .receive => runner.receive
  | .poll fails elapsed => runner.poll fails elapsed
  | .exit success =>
    { runner with exited := some (runner.exited.getD success) }
  | .nextEvent => runner.nextEvent
  | .cancel => runner.cancel

def run (maximumLineBytes : Nat)
    (runner : Runner) (actions : List Action) : Runner :=
  actions.foldl (step decode maximumLineBytes) runner

/-! ## Nothing is lost between the output and the caller -/

section Invariant

variable (decode : Bytes → Option Json) (maximumLineBytes : Nat)

def ahead (runner : Runner) : Option (List Json) :=
  let next := fun fills =>
    streamObjects decode maximumLineBytes (Stream.ofFills fills)
  match runner.reader with
  | .reading fills => objectsAhead (next fills) runner.channel
  | .sending message rest =>
    objectsAhead (rest.bind next) (runner.channel ++ [message])
  | .finished => objectsAhead none runner.channel

def endsStream : StdoutMessage → Bool
  | .event _ => false
  | .eof => true
  | .protocolFailed => true

/-- Delivered objects and those ahead make up the output; a reader that has
ended has said so on the channel. -/
structure Flowing (output : Option (List Json)) (runner : Runner) : Prop where
  objects : ∃ objects, runner.delivered = objects.map .ok ∧
    (runner.ahead decode maximumLineBytes).map (objects ++ ·) = output
  sending : ∀ message, runner.reader = .sending message none → endsStream message = true
  finished : runner.reader = .finished → ∃ message ∈ runner.channel, endsStream message = true

def Complete (output : Option (List Json)) (runner : Runner) : Prop :=
  ∃ objects, output = some objects ∧ runner.delivered = objects.map .ok

def Sound (output : Option (List Json)) (runner : Runner) : Prop :=
  match runner.supervisor with
  | .supervising => runner.Flowing decode maximumLineBytes output
  | .draining success =>
    runner.exited = some success ∧ runner.Flowing decode maximumLineBytes output
  | .waitingForExit => runner.Complete output
  | .stopped .succeeded => runner.exited = some true ∧ runner.Complete output
  | .stopped _ => True

variable {decode maximumLineBytes} {output : Option (List Json)}
  {runner : Runner}

theorem objectsAhead_append (rest : Option (List Json)) (first second : List StdoutMessage) :
    objectsAhead rest (first ++ second) = objectsAhead (objectsAhead rest second) first := by
  induction first with
  | nil => rfl
  | cons message first ih =>
    cases message with
    | event value => simp [objectsAhead, ih]
    | eof => rfl
    | protocolFailed => rfl

theorem endsStream_readStdout {fills : List (Fill UInt8)}
    (h : (readStdout decode maximumLineBytes fills).2 = none) :
    endsStream (readStdout decode maximumLineBytes fills).1 = true := by
  unfold readStdout at h ⊢
  cases hread : readBoundedLine maximumLineBytes [] fills with
  | error error => rfl
  | ok read =>
    obtain ⟨found, rest⟩ := read
    cases found with
    | none => rfl
    | some line =>
      simp only [hread] at h ⊢
      cases hevent : lineEvent decode line with
      | none => rfl
      | some event => simp [hevent] at h

section

variable (h : runner.Flowing decode maximumLineBytes output)
include h

theorem Flowing.congr {other : Runner} (hreader : other.reader = runner.reader)
    (hchannel : other.channel = runner.channel) (hdelivered : other.delivered = runner.delivered) :
    other.Flowing decode maximumLineBytes output := by
  obtain ⟨objects, hobjects, hahead⟩ := h.objects
  refine ⟨⟨objects, hdelivered.trans hobjects, ?_⟩, ?_, ?_⟩
  · rw [← hahead]
    simp only [ahead, hreader, hchannel]
  · rw [hreader]
    exact h.sending
  · rw [hreader, hchannel]
    exact h.finished

theorem Flowing.read :
    (runner.read decode maximumLineBytes).Flowing decode maximumLineBytes output := by
  unfold Runner.read
  cases hreader : runner.reader with
  | finished => exact h
  | sending message next => exact h
  | reading fills =>
    refine ⟨?_, ?_, ?_⟩
    · obtain ⟨objects, hdelivered, hahead⟩ := h.objects
      refine ⟨objects, hdelivered, ?_⟩
      rw [← hahead]
      simp only [ahead, hreader, objectsAhead_append, objectsAhead_readStdout]
    · intro message hsending
      simp only [Reader.sending.injEq] at hsending
      rw [← hsending.1]
      exact endsStream_readStdout hsending.2
    · simp

theorem Flowing.send (hrunning : runner.outcome = none) :
    runner.send.Flowing decode maximumLineBytes output := by
  unfold Runner.send
  cases hreader : runner.reader with
  | finished => exact h
  | reading fills => exact h
  | sending message next =>
    simp only [hrunning, Option.isSome_none, Bool.false_eq_true, if_false]
    split
    · obtain ⟨objects, hdelivered, hahead⟩ := h.objects
      refine ⟨⟨objects, hdelivered, ?_⟩, ?_, ?_⟩
      · rw [← hahead]
        cases next <;> simp [ahead, hreader]
      · cases next <;> simp
      · cases next with
        | some rest => simp
        | none =>
          intro _
          exact ⟨message, by simp, h.sending message hreader⟩
    · exact h

theorem Flowing.event {value : Json} {rest : List StdoutMessage}
    (hchannel : runner.channel = .event value :: rest) :
    { runner with
      channel := rest, events := runner.events ++ [Except.ok value] : Runner }.Flowing decode
        maximumLineBytes output := by
  obtain ⟨objects, hdelivered, hahead⟩ := h.objects
  refine ⟨⟨objects ++ [value], ?_, ?_⟩, h.sending, ?_⟩
  · rw [delivered, ← List.append_assoc, List.map_append]
    exact congrArg (· ++ [Except.ok value]) hdelivered
  · rw [← hahead]
    cases hreader : runner.reader <;>
      simp [ahead, hreader, hchannel, objectsAhead, Function.comp_def]
  · intro hfinished
    obtain ⟨message, hmem, hends⟩ := h.finished hfinished
    rw [hchannel, List.mem_cons] at hmem
    rcases hmem with rfl | hmem
    · simp [endsStream] at hends
    · exact ⟨message, hmem, hends⟩

theorem Flowing.eof {rest : List StdoutMessage}
    (hchannel : runner.channel = .eof :: rest) : runner.Complete output := by
  obtain ⟨objects, hdelivered, hahead⟩ := h.objects
  refine ⟨objects, ?_, hdelivered⟩
  rw [← hahead]
  cases hreader : runner.reader <;> simp [ahead, hreader, hchannel, objectsAhead]

theorem Flowing.closed_eq_false (hchannel : runner.channel = []) : runner.closed = false := by
  cases hreader : runner.reader with
  | finished =>
    obtain ⟨message, hmem, -⟩ := h.finished hreader
    simp [hchannel] at hmem
  | reading fills | sending message next => simp [closed, hreader]

end

theorem sound_protocolFailure (runner : Runner) :
    runner.protocolFailure.Sound decode maximumLineBytes output := by
  simp [protocolFailure, stop, Sound]

variable {rest : List StdoutMessage} {message : StdoutMessage} {success : Bool}

theorem Complete.exitOutcome (h : runner.Complete output) (hexited : runner.exited = some success) :
    (runner.stop (exitOutcome success)).Sound decode maximumLineBytes output := by
  cases success with
  | false => simp [Runner.exitOutcome, stop, Sound]
  | true => exact ⟨hexited, h⟩

theorem Sound.superviseMessage (h : runner.Flowing decode maximumLineBytes output)
    (hsupervisor : runner.supervisor = .supervising) (hchannel : runner.channel = message :: rest) :
    (Runner.superviseMessage { runner with channel := rest } message).Sound
      decode maximumLineBytes output := by
  cases message with
  | event value =>
    simp only [Runner.superviseMessage, trySend]
    split
    case h_1 sent hsent =>
      split at hsent
      · cases hsent
        simpa [Sound, hsupervisor] using h.event hchannel
      · cases hsent
    case h_2 => exact sound_protocolFailure _
  | eof => exact h.eof hchannel
  | protocolFailed => exact sound_protocolFailure _

theorem Sound.drainMessage (h : runner.Flowing decode maximumLineBytes output)
    (hsupervisor : runner.supervisor = .draining success) (hexited : runner.exited = some success)
    (hchannel : runner.channel = message :: rest) :
    (Runner.drainMessage { runner with channel := rest } success message).Sound
      decode maximumLineBytes output := by
  cases message with
  | event value =>
    simp only [Runner.drainMessage, trySend]
    split
    case h_1 sent hsent =>
      split at hsent
      · cases hsent
        simp only [Sound, hsupervisor]
        exact ⟨hexited, (h.event hchannel).congr rfl rfl rfl⟩
      · cases hsent
    case h_2 => simp [stop, Sound]
  | eof =>
    apply Complete.exitOutcome
    · exact h.eof hchannel
    · exact hexited
  | protocolFailed => simp [Runner.drainMessage, stop, Sound]

theorem Sound.receive (h : runner.Sound decode maximumLineBytes output) :
    runner.receive.Sound decode maximumLineBytes output := by
  unfold Runner.receive
  split
  case h_1 message rest hsupervisor hchannel =>
    simp only [Sound, hsupervisor] at h
    exact Sound.superviseMessage h hsupervisor hchannel
  case h_2 hsupervisor hchannel =>
    split
    · exact sound_protocolFailure _
    · exact h
  case h_3 success message rest hsupervisor hchannel =>
    simp only [Sound, hsupervisor] at h
    exact Sound.drainMessage h.2 hsupervisor h.1 hchannel
  case h_4 success hsupervisor hchannel =>
    have hflowing := h
    simp only [Sound, hsupervisor] at hflowing
    rw [hflowing.2.closed_eq_false hchannel]
    exact h
  case h_5 => exact h
  case h_6 => exact h

theorem Sound.poll (fails elapsed : Bool) (h : runner.Sound decode maximumLineBytes output) :
    (runner.poll fails elapsed).Sound decode maximumLineBytes output := by
  unfold Runner.poll
  cases hsupervisor : runner.supervisor with
  | stopped outcome => exact h
  | draining success =>
    cases elapsed with
    | true => simp [stop, Sound]
    | false => exact h
  | supervising =>
    have hflowing := h
    simp only [Sound, hsupervisor] at hflowing
    cases fails with
    | true => exact sound_protocolFailure _
    | false =>
      cases hexited : runner.exited with
      | none => simpa [tryWait, hexited] using h
      | some success =>
        simp only [tryWait, hexited, Bool.false_eq_true, if_false, Sound, true_and]
        exact hflowing.congr rfl rfl rfl
  | waitingForExit =>
    have hcomplete := h
    simp only [Sound, hsupervisor] at hcomplete
    cases fails with
    | true => simp [tryWait, stop, Sound]
    | false =>
      cases hexited : runner.exited with
      | none =>
        cases elapsed with
        | true => simp [tryWait, hexited, stop, Sound]
        | false => simpa [tryWait, hexited] using h
      | some success =>
        simpa [tryWait, hexited] using hcomplete.exitOutcome hexited

theorem Sound.of_frame {other : Runner} (h : runner.Sound decode maximumLineBytes output)
    (hsupervisor : other.supervisor = runner.supervisor)
    (hdelivered : other.delivered = runner.delivered)
    (hexited : ∀ success, runner.exited = some success → other.exited = some success)
    (hflowing : runner.outcome = none →
      runner.Flowing decode maximumLineBytes output →
        other.Flowing decode maximumLineBytes output) :
    other.Sound decode maximumLineBytes output := by
  have hcomplete : runner.Complete output → other.Complete output := by
    simp [Complete, hdelivered]
  unfold Sound at h ⊢
  rw [hsupervisor]
  cases hcase : runner.supervisor with
  | supervising =>
    simp only [hcase] at h ⊢
    exact hflowing (by simp [outcome, hcase]) h
  | draining success =>
    simp only [hcase] at h ⊢
    exact ⟨hexited success h.1, hflowing (by simp [outcome, hcase]) h.2⟩
  | waitingForExit =>
    simp only [hcase] at h ⊢
    exact hcomplete h
  | stopped outcome =>
    simp only [hcase] at h ⊢
    cases outcome with
    | succeeded => exact ⟨hexited true h.1, hcomplete h.2⟩
    | _ => trivial

theorem read_frame : (runner.read decode maximumLineBytes).supervisor = runner.supervisor ∧
    (runner.read decode maximumLineBytes).delivered = runner.delivered ∧
    (runner.read decode maximumLineBytes).exited = runner.exited := by
  unfold Runner.read
  cases runner.reader <;> exact ⟨rfl, rfl, rfl⟩

theorem send_frame : runner.send.supervisor = runner.supervisor ∧
    runner.send.delivered = runner.delivered ∧
    runner.send.exited = runner.exited := by
  unfold Runner.send
  cases runner.reader with
  | reading fills | finished => exact ⟨rfl, rfl, rfl⟩
  | sending message next =>
    by_cases hstopped : runner.outcome.isSome
    · simp [hstopped, delivered]
    · by_cases hroom : runner.channel.length < eventChannelCapacity <;>
        simp [hstopped, hroom, delivered]

theorem nextEvent_frame : runner.nextEvent.supervisor = runner.supervisor ∧
    runner.nextEvent.delivered = runner.delivered ∧
    runner.nextEvent.exited = runner.exited := by
  unfold Runner.nextEvent
  cases hevents : runner.events with
  | nil => exact ⟨rfl, rfl, rfl⟩
  | cons event rest => simp [delivered, hevents]

theorem Flowing.nextEvent (h : runner.Flowing decode maximumLineBytes output) :
    runner.nextEvent.Flowing decode maximumLineBytes output := by
  apply h.congr
  · unfold Runner.nextEvent
    split <;> rfl
  · unfold Runner.nextEvent
    split <;> rfl
  · exact nextEvent_frame.2.1

theorem Sound.cancel (h : runner.Sound decode maximumLineBytes output) :
    runner.cancel.Sound decode maximumLineBytes output := by
  unfold Runner.cancel
  cases hsupervisor : runner.supervisor with
  | stopped outcome => exact h
  | supervising | draining success | waitingForExit => trivial

theorem Sound.step (action : Action) (h : runner.Sound decode maximumLineBytes output) :
    (runner.step decode maximumLineBytes action).Sound decode maximumLineBytes output := by
  cases action with
  | read =>
    obtain ⟨hsupervisor, hdelivered, hexited⟩ := @read_frame decode maximumLineBytes runner
    exact h.of_frame hsupervisor hdelivered (fun _ => hexited.trans) fun _ => Flowing.read
  | send =>
    obtain ⟨hsupervisor, hdelivered, hexited⟩ := @send_frame runner
    exact h.of_frame hsupervisor hdelivered (fun _ => hexited.trans)
      fun hrunning hflowing => hflowing.send hrunning
  | receive => exact h.receive
  | poll fails elapsed => exact h.poll fails elapsed
  | exit success =>
    apply h.of_frame
    · rfl
    · rfl
    · intro before hbefore
      simp [Runner.step, hbefore]
    · exact fun _ hflowing => hflowing.congr rfl rfl rfl
  | nextEvent =>
    obtain ⟨hsupervisor, hdelivered, hexited⟩ := @nextEvent_frame runner
    exact h.of_frame hsupervisor hdelivered (fun _ => hexited.trans) fun _ => Flowing.nextEvent
  | cancel => exact h.cancel

theorem Sound.run (actions : List Action) (h : runner.Sound decode maximumLineBytes output) :
    (runner.run decode maximumLineBytes actions).Sound decode maximumLineBytes output := by
  induction actions generalizing runner with
  | nil => exact h
  | cons action actions ih => exact ih (h.step action)

theorem sound_spawn (fills : List (Fill UInt8)) : (spawn fills).Sound decode maximumLineBytes
      (streamObjects decode maximumLineBytes (Stream.ofFills fills)) := by
  refine ⟨⟨[], rfl, ?_⟩, ?_, ?_⟩
  · simp [ahead, spawn, objectsAhead]
  · simp [spawn]
  · simp [spawn]

/-- Success means that the child exited well and that the caller was handed
every object of the whole output, in order, whatever the fills and the
timing; and the lines read do not depend on the fills. -/
theorem run_succeeded (decode : Bytes → Option Json) (maximumLineBytes : Nat)
    (fills : List (Fill UInt8)) :
    (∀ actions, ((spawn fills).run decode maximumLineBytes actions).outcome = some .succeeded →
        ((spawn fills).run decode maximumLineBytes actions).exited = some true ∧
          ∃ objects, streamObjects decode maximumLineBytes (Stream.ofFills fills) = some objects ∧
            ((spawn fills).run decode maximumLineBytes actions).delivered = objects.map .ok) ∧
    ∀ others, Stream.ofFills others = Stream.ofFills fills →
      ∀ count, readLines maximumLineBytes count others =
        readLines maximumLineBytes count fills := by
  constructor
  · intro actions hsucceeded
    have hsound := (@sound_spawn decode maximumLineBytes fills).run actions
    generalize (spawn fills).run decode maximumLineBytes actions = final at *
    unfold outcome at hsucceeded
    unfold Sound at hsound
    cases hsupervisor : final.supervisor with
    | stopped reported =>
      simp only [hsupervisor, Option.some.injEq] at hsucceeded
      subst hsucceeded
      simp only [hsupervisor] at hsound
      exact hsound
    | supervising | draining success | waitingForExit => simp [hsupervisor] at hsucceeded
  · intro others h count
    exact readLines_congr h count

theorem run_succeeded_two_fills : ∃ decode : Bytes → Option Json,
      ((spawn [.items [0x7b], .items [0x7d, 0x0a]]).run decode 16
        [.read, .send, .receive, .read, .send, .receive, .exit true,
          .poll false false]).delivered = [.ok (.obj [])] ∧
      readLines 16 2 [.items [0x7b], .items [0x7d, 0x0a]] =
        readLines 16 2 [.items [0x7b, 0x7d, 0x0a]] := by
  refine ⟨fun line => if line = [0x7b, 0x7d] then some (.obj []) else none, ?_, ?_⟩
  · obtain ⟨-, objects, hobjects, hdelivered⟩ :=
      (run_succeeded (fun line => if line = [0x7b, 0x7d] then some (.obj []) else none) 16
        [.items [0x7b], .items [0x7d, 0x0a]]).1
        [.read, .send, .receive, .read, .send, .receive, .exit true, .poll false false] rfl
    cases hobjects
    exact hdelivered
  · exact (run_succeeded (fun _ => none) 16 [.items [0x7b, 0x7d, 0x0a]]).2
      [.items [0x7b], .items [0x7d, 0x0a]] rfl 2

end Invariant

end Runner

end CarlAgent.Sidecar
