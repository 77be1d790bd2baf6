import CarlAgent.Acp.Ownership

/-!
# Prompts one after another

A poller starts where the binding says that the client has got to.  It marks
the binding active until it has answered its prompt.
-/

namespace CarlAgent.Acp

open List Foundation CarlAgent.Task Session

variable {s : Session} {stream next : Stream} {journal : List Nat}
  {input : StreamInput} {binding binding' : Option ServiceSessionBinding}

def ServiceSessionBinding.livePosition (b : ServiceSessionBinding) : String × Option Nat :=
  (b.liveGeneration, b.lastLiveCursor)

def Stream.livePosition (s : Stream) : String × Option Nat :=
  (s.liveGeneration, s.liveCursor)

/-- The cursor is absent or was returned for the task. -/
def Returned (pages : List (TaskId × String × Option Nat))
    (taskId : Option TaskId) (position : String × Option Nat) : Prop :=
  position.2 = none ∨ ∃ t, taskId = some t ∧ (t, position) ∈ pages

def Waiting.copy : Waiting → ServiceSessionBinding
  | configure copy => copy
  | prompt copy _ => copy

structure Session.Traced (s : Session) : Prop where
  ordered : s.Ordered
  bound : ∀ b, s.binding = some b → Returned s.livePages b.taskId b.livePosition
  copied : ∀ waiting, s.waiting = some waiting → ∃ b, s.binding = some b ∧
    waiting.copy.taskId = b.taskId ∧
    Returned s.livePages b.taskId waiting.copy.livePosition
  streams : ∀ stream ∈ s.streams, Returned s.livePages (some stream.taskId) stream.livePosition
  owned : ∀ stream ∈ s.streams, ∀ b, s.binding = some b →
    b.streamGeneration = stream.generation → b.taskId = some stream.taskId

/-- A task that the service accepts finds no live cursor of another task, and
a session that is loaded brings none along. -/
def Session.keepsLiveCursor (s : Session) (action : Action) : Bool :=
  s.keepsGenerations action && match action with
    | .loadSession _ _ _ _ _ _ _ cursor => cursor.isNone
    | .reply (.accepted taskId) _ => s.binding.all fun b =>
      b.lastLiveCursor.isNone || b.taskId == some taskId
    | _ => true

theorem Returned.mono {pages : List (TaskId × String × Option Nat)} {taskId : Option TaskId}
    {position : String × Option Nat} (h : Returned pages taskId position)
    (more : List (TaskId × String × Option Nat)) : Returned (more ++ pages) taskId position := by
  rcases h with hnone | ⟨t, htask, hmem⟩
  · exact .inl hnone
  · exact .inr ⟨t, htask, mem_append_right _ hmem⟩

theorem Stream.Move.livePosition (h : stream.Move journal binding input next binding') :
    (next.livePosition = stream.livePosition ∨
      (stream.taskId, next.livePosition) ∈ stream.returned input) ∧
    ∀ b', binding' = some b' → ∃ b, binding = some b ∧
      (b'.livePosition = b.livePosition ∨
        b.streamGeneration = stream.generation ∧ b'.livePosition = next.livePosition) := by
  have hkept : ∀ b', binding = some b' → ∃ b, binding = some b ∧
      (b'.livePosition = b.livePosition ∨
        b.streamGeneration = stream.generation ∧ b'.livePosition = next.livePosition) :=
    fun b hb => ⟨b, hb, .inl rfl⟩
  cases h with
  | skipped sequence page _ found old either =>
    rcases either with ⟨rfl, -⟩ | rfl
    · exact ⟨.inl rfl, hkept⟩
    · exact ⟨.inl rfl, hkept⟩
  | delivered =>
    refine ⟨.inl rfl, fun b' hb' => ?_⟩
    obtain ⟨b, hb, rfl⟩ := Option.map_eq_some_iff.mp hb'
    exact ⟨b, hb, .inl rfl⟩
  | live page found owned =>
    simp only [takeLive, owned, if_true]
    refine ⟨.inr ?_, fun b' hb' => ?_⟩
    · simp [returned, found, Stream.livePosition]
    · obtain ⟨b, hb, rfl⟩ := Option.map_eq_some_iff.mp hb'
      exact ⟨b, hb, .inr ⟨by simpa [ownsServiceStream, hb] using owned, rfl⟩⟩
  | ended =>
    simp only [takeStatus, if_true]
    split
    · rename_i howns
      refine ⟨.inl rfl, fun b' hb' => ?_⟩
      obtain ⟨b, hb, rfl⟩ := Option.map_eq_some_iff.mp hb'
      refine ⟨b, hb, .inr ⟨?_, rfl⟩⟩
      simpa [ownsServiceStream, hb] using howns.2
    · exact ⟨.inl rfl, hkept⟩
  | _ => exact ⟨.inl rfl, hkept⟩

variable {b current : ServiceSessionBinding} {action : Action}

theorem Session.Ordered.not_owned (h : s.Ordered)
    (hfound : s.binding = some current) (hlt : current.streamGeneration < b.streamGeneration)
    (hstream : stream ∈ s.streams) : b.streamGeneration ≠ stream.generation := by
  obtain ⟨b₀, hb₀, hle⟩ := h.bounded _ (mem_map_of_mem hstream)
  rw [hfound] at hb₀
  cases hb₀
  omega

theorem Session.Traced.spawn {taskId : TaskId} (h : s.Traced) (hfound : s.binding = some current)
    (hlt : current.streamGeneration < b.streamGeneration) (hidle : s.waiting = none)
    (htask : b.taskId = some taskId) (hcursor : Returned s.livePages (some taskId) b.livePosition)
    (responseId : Option Nat) : (s.spawn b responseId taskId).Traced := by
  refine ⟨h.ordered.spawn hfound hlt hidle responseId taskId, ?_, ?_, ?_, ?_⟩
  · rintro _ ⟨⟩
    exact htask ▸ hcursor
  · intro waiting hwaiting
    exact absurd (hidle.symm.trans hwaiting) (by simp)
  · intro stream hstream
    rcases mem_append.mp hstream with hstream | hstream
    · exact h.streams stream hstream
    · rw [mem_singleton.mp hstream]
      exact hcursor
  · rintro stream hstream _ ⟨⟩ hsame
    rcases mem_append.mp hstream with hstream | hstream
    · exact absurd hsame (h.ordered.not_owned hfound hlt hstream)
    · rw [mem_singleton.mp hstream]
      exact htask

theorem Session.Traced.step (h : s.Traced)
    (hguard : s.keepsLiveCursor action) : (s.step action).Traced := by
  obtain ⟨hroom, hcursor⟩ := (Bool.and_eq_true _ _).mp hguard
  have hordered := h.ordered.step hroom
  have heffect := s.step_effect action
  generalize s.step action = after at heffect hordered
  cases heffect with
  | same => exact h
  | recorded => exact ⟨hordered, h.bound, h.copied, h.streams, h.owned⟩
  | opened b idle fresh opens =>
    have hnew : s.binding = none ∧ b.lastLiveCursor = none := by
      rcases opens with ⟨-, hnone⟩ | ⟨_, _, _, _, _, _, _, _, rfl, rfl⟩
      · exact hnone
      · simp_all [keepsGenerations]
    refine ⟨hordered, ?_, by simp [idle], h.streams, ?_⟩
    · rintro _ ⟨⟩
      exact .inl hnew.2
    · intro stream hstream
      obtain ⟨b₀, hb₀, -⟩ := h.ordered.bounded _ (mem_map_of_mem hstream)
      rw [hnew.1] at hb₀
      cases hb₀
  | configured b copy idle found same =>
    rw [same] at hordered ⊢
    refine ⟨hordered, ?_, by simp [idle], h.streams, ?_⟩
    · rintro _ ⟨⟩
      exact h.bound b found
    · rintro stream hstream _ ⟨⟩
      exact h.owned stream hstream b found
  | waits b copy found same | prompts b copy responseId found idle same =>
    refine ⟨hordered, h.bound, ?_, h.streams, h.owned⟩
    rintro _ ⟨⟩
    refine ⟨b, found, ?_⟩
    rw [Waiting.copy, same]
    exact ⟨rfl, h.bound b found⟩
  | applied generation copy waited =>
    obtain ⟨b, hb, htask, hcopy⟩ := h.copied _ waited
    obtain ⟨b₀, hb₀, hsame⟩ := h.ordered.copied copy waited
    rw [hb] at hb₀
    cases hb₀
    refine ⟨hordered, ?_, by simp, h.streams, ?_⟩
    · rintro _ ⟨⟩
      exact htask ▸ hcopy
    · rintro stream hstream _ ⟨⟩ howned
      exact htask.trans (h.owned stream hstream b hb (hsame ▸ howned))
  | gaveUp => exact ⟨hordered, h.bound, by simp, h.streams, h.owned⟩
  | advanced b idle found =>
    refine ⟨hordered, ?_, by simp [idle], h.streams, ?_⟩
    · rintro _ ⟨⟩
      exact h.bound b found
    · rintro stream hstream _ ⟨⟩ howned
      exact absurd howned (h.ordered.not_owned found (lt_nextGeneration found hroom) hstream)
  | replayed b taskId idle found bound =>
    refine h.spawn found (lt_nextGeneration found hroom) idle ?_ ?_ none
    · exact bound
    · exact bound ▸ h.bound b found
  | polled result generation responseId taskId copy current waited found fate =>
    obtain ⟨b, hb, htask, -⟩ := h.copied _ waited
    rw [found] at hb
    cases hb
    have hidle : Session.Traced { s with waiting := none } :=
      ⟨⟨h.ordered.increasing, h.ordered.bounded, by simp⟩, h.bound,
        by simp, h.streams, h.owned⟩
    refine hidle.spawn found (lt_nextGeneration found hroom) rfl rfl ?_ _
    rcases fate with rfl | fate
    · simp only [found, Option.all_some, Bool.or_eq_true,
        Option.isNone_iff_eq_none, beq_iff_eq] at hcursor
      rcases hcursor with hnone | hsame
      · exact .inl hnone
      · exact hsame ▸ h.bound current found
    · exact (htask.symm.trans fate) ▸ h.bound current found
  | streamed index input stream next binding found running move =>
    obtain ⟨hgeneration, htask, hframes⟩ := move.frames
    obtain ⟨hlive, hbinding⟩ := move.livePosition
    have hstream := mem_of_getElem? found
    have hnext : Returned (stream.returned input ++ s.livePages)
        (some stream.taskId) next.livePosition := by
      rcases hlive with hlive | hlive
      · exact hlive ▸ (h.streams stream hstream).mono _
      · exact .inr ⟨_, rfl, mem_append_left _ hlive⟩
    refine ⟨hordered, ?_, ?_, ?_, ?_⟩
    · intro b' hb'
      obtain ⟨b, hb, hposition⟩ := hbinding b' hb'
      obtain ⟨_, hsome, hsame, -⟩ := hframes.exists_of_some hb
      cases hb'.symm.trans hsome
      rw [hsame]
      rcases hposition with hposition | ⟨howned, hposition⟩
      · exact hposition ▸ (h.bound b hb).mono _
      · rw [h.owned stream hstream b hb howned, hposition]
        exact hnext
    · intro waiting hwaiting
      obtain ⟨b, hb, hcopied, hcopy⟩ := h.copied waiting hwaiting
      obtain ⟨b', hb', hsame, -⟩ := hframes.exists_of_some hb
      exact ⟨b', hb', hcopied.trans hsame.symm, hsame ▸ hcopy.mono _⟩
    · intro other hother
      rcases mem_or_eq_of_mem_set hother with hother | rfl
      · exact (h.streams other hother).mono _
      · exact htask ▸ hnext
    · intro other hother b' hb' howned
      obtain ⟨b, hb, -⟩ := hbinding b' hb'
      obtain ⟨_, hsome, hsame, hkept⟩ := hframes.exists_of_some hb
      cases hb'.symm.trans hsome
      rw [hsame]
      rcases mem_or_eq_of_mem_set hother with hother | rfl
      · exact h.owned other hother b hb (hkept ▸ howned)
      · exact htask ▸ h.owned stream hstream b hb (hkept.symm.trans (howned.trans hgeneration))

/-- A poller starts with no live cursor or with one that was returned for its
task, in every run in which no accepted task finds the cursor of another. -/
theorem pollers_start_at_own_cursor (actions : List Action)
    (h : sessions.Meets (fun s action => s.keepsLiveCursor action) .empty actions) :
    ∀ entry ∈ sessions.log .empty actions, ∀ stream,
      entry.after.streams = entry.before.streams ++ [stream] →
      stream.liveCursor = none ∨ (stream.taskId, stream.liveGeneration,
        stream.liveCursor) ∈ entry.after.livePages := by
  intro entry hentry stream hstream
  obtain ⟨before, action, after, rfl, rfl⟩ := Service.mem_log.mp hentry
  obtain ⟨hbefore, hguard, -⟩ := Service.meets_append.mp h
  have hempty : empty.Traced := ⟨.empty, by simp [empty], by simp [empty],
      by simp [empty], by simp [empty]⟩
  have htraced := sessions.run_invariant_of_meets (P := Session.Traced)
    (fun _ _ hs hguard => hs.step hguard) hempty hbefore
  have hmem : stream ∈ (sessions.serve (sessions.run .empty before) action).after.streams := by
    rw [hstream]
    simp
  rcases (htraced.step hguard).streams stream hmem with hnone | ⟨t, htask, hpage⟩
  · exact .inl hnone
  · rw [Option.some.inj htask]
    exact .inr hpage

namespace Sample

/-- The poller of a task gets as far as live cursor 5 before the task ends. -/
def first : List Action :=
  started ++ List.replicate 4 (.stream 0 .proceed) ++
    [.stream 0 (.live ⟨"g", some 5, none⟩), .stream 0 (.status true), .prompt 2 .text]

end Sample

theorem pollers_start_at_own_cursor_started :
    sessions.Meets (fun s action => s.keepsLiveCursor action) .empty
        (Sample.first ++ [.reply .applied "g"]) ∧
      ∀ entry ∈ sessions.log .empty (Sample.first ++ [.reply .applied "g"]),
        ∀ stream, entry.after.streams = entry.before.streams ++ [stream] →
        stream.liveCursor = none ∨ (stream.taskId, stream.liveGeneration,
          stream.liveCursor) ∈ entry.after.livePages :=
  ⟨by decide +kernel, pollers_start_at_own_cursor _ (by decide +kernel)⟩

theorem second_task_starts_at_cursor_of_first :
    let entry := sessions.serve (sessions.run .empty Sample.first) (.reply (.accepted ⟨2⟩) "g")
    ∃ stream, entry.after.streams = entry.before.streams ++ [stream] ∧
      stream.taskId = ⟨2⟩ ∧ stream.liveCursor = some 5 ∧
      entry.after.livePages = [(⟨1⟩, "g", some 5)] := by
  refine ⟨_, rfl, ?_⟩
  decide +kernel

def Stream.polls (s : Stream) : Bool := s.running && s.responseId.isSome

def isActive (binding : Option ServiceSessionBinding) : Bool :=
  binding.any (·.promptActive)

/-- The binding is active while the one poller runs that owns it. -/
structure Answering (streams : List Stream) (binding : Option ServiceSessionBinding) : Prop where
  active : streams.countP Stream.polls = (isActive binding).toNat
  answered : ∀ stream ∈ streams, stream.responseId.isSome → stream.answers = (!stream.running).toNat
  owned : ∀ stream ∈ streams, stream.polls → stream.ownsServiceStream binding

structure Session.Answering (s : Session) : Prop where
  polling : Acp.Answering s.streams s.binding
  copied : s.CopyCurrent
  prompted : ∀ copy responseId, s.waiting = some (.prompt copy responseId) →
    isActive s.binding = false

/-- A poller meets no failure and is not cancelled, no session is loaded or
replayed while one runs, and no stream takes a step while a change of the
configuration waits for the service. -/
def Session.letsPollersAnswer (s : Session) (action : Action) : Bool :=
  s.quietWhileConfiguring action && match action with
    | .loadSession _ _ _ _ _ _ _ _ | .startReplay =>
      s.streams.all fun stream => !stream.polls
    | .stream index input => s.streams[index]?.all fun stream =>
      stream.responseId.isNone || input ≠ .failed ∧ input ≠ .cancelled
    | _ => true

theorem Stream.Move.answers (h : stream.Move journal binding input next binding')
    (hrunning : stream.running) (howned : stream.polls → stream.ownsServiceStream binding)
    (hinput : stream.responseId = none ∨ input ≠ .failed ∧ input ≠ .cancelled) :
    next.responseId = stream.responseId ∧
      (stream.responseId.isSome →
        next.answers = stream.answers + (!next.running).toNat) ∧
      isActive binding' = (isActive binding && next.polls == stream.polls) := by
  -- A replay answers nothing, so it may stop in any way.
  have hstop : ∀ answered, stream.responseId = none →
      (stream.stop answered).responseId = stream.responseId ∧
      (stream.responseId.isSome → (stream.stop answered).answers =
        stream.answers + (!(stream.stop answered).running).toNat) ∧
      isActive binding = (isActive binding && (stream.stop answered).polls == stream.polls) :=
    fun answered hnone => by simp [stop, polls, hnone]
  cases h with
  | failed answered | cancelled => exact hstop _ (hinput.resolve_right (by simp))
  | lost hlost =>
    refine hstop _ ?_
    cases hid : stream.responseId with
    | none => rfl
    | some responseId => simp [polls, hrunning, hid, hlost] at howned
  | skipped sequence page _ found old either =>
    rcases either with ⟨rfl, hnone⟩ | rfl
    · exact hstop _ hnone
    · simp [polls, hrunning]
  | delivered =>
    cases binding <;> simp [polls, hrunning, isActive]
  | live page found owned =>
    simp only [takeLive, owned, if_true]
    cases page.pendingApproval <;> cases hid : stream.responseId <;>
      cases binding <;> simp [polls, hrunning, isActive, hid]
  | ended =>
    cases hid : stream.responseId with
    | none => simp [takeStatus, hid, stop, polls]
    | some responseId =>
      have hown := howned (by simp [polls, hrunning, hid])
      cases binding <;> simp [takeStatus, hid, hown, stop, polls, hrunning, isActive]
  | _ => simp [polls, hrunning]

section Streams

variable {streams : List Stream} {b b' : ServiceSessionBinding}

theorem Answering.rebind (h : Answering streams (some b))
    (hactive : b'.promptActive = b.promptActive)
    (hgeneration : b'.streamGeneration = b.streamGeneration) : Answering streams (some b') := by
  have hactive : isActive (some b') = isActive (some b) := hactive
  refine ⟨hactive ▸ h.active, h.answered, ?_⟩
  intro stream hstream hpoll
  have howned := h.owned stream hstream hpoll
  simpa [Stream.ownsServiceStream, hgeneration] using howned

theorem Answering.rebind_idle (h : Answering streams binding) (hidle : isActive binding = false)
    (hb : b.promptActive = false) : Answering streams (some b) := by
  have hnone := h.active
  rw [hidle] at hnone
  refine ⟨by simpa [isActive, hb] using hnone, h.answered, ?_⟩
  intro stream hstream hpoll
  exact absurd hpoll (countP_eq_zero.mp hnone stream hstream)

theorem Answering.append (h : Answering streams binding) (hidle : isActive binding = false)
    (hrunning : stream.running) (hanswers : stream.answers = 0)
    (howned : stream.ownsServiceStream (some b)) (hb : b.promptActive = stream.responseId.isSome) :
    Answering (streams ++ [stream]) (some b) := by
  have hnone := h.active
  rw [hidle] at hnone
  refine ⟨?_, ?_, ?_⟩
  · simp [hnone, isActive, hb, countP_append, Stream.polls, hrunning]
    cases stream.responseId.isSome <;> rfl
  · intro other hother
    rcases mem_append.mp hother with hother | hother
    · exact h.answered other hother
    · simp [mem_singleton.mp hother, hanswers, hrunning]
  · intro other hother hpoll
    rcases mem_append.mp hother with hother | hother
    · exact absurd hpoll (countP_eq_zero.mp hnone other hother)
    · rw [mem_singleton.mp hother]
      exact howned

theorem Frames.ownsServiceStream (h : Frames binding binding') :
    stream.ownsServiceStream binding' = stream.ownsServiceStream binding := by
  cases binding <;> cases binding' <;> simp_all [Frames, Stream.ownsServiceStream]

theorem Answering.move {index : Nat} (h : Answering streams binding)
    (hfound : streams[index]? = some stream) (hrunning : stream.running)
    (hinput : stream.responseId = none ∨ input ≠ .failed ∧ input ≠ .cancelled)
    (hmove : stream.Move journal binding input next binding') :
    Answering (streams.set index next) binding' ∧
      (isActive binding = false → isActive binding' = false) := by
  have hstream := mem_of_getElem? hfound
  obtain ⟨hgeneration, -, hframes⟩ := hmove.frames
  obtain ⟨hid, hanswers, hactive⟩ := hmove.answers hrunning (h.owned stream hstream) hinput
  have hpolls : next.polls → stream.polls := by
    simp [Stream.polls, hid, hrunning]
  refine ⟨⟨?_, ?_, ?_⟩, by simp +contextual [hactive]⟩
  · obtain ⟨hlt, hget⟩ := List.getElem?_eq_some_iff.mp hfound
    have hcount := h.active
    have hpos : stream.polls → 0 < streams.countP Stream.polls :=
      fun hpoll => countP_pos_iff.mpr ⟨stream, hstream, hpoll⟩
    rw [countP_set hlt, hget, hactive, hcount]
    rw [hcount] at hpos
    cases hnext : next.polls <;> cases hold : stream.polls <;>
      cases hbinding : isActive binding <;> simp_all
  · intro other hother
    rcases mem_or_eq_of_mem_set hother with hother | rfl
    · exact h.answered other hother
    · intro hsome
      rw [hid] at hsome
      rw [hanswers hsome, h.answered stream hstream hsome, hrunning]
      simp
  · intro other hother hpoll
    rw [hframes.ownsServiceStream]
    rcases mem_or_eq_of_mem_set hother with hother | rfl
    · exact h.owned other hother hpoll
    · have howned := h.owned stream hstream (hpolls hpoll)
      rw [Stream.ownsServiceStream, hgeneration]
      exact howned

end Streams

theorem Session.Answering.step (h : s.Answering)
    (hguard : s.letsPollersAnswer action) : (s.step action).Answering := by
  obtain ⟨hquiet, hpolls⟩ := (Bool.and_eq_true _ _).mp hguard
  have hcopied := h.copied.step hquiet
  have hnone : (s.streams.all fun stream => !stream.polls) → isActive s.binding = false := by
    intro hall
    have hcount := h.polling.active
    rw [countP_eq_zero.mpr (by simpa using hall)] at hcount
    exact Bool.toNat_eq_zero.mp hcount.symm
  have heffect := s.step_effect action
  generalize s.step action = after at heffect hcopied
  cases heffect with
  | same => exact h
  | recorded => exact ⟨h.polling, hcopied, h.prompted⟩
  | opened b idle fresh opens =>
    refine ⟨h.polling.rebind_idle ?_ fresh.2, hcopied, by simp [idle]⟩
    rcases opens with ⟨-, hnew, -⟩ | ⟨_, _, _, _, _, _, _, _, rfl, -⟩
    · simp [hnew, isActive]
    · exact hnone hpolls
  | configured b copy idle found same =>
    have hpolling := h.polling
    rw [found] at hpolling
    exact ⟨hpolling.rebind (by rw [same]) (by rw [same]), hcopied, by simp [idle]⟩
  | waits | gaveUp => exact ⟨h.polling, hcopied, by simp⟩
  | prompts b copy responseId found idle same =>
    exact ⟨h.polling, hcopied, by simp [found, isActive, idle]⟩
  | applied generation copy waited =>
    obtain ⟨b, found, same⟩ := h.copied copy waited
    have hpolling := h.polling
    rw [found] at hpolling
    exact ⟨hpolling.rebind (by rw [same]) (by rw [same]), hcopied, by simp⟩
  | advanced b idle found =>
    have hidle := hnone hpolls
    refine ⟨h.polling.rebind_idle hidle ?_, hcopied, by simp [idle]⟩
    simpa [found, isActive] using hidle
  | replayed b taskId idle found bound =>
    have hidle := hnone hpolls
    refine ⟨h.polling.append hidle rfl rfl ?_ ?_, hcopied, by simp [spawn, idle]⟩
    · simp [Stream.ownsServiceStream]
    · simpa [found, isActive] using hidle
  | polled result generation responseId taskId copy current waited found fate =>
    refine ⟨h.polling.append (h.prompted _ _ waited) rfl rfl ?_ rfl, hcopied, by simp [spawn]⟩
    simp [Stream.ownsServiceStream]
  | streamed index input stream next binding found running move =>
    obtain ⟨hpolling, hactive⟩ := h.polling.move found running (by simpa [found] using hpolls) move
    exact ⟨hpolling, hcopied, fun copy responseId hwaiting =>
      hactive (h.prompted copy responseId hwaiting)⟩

/-- A poller that has stopped has answered its prompt once, and a session
without a poller accepts the next prompt, in every run in which the pollers
are let alone. -/
theorem prompts_answered_once (actions : List Action)
    (h : sessions.Meets (fun s action => s.letsPollersAnswer action) .empty actions) :
    (∀ stream ∈ (sessions.run .empty actions).streams,
      stream.responseId.isSome → stream.answers = (!stream.running).toNat) ∧
    ((∀ stream ∈ (sessions.run .empty actions).streams, ¬ stream.polls) →
      ∀ b, (sessions.run .empty actions).binding = some b →
        b.promptActive = false) := by
  have hempty : empty.Answering := ⟨⟨rfl, by simp [empty], by simp [empty]⟩,
      by simp [Session.CopyCurrent, empty], by simp [empty]⟩
  have hrun := (sessions.run_invariant_of_meets (P := Session.Answering)
    (fun _ _ hs hguard => hs.step hguard) hempty h).polling
  refine ⟨hrun.answered, fun hnone b hb => ?_⟩
  have hactive := hrun.active
  rw [countP_eq_zero.mpr hnone, hb] at hactive
  exact Bool.toNat_eq_zero.mp hactive.symm

theorem prompts_answered_once_asked :
    let actions := Sample.started ++ replicate 4 (.stream 0 .proceed) ++
      [.stream 0 (.live ⟨"g", none, some ⟨⟨1⟩, "code"⟩⟩)]
    sessions.Meets (fun s action => s.letsPollersAnswer action) .empty actions ∧
      (∀ stream ∈ (sessions.run .empty actions).streams,
        stream.responseId.isSome → stream.answers = (!stream.running).toNat) ∧
      ((∀ stream ∈ (sessions.run .empty actions).streams, ¬ stream.polls) →
        ∀ b, (sessions.run .empty actions).binding = some b →
          b.promptActive = false) :=
  ⟨by decide +kernel, prompts_answered_once _ (by decide +kernel)⟩

/-- The service fails the first request of the poller. -/
theorem failed_poller_leaves_session_active :
    let after := sessions.run .empty (Sample.started ++ [.stream 0 .failed])
    (∀ stream ∈ after.streams, ¬ stream.polls) ∧
      after.binding.map (·.promptActive) = some true ∧
      (after.step (.prompt 2 .text)).waiting.isNone := by
  decide +kernel

end CarlAgent.Acp
