import CarlAgent.Acp.Sessions

/-!
# Which stream owns a session

A stream owns its session while the binding has the generation with which the
stream started.  Generations only grow, except that loading a session starts
them again.
-/

namespace CarlAgent.Acp

open Foundation CarlAgent.Task

variable {s : Session} {stream : Stream}
  {binding : Option ServiceSessionBinding}
variable {action : Action} {b : ServiceSessionBinding}

/-- The streams of a session write neither its task nor its generation. -/
def Frames (binding next : Option ServiceSessionBinding) : Prop :=
  next.map (fun b => (b.taskId, b.streamGeneration)) =
    binding.map fun b => (b.taskId, b.streamGeneration)

theorem frames_map {f : ServiceSessionBinding → ServiceSessionBinding}
    (hf : ∀ b, (f b).taskId = b.taskId ∧ (f b).streamGeneration = b.streamGeneration) :
    Frames binding (binding.map f) := by
  cases binding <;> simp [Frames, hf]

theorem Frames.exists_of_some {next : Option ServiceSessionBinding} (h : Frames binding next)
    (hb : binding = some b) :
    ∃ b', next = some b' ∧ b'.taskId = b.taskId ∧ b'.streamGeneration = b.streamGeneration := by
  subst hb
  cases next with
  | none => cases h
  | some b' =>
    simp only [Frames, Option.map_some, Option.some.injEq, Prod.mk.injEq] at h
    exact ⟨b', rfl, h⟩

theorem Stream.Move.frames {journal : List Nat} {input : StreamInput} {next : Stream}
    {binding' : Option ServiceSessionBinding}
    (h : stream.Move journal binding input next binding') :
    next.generation = stream.generation ∧ next.taskId = stream.taskId ∧
      Frames binding binding' := by
  cases h with
  | skipped sequence page _ found old either =>
    rcases either with ⟨rfl, -⟩ | rfl
    · exact ⟨rfl, rfl, rfl⟩
    · exact ⟨rfl, rfl, rfl⟩
  | delivered => exact ⟨rfl, rfl, frames_map fun _ => ⟨rfl, rfl⟩⟩
  | live page found owned =>
    simp only [takeLive, owned, if_true]
    exact ⟨trivial, trivial, frames_map fun _ => ⟨rfl, rfl⟩⟩
  | ended =>
    refine ⟨rfl, rfl, ?_⟩
    simp only [takeStatus, if_true]
    split
    · exact frames_map fun _ => ⟨rfl, rfl⟩
    · rfl
  | _ => exact ⟨rfl, rfl, rfl⟩

def Session.generations (s : Session) : List Nat :=
  s.streams.map Stream.generation

structure Session.Ordered (s : Session) : Prop where
  increasing : s.generations.Pairwise (· < ·)
  bounded : ∀ generation ∈ s.generations, ∃ b, s.binding = some b ∧ generation ≤ b.streamGeneration
  copied : ∀ copy, s.waiting = some (.configure copy) → ∃ b,
    s.binding = some b ∧ copy.streamGeneration = b.streamGeneration

/-- A session is loaded only where there is none, and its generations have
not run out. -/
def Session.keepsGenerations (s : Session) : Action → Bool
  | .loadSession _ _ _ _ _ _ _ _ => s.binding.isNone
  | _ => s.binding.all fun b => decide (b.streamGeneration < maxU64)

theorem Session.Ordered.of_binding {next : Session} {b' : ServiceSessionBinding}
    (h : s.Ordered) (hstreams : next.generations = s.generations)
    (hb : s.binding = some b) (hb' : next.binding = some b')
    (hle : b.streamGeneration ≤ b'.streamGeneration)
    (hcopied : ∀ copy, next.waiting = some (.configure copy) →
      copy.streamGeneration = b'.streamGeneration) : next.Ordered := by
  refine ⟨hstreams ▸ h.increasing, ?_, fun copy hcopy =>
    ⟨b', hb', hcopied copy hcopy⟩⟩
  intro generation hgeneration
  rw [hstreams] at hgeneration
  obtain ⟨other, hother, hbound⟩ := h.bounded generation hgeneration
  rw [hb] at hother
  cases hother
  exact ⟨b', hb', hbound.trans hle⟩

theorem Session.Ordered.spawn {current : ServiceSessionBinding} (h : s.Ordered)
    (hfound : s.binding = some current) (hb : current.streamGeneration < b.streamGeneration)
    (hidle : s.waiting = none) (responseId : Option Nat) (taskId : TaskId) :
    (s.spawn b responseId taskId).Ordered := by
  have hold : ∀ generation ∈ s.generations, generation < b.streamGeneration := by
    intro generation hgeneration
    obtain ⟨other, hother, hle⟩ := h.bounded generation hgeneration
    rw [hfound] at hother
    cases hother
    exact hle.trans_lt hb
  have hall : (s.spawn b responseId taskId).generations =
      s.generations ++ [b.streamGeneration] := by
    simp [Session.generations, Session.spawn]
  refine ⟨?_, ?_, ?_⟩
  · rw [hall]
    refine List.pairwise_append.mpr ⟨h.increasing, by simp, ?_⟩
    simpa using hold
  · intro generation hgeneration
    rw [hall] at hgeneration
    refine ⟨b, rfl, ?_⟩
    rcases List.mem_append.mp hgeneration with hgeneration | hgeneration
    · exact (hold generation hgeneration).le
    · rw [List.mem_singleton.mp hgeneration]
  · intro copy hcopy
    have hnone : s.waiting = some (.configure copy) := hcopy
    rw [hidle] at hnone
    cases hnone

theorem Session.lt_nextGeneration (hfound : s.binding = some b)
    (hroom : s.binding.all fun b => decide (b.streamGeneration < maxU64)) :
    b.streamGeneration < nextGeneration b := by
  simp only [hfound, Option.all_some, decide_eq_true_eq] at hroom
  simp only [nextGeneration]
  omega

theorem Session.generations_set {index : Nat} {next : Stream}
    (hfound : s.streams[index]? = some stream) (hsame : next.generation = stream.generation) :
    (s.streams.set index next).map Stream.generation = s.generations := by
  rw [generations, List.map_set, hsame]
  apply List.ext_getElem?
  intro i
  by_cases hi : index = i
  · subst hi
    obtain ⟨hlt, hget⟩ := List.getElem?_eq_some_iff.mp hfound
    simp [hlt, hget]
  · simp [hi]

theorem Session.Ordered.step (h : s.Ordered)
    (hguard : s.keepsGenerations action) : (s.step action).Ordered := by
  have heffect := s.step_effect action
  generalize s.step action = next at heffect
  cases heffect with
  | same => exact h
  | recorded => exact ⟨h.increasing, h.bounded, h.copied⟩
  | opened b idle fresh opens =>
    have hnone : s.binding = none := by
      rcases opens with ⟨-, hnone, -⟩ | ⟨_, _, _, _, _, _, _, _, rfl, -⟩
      · exact hnone
      · simpa [keepsGenerations] using hguard
    refine ⟨h.increasing, ?_, by simp [idle]⟩
    intro generation hgeneration
    obtain ⟨other, hother, -⟩ := h.bounded generation hgeneration
    rw [hnone] at hother
    cases hother
  | configured b copy idle found same =>
    have hsame : copy.streamGeneration = b.streamGeneration := by rw [same]
    exact h.of_binding rfl found rfl hsame.ge (by simp [idle])
  | waits b copy found same =>
    refine ⟨h.increasing, h.bounded, ?_⟩
    rintro _ ⟨⟩
    exact ⟨b, found, by rw [same]⟩
  | prompts | gaveUp => exact ⟨h.increasing, h.bounded, by simp⟩
  | applied generation copy waited =>
    obtain ⟨b, found, hsame⟩ := h.copied copy waited
    exact h.of_binding rfl found rfl hsame.ge (by simp)
  | advanced b idle found =>
    exact h.of_binding rfl found rfl (lt_nextGeneration found hguard).le (by simp [idle])
  | replayed b taskId idle found bound =>
    exact h.spawn found (lt_nextGeneration found hguard) idle _ _
  | polled result generation responseId taskId copy current waited found fate =>
    have hidle : Session.Ordered { s with waiting := none } := ⟨h.increasing, h.bounded, by simp⟩
    exact hidle.spawn found (lt_nextGeneration found hguard) rfl _ _
  | streamed index input stream next binding found running move =>
    obtain ⟨hgeneration, -, hframes⟩ := move.frames
    have hall := generations_set found hgeneration
    refine ⟨?_, ?_, ?_⟩
    · rw [generations, hall]
      exact h.increasing
    · intro generation hmem
      rw [generations, hall] at hmem
      obtain ⟨b, hb, hle⟩ := h.bounded generation hmem
      obtain ⟨b', hb', -, hsame⟩ := hframes.exists_of_some hb
      exact ⟨b', hb', hsame ▸ hle⟩
    · intro copy hcopy
      obtain ⟨b, hb, hcopied⟩ := h.copied copy hcopy
      obtain ⟨b', hb', -, hsame⟩ := hframes.exists_of_some hb
      exact ⟨b', hb', hcopied.trans hsame.symm⟩

theorem Session.Ordered.empty : Session.empty.Ordered :=
  ⟨.nil, by simp [Session.generations, Session.empty],
    by simp [Session.empty]⟩

theorem Session.Ordered.disowned (h : s.Ordered) :
    s.streams.Pairwise fun earlier _ => earlier.ownsServiceStream s.binding = false := by
  refine (List.pairwise_map.mp h.increasing).imp_of_mem ?_
  intro earlier later _ hlater hlt
  obtain ⟨b, hb, hle⟩ := h.bounded later.generation (List.mem_map_of_mem hlater)
  simp only [Stream.ownsServiceStream, hb, Option.any_some, beq_eq_false_iff_ne]
  omega

/-- A stream never owns its session after a later one has started, in every
run that loads no session a second time. -/
theorem earlier_streams_disowned (actions : List Action)
    (h : sessions.Meets (fun s action => s.keepsGenerations action) .empty actions) :
    (sessions.run .empty actions).streams.Pairwise fun earlier _ =>
      earlier.ownsServiceStream (sessions.run .empty actions).binding = false := by
  exact (sessions.run_invariant_of_meets (P := Session.Ordered)
    (fun _ _ hs hguard => hs.step hguard) .empty h).disowned

namespace Sample

def model : ModelId := ⟨"m", by decide⟩

def ask : List Action := [.prompt 1 .text, .reply (.accepted ⟨1⟩) "g"]

def started : List Action := .newSession model .low .plan "g" :: ask

/-- The main loop starts the replay right behind the answer to a load. -/
def load : List Action :=
  [.loadSession model .low .plan (some ⟨1⟩) none "g" none none, .startReplay]

def reloaded : List Action := started ++ load

end Sample

theorem earlier_streams_disowned_started :
    let s := sessions.run .empty (Sample.load ++ Sample.ask)
    s.streams.length = 2 ∧
      s.streams.Pairwise fun earlier _ => earlier.ownsServiceStream s.binding = false :=
  ⟨by decide +kernel, earlier_streams_disowned _ (by decide +kernel)⟩

theorem reloaded_poller_owns_again :
    ¬ (sessions.run .empty Sample.reloaded).streams.Pairwise fun earlier _ =>
      earlier.ownsServiceStream (sessions.run .empty Sample.reloaded).binding = false := by
  decide +kernel

/-! ## Configuration changes -/

/-- The entry is a step of a change of the configuration. -/
def changesConfiguration (entry : Service.Entry Session Action Unit) : Bool :=
  match entry.call, entry.before.waiting with
  | .setConfig _ _, _ | .prompt _ (.permission _ _), _ => true
  | .reply _ _, some (.configure _) => true
  | _, _ => false

/-- No stream takes a step while a change waits for the service. -/
def Session.quietWhileConfiguring (s : Session) : Action → Bool
  | .stream _ _ => match s.waiting with
    | some (.configure _) => false
    | _ => true
  | _ => true

def Session.CopyCurrent (s : Session) : Prop :=
  ∀ copy, s.waiting = some (.configure copy) → ∃ b, s.binding = some b ∧ b.SameButConfig copy

theorem Session.CopyCurrent.step (h : s.CopyCurrent) (hguard : s.quietWhileConfiguring action) :
    (s.step action).CopyCurrent := by
  have heffect := s.step_effect action
  generalize s.step action = next at heffect
  intro copy hcopy
  cases heffect with
  | same | recorded => exact h copy hcopy
  | opened b idle | configured b copy idle | advanced b idle => simp [idle] at hcopy
  | waits b copy found same =>
    cases hcopy
    exact ⟨b, found, same⟩
  | prompts | applied | gaveUp | polled => cases hcopy
  | replayed b taskId idle => simp [spawn, idle] at hcopy
  | streamed =>
    have hwaits : s.waiting = some (.configure copy) := hcopy
    simp [quietWhileConfiguring, hwaits] at hguard

theorem Session.CopyCurrent.keeps (h : s.CopyCurrent)
    (hchange : changesConfiguration (sessions.serve s action)) (hb : s.binding = some b) :
    ∃ b', (s.step action).binding = some b' ∧ b.SameButConfig b' := by
  have heffect := s.step_effect action
  generalize s.step action = next at heffect
  have hrefl : b.SameButConfig b := rfl
  cases heffect with
  | same | recorded | waits | prompts | gaveUp => exact ⟨b, hb, hrefl⟩
  | opened b' idle fresh opens =>
    rcases opens with ⟨⟨_, _, _, _, rfl⟩, -⟩ | ⟨_, _, _, _, _, _, _, _, rfl, -⟩
    · cases hchange
    · cases hchange
  | configured b' copy idle found same =>
    rw [hb] at found
    cases found
    exact ⟨copy, rfl, same⟩
  | applied generation copy waited =>
    obtain ⟨b', hb', hsame⟩ := h copy waited
    rw [hb] at hb'
    cases hb'
    exact ⟨copy, rfl, hsame⟩
  | advanced | replayed | streamed => cases hchange
  | polled result generation responseId taskId copy current waited =>
    simp [changesConfiguration, Service.serve, waited] at hchange

/-- A change leaves alone everything else of the binding, in every run in
which the streams pause while one waits for the service. -/
theorem configuration_changes_alone (actions : List Action)
    (h : sessions.Meets (fun s action => s.quietWhileConfiguring action) .empty actions) :
    ∀ entry ∈ sessions.log .empty actions, changesConfiguration entry →
      ∀ b, entry.before.binding = some b →
        ∃ b', entry.after.binding = some b' ∧ b.SameButConfig b' := by
  intro entry hentry hchange b hb
  obtain ⟨before, action, after, rfl, rfl⟩ := Service.mem_log.mp hentry
  have hcurrent : (sessions.run .empty before).CopyCurrent :=
    sessions.run_invariant_of_meets (P := Session.CopyCurrent)
      (fun _ _ hs hguard => hs.step hguard) (by simp [Session.CopyCurrent,
        Session.empty]) (Service.meets_append.mp h).1
  exact hcurrent.keeps hchange hb

namespace Sample

def configured : List Action :=
  started ++ [.setConfig (.thoughtLevel .high) true, .reply .applied "g"]

def asked : List Action :=
  started ++ List.replicate 4 (.stream 0 .proceed) ++
    [.setConfig (.thoughtLevel .high) true, .stream 0 (.live ⟨"g", none, some ⟨⟨1⟩, "code"⟩⟩)]

end Sample

theorem configuration_changes_alone_started :
    sessions.Meets (fun s action => s.quietWhileConfiguring action) .empty Sample.configured ∧
      ∀ entry ∈ sessions.log .empty Sample.configured,
        changesConfiguration entry → ∀ b, entry.before.binding = some b →
          ∃ b', entry.after.binding = some b' ∧ b.SameButConfig b' :=
  ⟨by decide +kernel, configuration_changes_alone _ (by decide +kernel)⟩

theorem pending_approval_lost :
    changesConfiguration (sessions.serve (sessions.run .empty Sample.asked) (.reply .applied "g")) ∧
      (sessions.run .empty Sample.asked).binding.map (·.pendingApproval) =
        some (some ⟨⟨1⟩, "code"⟩) ∧
      (sessions.run .empty (Sample.asked ++ [.reply .applied "g"])).binding.map
        (·.pendingApproval) = some none := by
  decide +kernel

end CarlAgent.Acp
