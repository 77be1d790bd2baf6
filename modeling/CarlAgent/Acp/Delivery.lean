import CarlAgent.Acp.Ownership

/-!
# Delivery of the task events

A stream sends the events after its cursor page by page and asks for the
status after each page.  Whatever is not on the page, or recorded after it was
taken, is left for the next round.
-/

namespace CarlAgent.Acp

open List Foundation CarlAgent.Task

variable {s : Session} {stream next : Stream} {journal : List Nat}
  {input : StreamInput} {binding binding' : Option ServiceSessionBinding}

/-- What the stream has sent and the rest of its page follow one another in
the journal.  The page lacks the events that did not fit and those recorded
later. -/
structure Delivers (journal : List Nat) (s : Stream) : Prop where
  cursor : s.cursor = s.sent.getLast?.or s.start
  ordered : s.sent ++ s.phase.page.getD [] <+: afterCursor id s.start journal
  bounded : s.journalLength ≤ journal.length
  length : ∀ page, s.phase.page = some page →
    (s.sent ++ page).length + (s.backlog - eventPageLimit) =
      (afterCursor id s.start (journal.take s.journalLength)).length

theorem afterCursor_append {cursor : Option Nat} (before after : List Nat) :
    afterCursor id cursor (before ++ after) =
      afterCursor id cursor before ++ afterCursor id cursor after :=
  List.filter_append before after

theorem Delivers.record (h : Delivers journal stream) (sequence : Nat) :
    Delivers (journal ++ [sequence]) stream := by
  refine ⟨h.cursor, ?_, ?_, ?_⟩
  · rw [afterCursor_append]
    exact h.ordered.trans (prefix_append _ _)
  · rw [length_append]
    exact h.bounded.trans (Nat.le_add_right _ _)
  · rw [take_append_of_le_length h.bounded]
    exact h.length

theorem Delivers.rest (h : Delivers journal stream) (hsorted : journal.Pairwise (· < ·)) :
    stream.sent ++ afterCursor id stream.cursor journal = afterCursor id stream.start journal := by
  obtain ⟨rest, hrest⟩ := (prefix_append _ _).trans h.ordered
  rw [← hrest, h.cursor]
  congr 1
  cases hlast : stream.sent.getLast? with
  | none =>
    rw [getLast?_eq_none_iff.mp hlast] at hrest
    exact hrest.symm
  | some last => exact afterCursor_getLast hsorted hrest.symm hlast

theorem Delivers.new (h : Delivers journal stream) (hsorted : journal.Pairwise (· < ·))
    {sequence : Nat} {page : List Nat} (hphase : stream.phase = .deliver (sequence :: page)) :
    ¬ stream.cursor.any (sequence ≤ ·) := by
  obtain ⟨rest, hrest⟩ := h.ordered
  rw [hphase] at hrest
  have hall : ∀ k ∈ stream.cursor, k < sequence := by
    have hmem : sequence ∈ afterCursor id stream.cursor journal := by
      have hsplit := (h.rest hsorted).trans hrest.symm
      rw [append_assoc, append_cancel_left_eq] at hsplit
      simp [hsplit, Phase.page]
    exact (mem_afterCursor.mp hmem).2
  cases hcursor : stream.cursor with
  | none => simp
  | some k => simpa using hall k hcursor

theorem Stream.Move.delivers (h : stream.Move journal binding input next binding')
    (hsorted : journal.Pairwise (· < ·)) (hs : Delivers journal stream) :
    Delivers journal next ∧ next.taskId = stream.taskId := by
  have hstop : ∀ answered, Delivers journal (stream.stop answered) :=
    fun _ => ⟨hs.cursor, hs.ordered, hs.bounded, hs.length⟩
  refine ⟨?_, h.frames.2.1⟩
  cases h with
  | failed answered | cancelled | lost | ended => exact hstop _
  | moved phase same =>
    rcases same with hnone | hsame
    · refine ⟨hs.cursor, ?_, hs.bounded, by simp [hnone]⟩
      rw [hnone]
      simpa using (prefix_append _ _).trans hs.ordered
    · exact ⟨hs.cursor, hsame ▸ hs.ordered, hs.bounded, hsame ▸ hs.length⟩
  | skipped sequence page _ found old either =>
    exact absurd old (hs.new hsorted found)
  | fetched =>
    have hrest := hs.rest hsorted
    refine ⟨hs.cursor, ?_, le_rfl, ?_⟩
    · rw [← hrest]
      exact (prefix_append_right_inj _).mpr (List.take_prefix _ _)
    · rintro _ ⟨⟩
      rw [take_length, ← hrest]
      simp only [length_append, length_take]
      omega
  | delivered sequence page found new =>
    have hordered := hs.ordered
    have hlength := hs.length (sequence :: page) (by rw [found]; rfl)
    rw [found] at hordered
    refine ⟨by simp, ?_, hs.bounded, ?_⟩
    · simpa [Phase.page] using hordered
    · rintro _ ⟨⟩
      simpa using hlength
  | live page found owned =>
    simp only [takeLive, owned, if_true]
    have hordered := hs.ordered
    have hlength := hs.length
    rw [found] at hordered hlength
    exact ⟨hs.cursor, hordered, hs.bounded, hlength⟩

structure Session.Delivering (s : Session) : Prop where
  sorted : ∀ taskId, (s.journals taskId).Pairwise (· < ·)
  streams : ∀ stream ∈ s.streams, Delivers (s.journals stream.taskId) stream

theorem pairwise_record (h : journal.Pairwise (· < ·)) (gap : Nat) :
    (journal ++ [journal.getLast?.getD 0 + gap + 1]).Pairwise (· < ·) := by
  refine pairwise_append.mpr ⟨h, by simp, ?_⟩
  intro sequence hsequence _ hlast
  rw [mem_singleton.mp hlast]
  cases hjournal : journal.getLast? with
  | none =>
    rw [getLast?_eq_none_iff.mp hjournal] at hsequence
    cases hsequence
  | some last =>
    obtain ⟨before, rfl⟩ := getLast?_eq_some_iff.mp hjournal
    rcases mem_append.mp hsequence with hbefore | hself
    · have hlt := (pairwise_append.mp h).2.2 _ hbefore last (by simp)
      simp only [Option.getD_some]
      omega
    · rw [mem_singleton.mp hself]
      simp only [Option.getD_some]
      omega

theorem Session.Delivering.spawn (h : s.Delivering) (b : ServiceSessionBinding)
    (responseId : Option Nat) (taskId : TaskId) : (s.spawn b responseId taskId).Delivering := by
  refine ⟨h.sorted, fun stream hstream => ?_⟩
  rcases mem_append.mp hstream with hstream | hstream
  · exact h.streams stream hstream
  · rw [mem_singleton.mp hstream]
    exact ⟨rfl, nil_prefix, Nat.zero_le _, nofun⟩

theorem Session.Delivering.step (h : s.Delivering) (action : Action) :
    (s.step action).Delivering := by
  have heffect := s.step_effect action
  generalize s.step action = after at heffect
  cases heffect with
  | recorded taskId gap =>
    refine ⟨fun other => ?_, fun stream hstream => ?_⟩
    · by_cases hother : other = taskId
      · subst hother
        simpa [record] using pairwise_record (h.sorted other) gap
      · simpa [record, hother] using h.sorted other
    · have hdelivers := h.streams stream hstream
      by_cases htask : stream.taskId = taskId
      · subst htask
        simpa [record] using hdelivers.record _
      · simpa [record, htask] using hdelivers
  | replayed b taskId => exact h.spawn _ none taskId
  | polled result generation responseId taskId =>
    have hidle : Session.Delivering { s with waiting := none } := ⟨h.sorted, h.streams⟩
    exact hidle.spawn _ (some responseId) taskId
  | streamed index input stream next binding found running move =>
    refine ⟨h.sorted, fun other hother => ?_⟩
    rcases mem_or_eq_of_mem_set hother with hother | rfl
    · exact h.streams other hother
    · obtain ⟨hdelivers, htask⟩ := move.delivers (h.sorted stream.taskId)
        (h.streams stream (mem_of_getElem? found))
      exact htask ▸ hdelivers
  | _ => exact ⟨h.sorted, h.streams⟩

theorem Delivers.sent_eq_iff (h : Delivers journal stream) (hphase : stream.phase = .status) :
    stream.sent = afterCursor id stream.start journal ↔
      stream.backlog ≤ eventPageLimit ∧ afterCursor id stream.start
        (journal.drop stream.journalLength) = [] := by
  have hordered : stream.sent <+: afterCursor id stream.start journal := by
    simpa [hphase, Phase.page] using h.ordered
  have hlength := h.length [] (by rw [hphase]; rfl)
  have hsplit := congrArg List.length (@afterCursor_append stream.start
    (journal.take stream.journalLength) (journal.drop stream.journalLength))
  rw [List.take_append_drop, List.length_append] at hsplit
  rw [List.append_nil] at hlength
  rw [← List.length_eq_zero_iff]
  constructor
  · intro hall
    rw [← hall] at hsplit
    omega
  · rintro ⟨hpage, hlate⟩
    exact hordered.eq_of_length (by omega)

/-- A stream that ends on the status of its task has sent the events in their
order, and all of them just if they fitted on its last page and no event after
its start has been recorded since. -/
theorem ended_streams_sent (actions : List Action) :
    ∀ entry ∈ sessions.log .empty actions, ∀ index stream,
      entry.call = .stream index (.status true) →
      entry.before.streams[index]? = some stream →
      stream.running → stream.phase = .status →
      stream.sent.Pairwise (· < ·) ∧
      (stream.sent = afterCursor id stream.start (entry.before.journals stream.taskId) ↔
        stream.backlog ≤ eventPageLimit ∧ afterCursor id stream.start ((entry.before.journals
            stream.taskId).drop stream.journalLength) = []) := by
  intro entry hentry index stream _ hfound _ hphase
  obtain ⟨before, action, after, rfl, rfl⟩ := Service.mem_log.mp hentry
  have hempty : Session.empty.Delivering := ⟨by simp [Session.empty], by simp [Session.empty]⟩
  have hrun : (sessions.run .empty before).Delivering :=
    sessions.run_invariant (fun _ action hs => hs.step action) hempty
  have hs := hrun.streams stream (mem_of_getElem? hfound)
  refine ⟨?_, hs.sent_eq_iff hphase⟩
  have hordered := (prefix_append _ _).trans hs.ordered
  exact ((hrun.sorted stream.taskId).sublist filter_sublist).sublist hordered.sublist

namespace Sample

/-- A round of the poller on a journal with one event, up to the status. -/
def round : List Action :=
  started ++ .record ⟨1⟩ 0 :: List.replicate 5 (.stream 0 .proceed) ++
    [.stream 0 (.live ⟨"g", none, none⟩)]

def ending : Service.Entry Session Action Unit :=
  sessions.serve (sessions.run .empty round) (.stream 0 (.status true))

/-- An event is recorded between the page and the status. -/
def late : Session := sessions.run .empty (round ++ [.record ⟨1⟩ 0])

end Sample

theorem ended_streams_sent_round : ∃ stream, Sample.ending.before.streams[0]? = some stream ∧
      stream.running ∧ stream.phase = .status ∧
      stream.sent.Pairwise (· < ·) ∧
      (stream.sent = afterCursor id stream.start (Sample.ending.before.journals stream.taskId) ↔
        stream.backlog ≤ eventPageLimit ∧ afterCursor id stream.start
          ((Sample.ending.before.journals stream.taskId).drop stream.journalLength) = []) :=
  ⟨_, rfl, by decide +kernel, by decide +kernel,
    ended_streams_sent (Sample.round ++ [.stream 0 (.status true)])
      Sample.ending (Service.mem_log.mpr ⟨Sample.round, _, [], rfl, rfl⟩) 0 _
      rfl rfl (by decide +kernel) (by decide +kernel)⟩

theorem late_event_unsent :
    Sample.late.streams.map (fun stream => (stream.phase, stream.sent)) = [(.status, [1])] ∧
      Sample.late.journals ⟨1⟩ = [1, 2] ∧
      (Sample.late.step (.stream 0 (.status true))).streams.map (fun stream =>
        (stream.running, stream.answers, stream.sent)) = [(false, 1, [1])] := by
  decide +kernel

end CarlAgent.Acp
