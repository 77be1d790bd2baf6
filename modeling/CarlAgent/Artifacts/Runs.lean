import CarlAgent.Artifacts.Recovery
import CarlAgent.Staging.Inspection

/-!
# Runs of the artifact store

Processes open the store, put and remove objects, and stop at any step.  The
store that a later process opens is the one the stopped process had, with the
interrupted put done or not done.
-/

namespace CarlAgent.Artifacts

open Foundation CarlAgent.Task Staging

namespace World

variable {sha256 : Sha256} {world : World}

structure Sound (sha256 : Sha256) (world : World) : Prop where
  safe : Safe sha256 world.kept world.machine
  live : world.machine.running = true → Live sha256 world.kept world.machine

variable {kept : List (List UInt8)}

theorem sound_of_live {machine : Machine} (h : Live sha256 kept machine) :
    Sound sha256 ⟨machine, kept⟩ :=
  ⟨h.safe, fun _ => h⟩

theorem sound_of_stopped {machine : Machine} (h : Stopped sha256 kept machine) :
    Sound sha256 ⟨machine, kept⟩ :=
  ⟨h.toSafe, fun hrunning => by simp [h.running] at hrunning⟩

theorem sound_initial : Sound sha256 initial := by
  apply sound_of_stopped
  refine { genuine := ⟨?_, ?_, ?_, ?_, ?_⟩, leftover := ⟨?_, ?_⟩, running := rfl }
    <;> simp [published, Directory.empty]

theorem Sound.put (h : Sound sha256 world) (bytes : List UInt8) (identifier : String)
    (stop : Option Nat) : Sound sha256 (world.step sha256 (.put bytes identifier stop)) := by
  unfold World.step
  by_cases hrunning : world.machine.running = true
  · have hlive := h.live hrunning
    have hput := @put_settles sha256 world.kept bytes identifier () { world.machine with stop }
      { running := hlive.running, genuine := hlive.genuine, clean := hlive.clean,
        usage := hlive.usage }
    simp only
    rw [if_pos hrunning]
    generalize (Artifacts.put sha256 bytes identifier).run ()
      { world.machine with stop } = result at hput
    obtain ⟨outcome, machine⟩ := result
    cases outcome with
    | returned stored => exact sound_of_live hput
    | failed error => exact sound_of_live hput
    | stopped => exact sound_of_stopped hput
  · simpa [hrunning] using h

theorem genuine_of_retained {before disk : Objects} {referenced : List ArtifactId}
    (hbefore : Genuine sha256 kept (published before)) (h : Retained referenced before disk) :
    Genuine sha256 (kept.filter fun bytes => sha256 bytes ∈ referenced ∨
        (disk.lookup (.canonical (sha256 bytes))).isSome) (published disk) := by
  apply hbefore.sublist h.sublist
  intro bytes hbytes
  simp only [List.mem_filter, decide_eq_true_eq] at hbytes
  obtain ⟨hkept, hcase⟩ := hbytes
  obtain ⟨file, hmem, hfile⟩ := hbefore.holds bytes hkept
  rcases hcase with hreferenced | hpresent
  · exact ⟨file, h.referenced _ hmem hreferenced, hfile⟩
  · obtain ⟨number, hnumber⟩ := Option.isSome_iff_exists.mp hpresent
    rw [Directory.lookup_eq_some] at hnumber
    have hlater : (sha256 bytes, disk.files number) ∈ published disk :=
      mem_published.mpr ⟨number, hnumber, rfl⟩
    have hsame := published_unique hmem (h.sublist.subset hlater) rfl
    rw [← hsame] at hlater
    exact ⟨file, hlater, hfile⟩

theorem Sound.retainOnly (h : Sound sha256 world) (referenced : List ArtifactId)
    (stop : Option Nat) : Sound sha256 (world.step sha256 (.retainOnly referenced stop)) := by
  unfold World.step
  by_cases hrunning : world.machine.running = true
  · have hlive := h.live hrunning
    have hretain := @retainOnly_settles (fun _ _ => False) sha256 world.kept
      referenced world.machine.disk () { world.machine with stop }
      ⟨rfl, { running := hlive.running, genuine := hlive.genuine, clean := hlive.clean,
              usage := hlive.usage }⟩
    simp only
    rw [if_pos hrunning]
    generalize (Artifacts.retainOnly referenced).run ()
      { world.machine with stop } = result at hretain
    obtain ⟨outcome, machine⟩ := result
    cases outcome with
    | returned _ =>
      apply sound_of_live
      exact { hretain.1 with genuine := genuine_of_retained hlive.genuine hretain.2 }
    | failed error => exact hretain.elim
    | stopped =>
      apply sound_of_stopped
      exact { hretain.1 with genuine := genuine_of_retained hlive.genuine hretain.2 }
  · simpa [hrunning] using h

theorem Sound.openStore (h : Sound sha256 world) (stop : Option Nat) :
    Sound sha256 (world.step sha256 (.openStore stop)) := by
  have hopen := @openStore_settles (fun _ _ => False) sha256 world.kept ()
    { world.machine with stop } ⟨h.safe.genuine, h.safe.leftover⟩
  unfold World.step
  simp only
  generalize (Artifacts.openStore sha256).run () { world.machine with stop } = result at hopen
  obtain ⟨outcome, machine⟩ := result
  cases outcome with
  | returned _ => exact sound_of_live hopen
  | failed error => exact hopen.elim
  | stopped => exact sound_of_stopped hopen

theorem Sound.relist (h : Sound sha256 world) (entries : List (ObjectName × Nat)) :
    Sound sha256 (world.step sha256 (.relist entries)) := by
  have hperm := @published_relist world.machine.disk entries
  have hmem : ∀ entry, entry ∈ (world.machine.disk.relist entries).entries →
      entry ∈ world.machine.disk.entries := fun entry =>
    (world.machine.disk.relist_perm entries).mem_iff.mp
  have hgenuine := h.safe.genuine.perm hperm
  constructor
  · refine ⟨hgenuine, ?_, ?_⟩
    · intro first m second n hfirst hsecond
      exact h.safe.leftover.unique first m second n (hmem _ hfirst) (hmem _ hsecond)
    · intro identifier number hentry
      have hprivate := h.safe.leftover.isPrivate identifier number (hmem _ hentry)
      simpa [World.step] using hprivate
  · intro hrunning
    have hlive := h.live hrunning
    exact
      { running := hrunning
        genuine := hgenuine
        clean := fun identifier number hentry =>
          hlive.clean identifier number (hmem _ hentry)
        usage := hlive.usage.trans (usageOf_perm hperm).symm }

theorem Sound.step (h : Sound sha256 world) (event : Event) :
    Sound sha256 (world.step sha256 event) := by
  cases event with
  | put bytes identifier stop => exact h.put bytes identifier stop
  | retainOnly referenced stop => exact h.retainOnly referenced stop
  | openStore stop => exact h.openStore stop
  | relist entries => exact h.relist entries

theorem Sound.run (h : Sound sha256 world) (events : List Event) :
    Sound sha256 (world.run sha256 events) := by
  induction events generalizing world with
  | nil => exact h
  | cons event events ih => exact ih (h.step event)

theorem Sound.opens (h : Sound sha256 world) : ∃ machine, (Artifacts.openStore sha256).run ()
        { world.machine with stop := none } = (.returned (), machine) ∧
      Clean machine.disk := by
  have hopen := @openStore_settles (fun _ _ => False) sha256 world.kept ()
    { world.machine with stop := none } ⟨h.safe.genuine, h.safe.leftover⟩
  have hstop := @unstoppable_openStore sha256 () { world.machine with stop := none } rfl
  generalize (Artifacts.openStore sha256).run ()
    { world.machine with stop := none } = result at hopen hstop
  obtain ⟨outcome, machine⟩ := result
  cases outcome with
  | returned _ => exact ⟨machine, rfl, hopen.clean⟩
  | failed error => exact hopen.elim
  | stopped => exact hstop.elim

theorem Sound.open_not_failed (h : Sound sha256 world) (stop : Option Nat)
    (error : ArtifactErrorCode) (machine : Machine) :
    (Artifacts.openStore sha256).run () { world.machine with stop } ≠ (.failed error, machine) := by
  intro hfailed
  have hopen := @openStore_settles (fun _ _ => False) sha256 world.kept ()
    { world.machine with stop } ⟨h.safe.genuine, h.safe.leftover⟩
  rw [hfailed] at hopen
  exact hopen

/-- Whatever processes put, remove and open, and wherever they stop: the store
opens without a temporary file, every canonical name is the digest of its
bytes, and an open store reads back all that was put and not removed and
counts exactly what its directory holds. -/
theorem run_survives_stops (sha256 : Sha256) (events : List Event) :
    let world := initial.run sha256 events
    let disk := world.machine.disk
    (∃ machine, (Artifacts.openStore sha256).run ()
        { world.machine with stop := none } = (.returned (), machine) ∧
      ∀ identifier number, (.temporary identifier, number) ∉ machine.disk.entries) ∧
    (∀ stop error machine, (Artifacts.openStore sha256).run ()
      { world.machine with stop } ≠ (.failed error, machine)) ∧
    (∀ id number, (.canonical id, number) ∈ disk.entries →
      sha256 (disk.files number).bytes = id) ∧
    (world.machine.running = true →
      (∀ identifier number, (.temporary identifier, number) ∉ disk.entries) ∧
      (∀ bytes ∈ world.kept, readVerified sha256 disk (sha256 bytes) = .ok ⟨sha256 bytes, bytes⟩) ∧
      world.machine.usage = ⟨disk.entries.length, (disk.entries.map fun entry =>
            (disk.files entry.2).bytes.length).sum⟩) := by
  intro world disk
  have hsound : Sound sha256 world := sound_initial.run events
  refine ⟨hsound.opens, hsound.open_not_failed, ?_, ?_⟩
  · intro id number hentry
    exact hsound.safe.genuine.id_eq hentry
  · intro hrunning
    have hlive := hsound.live hrunning
    refine ⟨hlive.clean, ?_, ?_⟩
    · intro bytes hbytes
      obtain ⟨file, hmem, rfl⟩ := hlive.genuine.holds bytes hbytes
      exact readVerified_of_clean hlive.genuine hlive.clean hmem
    · rw [hlive.usage, usageOf, length_published_of_clean hlive.clean,
        lengths_published_of_clean hlive.clean]

theorem run_survives_stops_linked : let events : List Event :=
      [.openStore none, .put [1] "a" none, .put [2] "b" (some 4), .openStore none]
    let world := initial.run sampleSha256 events
    world.kept = [[1]] ∧ readVerified sampleSha256 world.machine.disk (sampleSha256 [1]) =
        .ok ⟨sampleSha256 [1], [1]⟩ ∧
      world.machine.usage = ⟨2, 2⟩ := by
  intro events world
  have hrunning : world.machine.running = true := by decide +kernel
  obtain ⟨-, hkept, husage⟩ := (run_survives_stops sampleSha256 events).2.2.2 hrunning
  refine ⟨by decide +kernel, hkept [1] (by decide +kernel), ?_⟩
  exact husage.trans (by decide +kernel)

end World

end CarlAgent.Artifacts
