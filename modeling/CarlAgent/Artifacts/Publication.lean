import CarlAgent.Artifacts.Published

/-!
# Publication

Between any two steps of a publication the directory holds the objects that
were there before, or those and the new one, and beside them at most one
private temporary file.  The states a put goes through are named, and each of
its steps leads from one to the next or is where the process stops.
-/

namespace CarlAgent.Artifacts

open Foundation CarlAgent.Task Staging Call Directory List

namespace Call

open Program (Settles)

variable {α : Type} {P : Machine → Prop} {Q : α → Machine → Prop}
  {F : ArtifactErrorCode → Machine → Prop} {S : Machine → Prop}

theorem settles_check {x : Except ArtifactErrorCode Unit} {Q : Machine → Prop}
    (hx : ∀ machine, P machine → x = .ok ()) (h : ∀ machine, P machine → Q machine) :
    Settles P (check x) (fun _ => Q) F S := by
  intro _ machine hmachine
  rw [hx machine hmachine]
  exact h machine hmachine

theorem settles_bind_check {β : Type} {x : Except ArtifactErrorCode β} {k : β → Call α}
    (hx : ∀ machine, P machine → ∃ b, x = .ok b) (hk : ∀ b, x = .ok b → Settles P (k b) Q F S) :
    Settles P (check x >>= k) Q F S := by
  intro r machine hmachine
  obtain ⟨b, rfl⟩ := hx machine hmachine
  exact hk b rfl r machine hmachine

theorem settles_bind_check_or {β : Type} {x : Except ArtifactErrorCode β} {k : β → Call α}
    (hk : ∀ b, x = .ok b → Settles P (k b) Q F S)
    (herror : ∀ error machine, P machine → F error machine) : Settles P (check x >>= k) Q F S := by
  intro r machine hmachine
  cases x with
  | ok b => exact hk b rfl r machine hmachine
  | error error => exact herror error machine hmachine

theorem settles_bind_disk {k : Objects → Call α}
    (hk : ∀ disk, Settles (fun machine => machine.disk = disk ∧ P machine) (k disk) Q F S) :
    Settles P (disk >>= k) Q F S :=
  fun r machine hmachine => hk machine.disk r machine ⟨rfl, hmachine⟩

theorem settles_bind_usage {k : ArtifactUsage → Call α}
    (hk : ∀ usage, Settles (fun machine => machine.usage = usage ∧ P machine) (k usage) Q F S) :
    Settles P (usage >>= k) Q F S :=
  fun r machine hmachine => hk machine.usage r machine ⟨rfl, hmachine⟩

theorem settles_change {f : Objects → Option Objects} {Q : Machine → Prop}
    (hstop : ∀ machine, P machine → S { machine with running := false })
    (hstep : ∀ machine, P machine → ∃ disk, f machine.disk = some disk ∧
      ∀ stop, Q { machine with disk, stop }) : Settles P (change f) (fun _ => Q) F S := by
  rintro _ ⟨disk, usage, running, stop⟩ hmachine
  obtain ⟨later, hlater, hpost⟩ := hstep _ hmachine
  simp only at hlater
  match stop with
  | some 0 => exact hstop _ hmachine
  | some (count + 1) =>
    simp only [change, hlater]
    exact hpost _
  | none =>
    simp only [change, hlater]
    exact hpost _

end Call

section States

variable (sha256 : Sha256) (kept : List (List UInt8))

structure Live (machine : Machine) : Prop where
  running : machine.running = true
  genuine : Genuine sha256 kept (published machine.disk)
  clean : Clean machine.disk
  usage : machine.usage = usageOf (published machine.disk)

structure Safe (machine : Machine) : Prop where
  genuine : Genuine sha256 kept (published machine.disk)
  leftover : Leftover machine.disk

structure Stopped (machine : Machine) : Prop extends Safe sha256 kept machine where
  running : machine.running = false

/-- A publication has its temporary file, and no canonical name yet. -/
structure Writing (identifier : String) (id : ArtifactId) (byteLength : Nat)
    (file : LinkedFile) (machine : Machine) : Prop where
  running : machine.running = true
  genuine : Genuine sha256 kept (published machine.disk)
  usage : machine.usage = usageOf (published machine.disk)
  room : machine.usage.ensureCanAdd byteLength = .ok ()
  absent : machine.disk.lookup (.canonical id) = none
  only : ∀ other number, (.temporary other, number) ∈ machine.disk.entries → other = identifier
  isPrivate : file.mode &&& 0o077 = 0
  entry : ∃ number, (.temporary identifier, number) ∈ machine.disk.entries ∧
    machine.disk.files number = file ∧
    ∀ id, (.canonical id, number) ∉ machine.disk.entries

structure Linked (identifier : String) (machine : Machine) : Prop where
  running : machine.running = true
  genuine : Genuine sha256 kept (published machine.disk)
  usage : machine.usage = usageOf (published machine.disk)
  leftover : Leftover machine.disk
  only : ∀ other number, (.temporary other, number) ∈ machine.disk.entries → other = identifier
  entry : ∃ number, (.temporary identifier, number) ∈ machine.disk.entries

end States

section Publication

variable {sha256 : Sha256} {kept : List (List UInt8)}
  {machine : Machine} {identifier : String} {id : ArtifactId}
  {byteLength : Nat} {file : LinkedFile}

theorem Live.safe (h : Live sha256 kept machine) : Safe sha256 kept machine :=
  ⟨h.genuine, h.clean.leftover⟩

theorem Live.stopped (h : Live sha256 kept machine) :
    Stopped sha256 kept { machine with running := false } :=
  { genuine := h.genuine, leftover := h.clean.leftover, running := rfl }

theorem Live.mono {fewer : List (List UInt8)} (h : Live sha256 kept machine)
    (hsubset : fewer ⊆ kept) : Live sha256 fewer machine :=
  { h with genuine := h.genuine.mono hsubset }

variable {bytes : List UInt8} {F : ArtifactErrorCode → Machine → Prop}

theorem Live.keep (h : Live sha256 kept machine)
    (hmem : (sha256 bytes, file) ∈ published machine.disk)
    (hfile : file.bytes = bytes) : Live sha256 (bytes :: kept) machine := by
  refine { h with genuine := { h.genuine with holds := ?_ } }
  intro other hother
  rw [mem_cons] at hother
  rcases hother with rfl | hother
  · exact ⟨file, hmem, hfile⟩
  · exact h.genuine.holds other hother

section

variable (h : Writing sha256 kept identifier id byteLength file machine)
include h

theorem Writing.leftover : Leftover machine.disk := by
  constructor
  · intro first m second n hfirst hsecond
    rw [h.only first m hfirst, h.only second n hsecond]
  · intro other m hother
    obtain ⟨number, hentry, hfile, -⟩ := h.entry
    have hname := h.only other m hother
    subst hname
    rw [machine.disk.number_unique hother hentry, hfile]
    exact h.isPrivate

theorem Writing.stopped : Stopped sha256 kept { machine with running := false } :=
  { genuine := h.genuine, leftover := h.leftover, running := rfl }

theorem Writing.links {number : Nat}
    (hnumber : (.temporary identifier, number) ∈ machine.disk.entries) :
    machine.disk.files number = file ∧ machine.disk.links number = 1 := by
  obtain ⟨other, hentry, hfile, halone⟩ := h.entry
  rw [machine.disk.number_unique hnumber hentry]
  exact ⟨hfile, h.leftover.links_temporary hentry halone⟩

end

open Program (Settles)

theorem sealed_created (bytes : List UInt8) : Sealed ⟨bytes, 0o400⟩ := by
  simp [Sealed]

theorem createPrivateFile_settles : Settles (fun machine => Live sha256 kept machine ∧
        machine.disk.lookup (.canonical id) = none ∧
        machine.usage.ensureCanAdd byteLength = .ok ()) (createPrivateFile (.temporary identifier))
      (fun _ => Writing sha256 kept identifier id byteLength ⟨[], 0o600⟩) F
      (Stopped sha256 kept) := by
  apply settles_change
  · exact fun machine h => h.1.stopped
  rintro machine ⟨hlive, habsent, hroom⟩
  have hfree : machine.disk.lookup (.temporary identifier) = none :=
    lookup_eq_none.mpr (hlive.clean identifier)
  obtain ⟨created, hcreate, hentries, hfiles⟩ := create_of_lookup hfree 0o600
  refine ⟨created, hcreate, fun stop => ?_⟩
  have hold : ∀ name number, (name, number) ∈ machine.disk.entries →
      created.files number = machine.disk.files number := by
    intro name number hentry
    have hne : number ≠ machine.disk.next := Nat.ne_of_lt (machine.disk.fresh _ hentry)
    rw [hfiles, Function.update_of_ne hne]
  have hpublished : published created = published machine.disk := by
    rw [published_append hentries fun id => hold (.canonical id)]
    simp [publishedEntry]
  refine
    { running := hlive.running
      genuine := by rw [hpublished]; exact hlive.genuine
      usage := by rw [hpublished]; exact hlive.usage
      room := hroom
      absent := ?_
      only := ?_
      isPrivate := by decide
      entry := ⟨machine.disk.next, by simp [hentries], by simp [hfiles], ?_⟩ }
  · rw [lookup_eq_none] at habsent ⊢
    simpa [hentries] using habsent
  · intro other number hother
    rw [hentries, mem_append, mem_singleton] at hother
    rcases hother with hother | hother
    · exact absurd hother (hlive.clean other number)
    · simpa using (Prod.mk.inj hother).1
  · intro id hid
    rw [hentries, mem_append, mem_singleton] at hid
    rcases hid with hid | hid
    · exact absurd (machine.disk.fresh _ hid) (Nat.lt_irrefl _)
    · simp at hid

theorem Writing.modify {f : LinkedFile → LinkedFile} (hprivate : (f file).mode &&& 0o077 = 0) :
    Settles (Writing sha256 kept identifier id byteLength file) (change fun disk =>
        (disk.lookup (.temporary identifier)).map fun number => disk.modify number f)
      (fun _ => Writing sha256 kept identifier id byteLength (f file)) F (Stopped sha256 kept) := by
  apply settles_change
  · exact fun machine h => h.stopped
  intro machine h
  obtain ⟨number, hentry, hfile, halone⟩ := h.entry
  have hpublished : published (machine.disk.modify number f) =
      published machine.disk := published_modify halone
  refine ⟨machine.disk.modify number f, ?_, fun stop => ?_⟩
  · rw [Directory.lookup_eq_some.mpr hentry, Option.map_some]
  · exact
      { running := h.running
        genuine := by rw [hpublished]; exact h.genuine
        usage := by rw [hpublished]; exact h.usage
        room := h.room
        absent := h.absent
        only := h.only
        isPrivate := hprivate
        entry := ⟨number, hentry, by simp [Directory.modify, hfile], halone⟩ }

theorem writeAll_settles (bytes written : List UInt8) :
    Settles (Writing sha256 kept identifier id byteLength ⟨written, 0o600⟩)
      (writeAll (.temporary identifier) bytes) (fun _ =>
        Writing sha256 kept identifier id byteLength ⟨written ++ bytes, 0o600⟩)
      F (Stopped sha256 kept) := by
  induction bytes generalizing written with
  | nil =>
    apply Settles.pure
    intro machine h
    simpa using h
  | cons byte bytes ih =>
    apply Settles.bind
    · exact Writing.modify (by simp)
    · intro _
      simpa using ih (written ++ [byte])

theorem sealCreatedFile_settles (bytes : List UInt8) :
    Settles (Writing sha256 kept identifier id byteLength ⟨bytes, 0o600⟩)
      (sealCreatedFile (.temporary identifier)) (fun _ =>
        Writing sha256 kept identifier id byteLength ⟨bytes, 0o400⟩) F (Stopped sha256 kept) := by
  apply Settles.bind
  · exact Writing.modify (f := fun file => { file with mode := 0o400 }) (by simp)
  intro _
  apply settles_bind_disk
  intro disk
  apply settles_bind_check
  · rintro machine ⟨rfl, h⟩
    obtain ⟨number, hentry, -, -⟩ := h.entry
    exact ⟨number, requireSome_eq_ok.mpr (lookup_eq_some.mpr hentry)⟩
  intro number hnumber
  rw [requireSome_eq_ok, lookup_eq_some] at hnumber
  apply settles_check
  · rintro machine ⟨rfl, h⟩
    obtain ⟨hfile, hlinks⟩ := h.links hnumber
    apply verifySealedFile_eq_ok hlinks
    rw [hfile]
    exact sealed_created bytes
  · exact fun machine h => h.2

theorem prepare_settles (hid : sha256 bytes = id) (hshort : bytes.length ≤ maxArtifactBytes) :
    Settles (Writing sha256 kept identifier id byteLength ⟨[], 0o600⟩)
      (prepare sha256 (.temporary identifier) id bytes) (fun _ =>
        Writing sha256 kept identifier id byteLength ⟨bytes, 0o400⟩) F (Stopped sha256 kept) := by
  apply Settles.bind
  · exact writeAll_settles bytes []
  intro _
  apply Settles.bind
  · exact sealCreatedFile_settles bytes
  intro _
  apply settles_bind_disk
  intro disk
  have hread : ∀ machine, machine.disk = disk ∧
      Writing sha256 kept identifier id byteLength ⟨bytes, 0o400⟩ machine →
      readNamedVerified sha256 disk (.temporary identifier) id = .ok ⟨id, bytes⟩ := by
    rintro machine ⟨rfl, h⟩
    obtain ⟨number, hentry, -, -⟩ := h.entry
    obtain ⟨hfile, hlinks⟩ := h.links hentry
    have hnamed := @readNamedVerified_of_sealed sha256 machine.disk number id
      (.temporary identifier) hentry hlinks
    rw [hfile] at hnamed
    exact hnamed (sealed_created bytes) hshort hid
  apply settles_bind_check
  · exact fun machine h => ⟨_, hread machine h⟩
  intro prepared hprepared
  apply settles_check
  · intro machine h
    rw [hread machine h, Except.ok.injEq] at hprepared
    simp [← hprepared]
  · exact fun machine h => h.2

theorem ensureCanAdd_eq_ok {usage : ArtifactUsage} : usage.ensureCanAdd byteLength = .ok () ↔
      usage.objects + 1 ≤ maxArtifactObjects ∧
        usage.bytes + byteLength ≤ maxArtifactStoreBytes := by
  simp [ArtifactUsage.ensureCanAdd]

theorem add_of_room {usage : ArtifactUsage} (h : usage.ensureCanAdd byteLength = .ok ()) :
    usage.add byteLength = .ok ⟨usage.objects + 1, usage.bytes + byteLength⟩ := by
  have hroom := ensureCanAdd_eq_ok.mp h
  simp only [maxArtifactObjects, maxArtifactStoreBytes] at hroom
  simp only [ArtifactUsage.add, ArtifactUsage.includeExisting, ok_iff, h, true_and, and_true,
    not_lt]
  simp only [maxU64]
  omega

theorem hardLink_settles (hid : sha256 bytes = id) (hshort : bytes.length ≤ maxArtifactBytes) :
    Settles (Writing sha256 kept identifier id bytes.length ⟨bytes, 0o400⟩)
      (hardLink (.temporary identifier) id bytes.length)
      (fun _ => Linked sha256 (bytes :: kept) identifier) F (Stopped sha256 kept) := by
  apply settles_bind_disk
  intro disk
  cases hlookup : disk.lookup (.canonical id) with
  | some number =>
    rintro _ machine ⟨rfl, h⟩
    simp [h.absent] at hlookup
  | none =>
    apply Settles.bind
      (Q := fun _ machine =>
        Linked sha256 (bytes :: kept) identifier
          { machine with usage := usageOf (published machine.disk) } ∧
        machine.usage.ensureCanAdd bytes.length = .ok () ∧
        usageOf (published machine.disk) =
          ⟨machine.usage.objects + 1, machine.usage.bytes + bytes.length⟩)
    · apply settles_change
      · exact fun machine h => h.2.stopped
      rintro machine ⟨rfl, h⟩
      obtain ⟨number, hentry, hfile, -⟩ := h.entry
      obtain ⟨linked, hlink, hentries, hfiles⟩ := link_of_lookup hlookup hentry
      refine ⟨linked, ?_, fun stop => ⟨?_, h.room, ?_⟩⟩
      · rw [lookup_eq_some.mpr hentry]
        exact hlink
      all_goals
        have hpublished : published linked =
            published machine.disk ++ [(sha256 bytes, ⟨bytes, 0o400⟩)] := by
          rw [published_append hentries fun _ _ _ => by rw [hfiles]]
          simp [publishedEntry, hfiles, hfile, hid]
      · have hroom := (ensureCanAdd_eq_ok.mp h.room).1
        rw [h.usage] at hroom
        have honly : ∀ other n, (.temporary other, n) ∈ linked.entries →
            (.temporary other, n) ∈ machine.disk.entries := by
          intro other n hother
          rw [hentries, mem_append, mem_singleton] at hother
          rcases hother with hother | hother
          · exact hother
          · simp at hother
        exact
          { running := h.running
            genuine := by
              rw [hpublished]
              exact h.genuine.add (sealed_created bytes) hshort hroom
            usage := rfl
            leftover :=
              { unique := fun first m second n hfirst hsecond =>
                  h.leftover.unique first m second n (honly _ _ hfirst) (honly _ _ hsecond)
                isPrivate := fun other n hother => by
                  rw [hfiles]
                  exact h.leftover.isPrivate other n (honly _ _ hother) }
            only := fun other n hother => h.only other n (honly _ _ hother)
            entry := ⟨number, by simp [hentries, hentry]⟩ }
      · rw [hpublished, h.usage]
        simp [usageOf]
    · intro _
      apply settles_bind_usage
      intro usage
      apply settles_bind_check
      · rintro machine ⟨rfl, -, hroom, -⟩
        exact ⟨_, add_of_room hroom⟩
      intro added hadded
      apply Settles.update
      rintro machine ⟨rfl, h, hroom, husage⟩
      rw [add_of_room hroom, Except.ok.injEq] at hadded
      rw [← hadded, ← husage]
      exact h

theorem removeTemporaryObject_settles {stopped : List (List UInt8)} (hstopped : stopped ⊆ kept) :
    Settles (Linked sha256 kept identifier) (removeTemporaryObject (.temporary identifier))
      (fun _ => Live sha256 kept) F (Stopped sha256 stopped) := by
  apply settles_change
  · exact fun machine h =>
      { genuine := h.genuine.mono hstopped, leftover := h.leftover, running := rfl }
  intro machine h
  obtain ⟨number, hentry⟩ := h.entry
  refine ⟨machine.disk.unlink (.temporary identifier), ?_, fun stop => ?_⟩
  · rw [lookup_eq_some.mpr hentry, Option.map_some]
  · have hpublished := @published_unlink_temporary machine.disk identifier
    exact
      { running := h.running
        genuine := by rw [hpublished]; exact h.genuine
        clean := fun other n hother => by
          rw [mem_unlink] at hother
          exact hother.2 (congrArg _ (h.only other n hother.1))
        usage := by rw [hpublished]; exact h.usage }

theorem publish_settles (hid : sha256 bytes = id) (hshort : bytes.length ≤ maxArtifactBytes) :
    Settles (fun machine => Live sha256 kept machine ∧
        machine.disk.lookup (.canonical id) = none ∧
        machine.usage.ensureCanAdd bytes.length = .ok ())
      (publish sha256 (.temporary identifier) id bytes)
      (fun _ => Live sha256 (bytes :: kept)) (fun _ => Live sha256 kept) (Stopped sha256 kept) := by
  apply Settles.bind
  · exact createPrivateFile_settles
  intro _
  apply Settles.bind (Q := fun prepared machine => prepared = .ok () ∧
      Writing sha256 kept identifier id bytes.length ⟨bytes, 0o400⟩ machine)
  · apply Settles.attempt
    apply (prepare_settles hid hshort).weaken
    · exact fun machine h => h
    · exact fun _ machine h => ⟨rfl, h⟩
    · exact fun error machine (h : False) => h.elim
    · exact fun machine h => h
  intro prepared
  apply Settles.bind
    (Q := fun _ =>
      Writing sha256 kept identifier id bytes.length ⟨bytes, 0o400⟩)
  · rintro r machine ⟨rfl, h⟩
    exact h
  intro _
  apply Settles.bind
  · exact hardLink_settles hid hshort
  intro _
  apply Settles.bind
  · exact removeTemporaryObject_settles (by simp)
  intro _
  apply settles_bind_disk
  intro disk
  have hread : ∀ machine, machine.disk = disk ∧
      Live sha256 (bytes :: kept) machine →
      readVerified sha256 disk id = .ok ⟨id, bytes⟩ := by
    rintro machine ⟨rfl, h⟩
    obtain ⟨file, hmem, rfl⟩ := h.genuine.holds bytes (by simp)
    rw [hid] at hmem
    exact readVerified_of_clean h.genuine h.clean hmem
  apply settles_bind_check
  · exact fun machine h => ⟨_, hread machine h⟩
  intro stored hstored
  apply settles_bind_check
  · intro machine h
    rw [hread machine h, Except.ok.injEq] at hstored
    exact ⟨(), by simp [← hstored]⟩
  intro _ _
  apply Settles.bind (Q := fun _ => Live sha256 (bytes :: kept))
  · apply settles_change
    · exact fun machine h => (h.2.mono (by simp)).stopped
    · exact fun machine h => ⟨machine.disk, rfl, fun stop =>
        { running := h.2.running, genuine := h.2.genuine, clean := h.2.clean, usage := h.2.usage }⟩
  · intro _
    exact Settles.pure fun machine h => h

/-- A put ends with its object in the store, refuses before it changes
anything, or stops with the old objects in place. -/
theorem put_settles (bytes : List UInt8) (identifier : String) :
    Settles (Live sha256 kept) (put sha256 bytes identifier)
      (fun _ => Live sha256 (bytes :: kept)) (fun _ => Live sha256 kept) (Stopped sha256 kept) := by
  apply settles_bind_check_or
  · intro _ hshort
    rw [rejectIf_eq_ok, not_lt] at hshort
    apply settles_bind_disk
    intro disk
    cases hlookup : disk.lookup (.canonical (sha256 bytes)) with
    | some number =>
      apply settles_bind_check_or
      · intro stored hstored
        apply settles_bind_check_or
        · intro _ hbytes
          rw [rejectIf_eq_ok, ne_eq, not_not] at hbytes
          apply Settles.pure
          rintro machine ⟨rfl, h⟩
          obtain ⟨file, hmem, hfile⟩ := published_of_readVerified hstored
          exact h.keep hmem (hfile.trans hbytes)
        · exact fun _ machine h => h.2
      · exact fun _ machine h => h.2
    | none =>
      apply settles_bind_usage
      intro usage
      apply settles_bind_check_or
      · intro _ hroom
        apply (publish_settles rfl hshort).weaken
        · rintro machine ⟨rfl, rfl, h⟩
          exact ⟨h, hlookup, hroom⟩
        · exact fun _ _ h => h
        · exact fun _ _ h => h
        · exact fun _ h => h
      · exact fun _ machine h => h.2.2
  · exact fun _ machine h => h

end Publication

end CarlAgent.Artifacts
