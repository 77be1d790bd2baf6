import CarlAgent.Artifacts.Publication

/-!
# Removal and recovery

A removal takes unreferenced objects away one by one and counts each.  Opening
the store removes the temporary file that a stop left behind, whether or not
it has its canonical name, and counts what is left.
-/

namespace CarlAgent.Artifacts

open List Foundation CarlAgent.Task Staging Call Directory

variable {F : ArtifactErrorCode → Machine → Prop}

/-- Objects were removed, none of them referenced. -/
structure Retained (referenced : List ArtifactId) (before disk : Objects) : Prop where
  sublist : (published disk).Sublist (published before)
  referenced : ∀ object ∈ published before, object.1 ∈ referenced → object ∈ published disk

def Listed (referenced : List ArtifactId) (listed : List (ArtifactId × Nat))
    (disk : Objects) : Prop :=
  ∀ object ∈ listed, object.1 ∉ referenced →
    ∃ file, (object.1, file) ∈ published disk ∧ file.bytes.length = object.2

section Removal

open Program (Settles)

variable {sha256 : Sha256} {machine : Machine}
  {referenced : List ArtifactId} {before : Objects} {id : ArtifactId}
  {byteLength : Nat}

theorem Retained.unlink {disk : Objects} (h : Retained referenced before disk)
    (hid : id ∉ referenced) : Retained referenced before (disk.unlink (.canonical id)) := by
  constructor
  · rw [published_unlink_canonical]
    exact filter_sublist.trans h.sublist
  · intro object hobject hreferenced
    rw [published_unlink_canonical, mem_filter]
    refine ⟨h.referenced object hobject hreferenced, ?_⟩
    simp only [ne_eq, decide_eq_true_eq]
    rintro rfl
    exact hid hreferenced

/-- The removed object is still counted. -/
structure Uncounted (sha256 : Sha256) (byteLength : Nat)
    (machine : Machine) : Prop where
  live : Live sha256 [] { machine with usage := usageOf (published machine.disk) }
  usage : machine.usage = ⟨(usageOf (published machine.disk)).objects + 1,
      (usageOf (published machine.disk)).bytes + byteLength⟩

theorem removeVerifiedCanonicalObject_settles (hid : id ∉ referenced)
    {rest : List (ArtifactId × Nat)} (hrest : id ∉ rest.map Prod.fst) :
    Settles (fun machine => Live sha256 [] machine ∧
        Retained referenced before machine.disk ∧
        Listed referenced ((id, byteLength) :: rest) machine.disk)
      (removeVerifiedCanonicalObject id byteLength)
      (fun _ machine => Uncounted sha256 byteLength machine ∧
        Retained referenced before machine.disk ∧
        Listed referenced rest machine.disk) F
      (fun machine => Stopped sha256 [] machine ∧ Retained referenced before machine.disk) := by
  apply settles_bind_disk
  intro disk
  apply settles_bind_check
  · rintro machine ⟨rfl, hlive, -, hlisted⟩
    obtain ⟨file, hmem, -⟩ := hlisted (id, byteLength) (by simp) hid
    obtain ⟨number, hentry, -⟩ := mem_published.mp hmem
    exact ⟨number, requireSome_eq_ok.mpr (lookup_eq_some.mpr hentry)⟩
  intro number hnumber
  rw [requireSome_eq_ok, lookup_eq_some] at hnumber
  have hobject : (id, disk.files number) ∈ published disk :=
    mem_published.mpr ⟨number, hnumber, rfl⟩
  apply settles_bind_check
  · rintro machine ⟨rfl, hlive, -, -⟩
    exact ⟨(), verifySealedFile_eq_ok (hlive.genuine.links_canonical hnumber fun identifier =>
        hlive.clean identifier number) (hlive.genuine.isSealed _ hobject)⟩
  intro _ _
  apply settles_bind_check
  · rintro machine ⟨rfl, hlive, -, hlisted⟩
    obtain ⟨file, hmem, hlength⟩ := hlisted (id, byteLength) (by simp) hid
    have hsame := published_unique hobject hmem rfl
    simp only [Prod.mk.injEq, true_and] at hsame
    rw [hsame]
    exact ⟨(), by simp [hlength]⟩
  intro _ hlength
  rw [rejectIf_eq_ok, ne_eq, not_not] at hlength
  apply settles_change
  · rintro machine ⟨rfl, hlive, hretained, -⟩
    exact ⟨hlive.stopped, hretained⟩
  rintro machine ⟨rfl, hlive, hretained, hlisted⟩
  refine ⟨machine.disk.unlink (.canonical id), ?_, fun stop => ⟨?_, ?_, ?_⟩⟩
  · rw [lookup_eq_some.mpr hnumber, Option.map_some]
  · constructor
    · exact
        { running := hlive.running
          genuine := hlive.genuine.sublist
            (by rw [published_unlink_canonical]; exact filter_sublist)
            (by simp)
          clean := fun identifier n hentry =>
            hlive.clean identifier n (mem_unlink.mp hentry).1
          usage := rfl }
    · rw [hlive.usage, usageOf_perm (published_perm_cons hobject)]
      simp [usageOf, hlength, Nat.add_comm]
  · exact hretained.unlink hid
  · intro object hmem hreferenced
    obtain ⟨file, hfile, hbytes⟩ := hlisted object (mem_cons_of_mem _ hmem) hreferenced
    refine ⟨file, ?_, hbytes⟩
    rw [published_unlink_canonical, mem_filter]
    refine ⟨hfile, ?_⟩
    simp only [ne_eq, decide_eq_true_eq]
    rintro rfl
    exact hrest (mem_map.mpr ⟨object, hmem, rfl⟩)

theorem removeUnreferenced_settles (listed : List (ArtifactId × Nat))
    (hnodup : (listed.map Prod.fst).Nodup) : Settles (fun machine => Live sha256 [] machine ∧
        Retained referenced before machine.disk ∧
        Listed referenced listed machine.disk) (removeUnreferenced referenced listed)
      (fun _ machine => Live sha256 [] machine ∧ Retained referenced before machine.disk) F
      (fun machine => Stopped sha256 [] machine ∧ Retained referenced before machine.disk) := by
  induction listed with
  | nil =>
    rw [removeUnreferenced, pause]
    apply settles_change
    · exact fun machine h => ⟨h.1.stopped, h.2.1⟩
    · exact fun machine h => ⟨machine.disk, rfl, fun stop =>
        ⟨{ running := h.1.running, genuine := h.1.genuine, clean := h.1.clean,
           usage := h.1.usage }, h.2.1⟩⟩
  | cons object rest ih =>
    obtain ⟨id, byteLength⟩ := object
    rw [map_cons, nodup_cons] at hnodup
    rw [removeUnreferenced]
    split
    · apply (ih hnodup.2).weaken
      · exact fun machine h => ⟨h.1, h.2.1, fun object hmem =>
          h.2.2 object (mem_cons_of_mem _ hmem)⟩
      · exact fun _ _ h => h
      · exact fun _ _ h => h
      · exact fun _ h => h
    · rename_i hid
      apply Settles.bind
      · exact removeVerifiedCanonicalObject_settles hid hnodup.1
      intro _
      apply settles_bind_usage
      intro usage
      apply settles_bind_check
      · rintro machine ⟨rfl, huncounted, -, -⟩
        rw [huncounted.usage]
        exact ⟨usageOf (published machine.disk), by
          simp [ArtifactUsage.remove, rejectIf, bind, Except.bind]⟩
      intro removed hremoved
      apply Settles.bind (Q := fun _ machine => Live sha256 [] machine ∧
          Retained referenced before machine.disk ∧
          Listed referenced rest machine.disk)
      · apply Settles.update
        rintro machine ⟨rfl, huncounted, hretained, hlisted⟩
        have hcount : removed = usageOf (published machine.disk) := by
          rw [huncounted.usage] at hremoved
          simpa [ArtifactUsage.remove, rejectIf, bind, Except.bind, eq_comm] using hremoved
        rw [hcount]
        exact ⟨huncounted.live, hretained, hlisted⟩
      · intro _
        exact ih hnodup.2

theorem retainOnly_settles {kept : List (List UInt8)} (referenced : List ArtifactId)
    (before : Objects) :
    Settles (fun machine => machine.disk = before ∧ Live sha256 kept machine)
      (retainOnly referenced)
      (fun _ machine => Live sha256 [] machine ∧ Retained referenced before machine.disk) F
      (fun machine => Stopped sha256 [] machine ∧ Retained referenced before machine.disk) := by
  apply settles_bind_disk
  intro disk
  apply settles_bind_check
  · rintro machine ⟨rfl, rfl, h⟩
    exact ⟨_, inspectArtifactDirectory_of_clean h.genuine h.clean⟩
  intro inventory hinventory
  rintro r machine ⟨rfl, rfl, h⟩
  rw [inspectArtifactDirectory_of_clean h.genuine h.clean, Except.ok.injEq] at hinventory
  subst hinventory
  apply removeUnreferenced_settles
  · simpa [map_map, Function.comp_def] using published_ids_nodup machine.disk
  · refine ⟨h.mono (by simp), ⟨List.Sublist.refl _, fun _ hmem _ => hmem⟩, ?_⟩
    intro object hmem _
    obtain ⟨found, hfound, rfl⟩ := mem_map.mp hmem
    exact ⟨found.2, hfound, rfl⟩

end Removal

section Opening

open Program (Settles)

variable {sha256 : Sha256} {kept : List (List UInt8)}
  {machine : Machine} {identifier : String}

/-- Recovery has still to visit the names in `rest`. -/
structure Recovering (sha256 : Sha256)
    (kept : List (List UInt8)) (rest : List ObjectName) (machine : Machine) :
    Prop extends Stopped sha256 kept machine where
  ahead : ∀ identifier, .temporary identifier ∈ rest ↔
    ∃ number, (.temporary identifier, number) ∈ machine.disk.entries

variable {rest : List ObjectName}

theorem Recovering.unlink (h : Recovering sha256 kept (.temporary identifier :: rest) machine)
    (hrest : .temporary identifier ∉ rest) (stop : Option Nat) : Recovering sha256 kept rest
      { machine with disk := machine.disk.unlink (.temporary identifier), stop } := by
  refine { genuine := ?_, leftover := ⟨?_, ?_⟩, running := h.running, ahead := ?_ }
  · rw [published_unlink_temporary]
    exact h.genuine
  · intro first m second n hfirst hsecond
    exact h.leftover.unique first m second n (mem_unlink.mp hfirst).1
      (mem_unlink.mp hsecond).1
  · intro other number hother
    exact h.leftover.isPrivate other number (mem_unlink.mp hother).1
  · intro other
    have hahead := h.ahead other
    rw [mem_cons] at hahead
    simp only [mem_unlink]
    by_cases heq : other = identifier
    · subst heq
      simp [hrest]
    · simpa [heq] using hahead

theorem removeTemporaryObject_recovers (hrest : .temporary identifier ∉ rest) {disk : Objects} :
    Settles (fun machine => machine.disk = disk ∧
        Recovering sha256 kept (.temporary identifier :: rest) machine)
      (removeTemporaryObject (.temporary identifier)) (fun _ machine =>
        machine.disk = disk.unlink (.temporary identifier) ∧
        Recovering sha256 kept rest machine) F (Stopped sha256 kept) := by
  apply settles_change
  · exact fun machine h => { h.2.toStopped with running := rfl }
  rintro machine ⟨rfl, h⟩
  obtain ⟨number, hentry⟩ := (h.ahead identifier).mp (by simp)
  refine ⟨machine.disk.unlink (.temporary identifier), ?_, fun stop => ?_⟩
  · rw [lookup_eq_some.mpr hentry, Option.map_some]
  · exact ⟨rfl, h.unlink hrest stop⟩

theorem recoverLinked_settles {disk : Objects} {number : Nat} (hrest : .temporary identifier ∉ rest)
    (honly : ∀ other n, (.temporary other, n) ∈ disk.entries → other = identifier)
    (hlinks : disk.links number = 2) (hsealed : Sealed (disk.files number))
    (hshort : (disk.files number).bytes.length ≤ maxArtifactBytes)
    (hcanonical : (.canonical (sha256 (disk.files number).bytes), number) ∈ disk.entries) :
    Settles (fun machine => machine.disk = disk ∧
        Recovering sha256 kept (.temporary identifier :: rest) machine)
      (recoverLinked sha256 (.temporary identifier) disk number)
      (fun _ => Recovering sha256 kept rest) F (Stopped sha256 kept) := by
  have hrecoverable : verifyRecoverablePublication disk number = .ok () := by
    rw [verifyRecoverablePublication, rejectIf_eq_ok, not_not]
    exact ⟨hlinks, hsealed⟩
  have hlookup := lookup_eq_some.mpr hcanonical
  unfold recoverLinked
  simp only [hrecoverable, hlookup]
  apply settles_bind_check fun _ _ => ⟨(), rfl⟩
  intro _ _
  apply settles_bind_check fun _ _ =>
    ⟨(), rejectIf_eq_ok.mpr (not_lt.mpr hshort)⟩
  intro _ _
  apply settles_bind_check fun _ _ => ⟨number, rfl⟩
  rintro canonical ⟨⟩
  apply settles_bind_check fun _ _ => ⟨(), hrecoverable⟩
  intro _ _
  apply settles_bind_check fun _ _ => ⟨(), by simp⟩
  intro _ _
  apply Settles.bind
  · exact removeTemporaryObject_recovers hrest
  intro _
  apply settles_bind_disk
  intro later
  have hlater : ∀ machine, machine.disk = later ∧
      machine.disk = disk.unlink (.temporary identifier) ∧
        Recovering sha256 kept rest machine →
      (.canonical (sha256 (disk.files number).bytes), number) ∈
          later.entries ∧ verifySealedFile later number = .ok () := by
    rintro machine ⟨rfl, hdisk, h⟩
    have hentry : (.canonical (sha256 (disk.files number).bytes), number) ∈
        machine.disk.entries := by
      rw [hdisk, mem_unlink]
      exact ⟨hcanonical, by simp⟩
    refine ⟨hentry, verifySealedFile_eq_ok ?_ ?_⟩
    · apply h.genuine.links_canonical hentry
      intro other hother
      rw [hdisk, mem_unlink] at hother
      exact hother.2 (congrArg _ (honly other number hother.1))
    · rw [hdisk]
      exact hsealed
  apply settles_bind_check
  · exact fun machine h => ⟨number, requireSome_eq_ok.mpr (lookup_eq_some.mpr (hlater machine h).1)⟩
  intro canonical hfound
  rw [requireSome_eq_ok, lookup_eq_some] at hfound
  apply settles_bind_check
  · intro machine h
    rw [later.number_unique hfound (hlater machine h).1]
    exact ⟨(), (hlater machine h).2⟩
  intro _ _
  apply settles_check
  · intro machine h
    rw [later.number_unique hfound (hlater machine h).1]
    simp
  · exact fun machine h => h.2.2

theorem recoverPublication_settles (hrest : .temporary identifier ∉ rest) :
    Settles (Recovering sha256 kept (.temporary identifier :: rest))
      (recoverPublication sha256 identifier)
      (fun _ => Recovering sha256 kept rest) F (Stopped sha256 kept) := by
  apply settles_bind_disk
  intro disk
  apply settles_bind_check
  · rintro machine ⟨rfl, h⟩
    obtain ⟨number, hentry⟩ := (h.ahead identifier).mp (by simp)
    exact ⟨number, requireSome_eq_ok.mpr (lookup_eq_some.mpr hentry)⟩
  intro number hnumber
  rw [requireSome_eq_ok, lookup_eq_some] at hnumber
  by_cases hlinks : disk.links number = 1
  · rw [if_pos hlinks]
    apply settles_bind_check
    · rintro machine ⟨rfl, h⟩
      exact ⟨(), by
        simp [verifyPrivateTemporary, hlinks, h.leftover.isPrivate identifier number hnumber]⟩
    intro _ _
    apply (removeTemporaryObject_recovers hrest).weaken
    · exact fun machine h => h
    · exact fun _ machine h => h.2
    · exact fun _ _ h => h
    · exact fun _ h => h
  · rw [if_neg hlinks]
    rintro r machine ⟨rfl, h⟩
    have hcanonical : (.canonical (sha256 (machine.disk.files number).bytes),
        number) ∈ machine.disk.entries := by
      by_contra habsent
      apply hlinks
      apply h.leftover.links_temporary hnumber
      intro id hid
      rw [← h.genuine.id_eq hid] at hid
      exact habsent hid
    have hobject : (_, machine.disk.files number) ∈ published machine.disk :=
      mem_published.mpr ⟨number, hcanonical, rfl⟩
    have htwo := h.leftover.links_shared h.genuine hnumber hcanonical
    have hlinked := @recoverLinked_settles F sha256 kept identifier rest machine.disk number hrest
      (fun other n hother => h.leftover.unique other n identifier number hother
        hnumber) htwo (h.genuine.isSealed _ hobject)
      (h.genuine.short _ hobject) hcanonical
    have hcheck := settles_bind_check
      (x := rejectIf (machine.disk.links number ≠ 2) ArtifactErrorCode.corrupt)
      (fun _ _ => ⟨(), by simp [htwo]⟩) fun _ _ => hlinked
    exact hcheck r machine ⟨rfl, h⟩

theorem recoverInterruptedPublications_settles (seen : Nat) (names : List ObjectName)
    (hnodup : names.Nodup) (hseen : seen + names.length ≤ maxArtifactDirectoryEntries) :
    Settles (Recovering sha256 kept names) (recoverInterruptedPublications sha256 seen names)
      (fun _ => Recovering sha256 kept []) F (Stopped sha256 kept) := by
  induction names generalizing seen with
  | nil => exact Settles.pure fun machine h => h
  | cons name rest ih =>
    rw [nodup_cons] at hnodup
    rw [length_cons] at hseen
    apply settles_bind_check
    · exact fun _ _ => ⟨(), rejectIf_eq_ok.mpr (by omega)⟩
    intro _ _
    apply Settles.bind (Q := fun _ => Recovering sha256 kept rest)
    · cases name with
      | canonical id =>
        apply Settles.pure
        intro machine h
        refine { h.toStopped with ahead := fun identifier => ?_ }
        rw [← h.ahead identifier]
        simp
      | temporary identifier => exact recoverPublication_settles hnodup.1
    · intro _
      exact ih (seen + 1) hnodup.2 (by omega)

theorem Safe.length_le (h : Safe sha256 kept machine) :
    machine.disk.entries.length ≤ maxArtifactObjects + 1 := by
  have hfew := h.genuine.few
  rw [published, length_filterMap_eq_countP] at hfew
  have hone : machine.disk.entries.countP
      (fun entry => ¬ (publishedEntry machine.disk entry).isSome) ≤ 1 := by
    rw [countP_eq_length_filter]
    apply length_le_one_of_nodup (machine.disk.entries_nodup.filter _)
    rintro ⟨first, m⟩ hfirst ⟨second, n⟩ hsecond
    rw [mem_filter] at hfirst hsecond
    cases first with
    | canonical id => simp [publishedEntry] at hfirst
    | temporary firstIdentifier =>
      cases second with
      | canonical id => simp [publishedEntry] at hsecond
      | temporary secondIdentifier =>
        have heq := h.leftover.unique _ _ _ _ hfirst.1 hsecond.1
        subst heq
        rw [machine.disk.number_unique hfirst.1 hsecond.1]
  rw [length_eq_countP_add_countP fun entry =>
    (publishedEntry machine.disk entry).isSome]
  omega

/-- Opening a store that a stop left behind gives a store without temporary
files, whose usage is what the directory holds. -/
theorem openStore_settles : Settles (Safe sha256 kept) (openStore sha256)
      (fun _ => Live sha256 kept) F (Stopped sha256 kept) := by
  apply Settles.bind (Q := fun _ => Stopped sha256 kept)
  · exact Settles.update fun machine h => { h with running := rfl }
  intro _
  apply settles_bind_disk
  intro disk
  apply Settles.bind (Q := fun _ => Recovering sha256 kept [])
  · rintro r machine ⟨rfl, h⟩
    have hlength := h.toSafe.length_le
    apply recoverInterruptedPublications_settles 0 _ machine.disk.nodup
    · simp only [maxArtifactObjects] at hlength
      simp only [maxArtifactDirectoryEntries, length_map]
      omega
    · exact { h with ahead := fun identifier => by simp }
  intro _
  apply settles_bind_disk
  intro later
  have hclean : ∀ machine, Recovering sha256 kept [] machine → Clean machine.disk := by
    intro machine h identifier number hentry
    have hmem := (h.ahead identifier).mpr ⟨number, hentry⟩
    simp at hmem
  apply settles_bind_check
  · rintro machine ⟨rfl, h⟩
    exact ⟨_, by
      rw [scanArtifactUsage, inspectArtifactDirectory_of_clean h.genuine (hclean machine h)]
      rfl⟩
  intro usage husage
  apply Settles.bind (Q := fun _ machine => machine.disk = later ∧
      Recovering sha256 kept [] machine)
  · apply settles_change
    · exact fun machine h => { h.2.toStopped with running := rfl }
    · exact fun machine h => ⟨machine.disk, rfl, fun stop => ⟨h.1,
        { genuine := h.2.genuine, leftover := h.2.leftover, running := h.2.running,
          ahead := h.2.ahead }⟩⟩
  intro _
  apply Settles.update
  rintro machine ⟨rfl, h⟩
  rw [scanArtifactUsage, inspectArtifactDirectory_of_clean h.genuine (hclean machine h)] at husage
  cases husage
  exact { running := rfl, genuine := h.genuine, clean := hclean machine h, usage := rfl }

end Opening

/-! ## A call that is not stopped -/

section Unstoppable

open Program (Settles)

variable {α β : Type}

def Unstoppable (call : Call α) : Prop :=
  Settles (fun machine => machine.stop = none) call (fun _ machine => machine.stop = none)
    (fun _ machine => machine.stop = none) fun _ => False

theorem Unstoppable.bind {call : Call α} {k : α → Call β} (hcall : Unstoppable call)
    (hk : ∀ a, Unstoppable (k a)) : Unstoppable (call >>= k) :=
  Settles.bind hcall hk

theorem unstoppable_pure (a : α) : Unstoppable (pure a) :=
  Settles.pure fun _ h => h

theorem unstoppable_check (x : Except ArtifactErrorCode α) : Unstoppable (check x) := by
  cases x with
  | ok a => exact unstoppable_pure a
  | error error => exact Settles.fail fun _ h => h

theorem unstoppable_disk : Unstoppable disk :=
  Settles.read fun _ h => h

theorem unstoppable_change (f : Objects → Option Objects) : Unstoppable (change f) := by
  rintro _ ⟨disk, usage, running, stop⟩ rfl
  simp only [change]
  cases f disk <;> rfl

theorem unstoppable_update {change : Machine → Machine}
    (h : ∀ machine, (change machine).stop = machine.stop) : Unstoppable (Program.update change) :=
  Settles.update fun machine hstop => (h machine).trans hstop

variable {sha256 : Sha256}

theorem unstoppable_recoverLinked (name : ObjectName) (disk : Objects)
    (number : Nat) : Unstoppable (recoverLinked sha256 name disk number) :=
  (unstoppable_check _).bind fun _ => (unstoppable_check _).bind fun _ =>
    (unstoppable_check _).bind fun _ => (unstoppable_check _).bind fun _ =>
      (unstoppable_check _).bind fun _ => (unstoppable_change _).bind fun _ =>
        unstoppable_disk.bind fun _ => (unstoppable_check _).bind fun _ =>
          (unstoppable_check _).bind fun _ => unstoppable_check _

theorem unstoppable_recoverPublication (identifier : String) :
    Unstoppable (recoverPublication sha256 identifier) := by
  apply unstoppable_disk.bind
  intro disk
  apply (unstoppable_check _).bind
  intro number
  split
  · exact (unstoppable_check _).bind fun _ => unstoppable_change _
  · exact (unstoppable_check _).bind fun _ =>
      unstoppable_recoverLinked _ disk number

theorem unstoppable_recoverInterruptedPublications (seen : Nat) (names : List ObjectName) :
    Unstoppable (recoverInterruptedPublications sha256 seen names) := by
  induction names generalizing seen with
  | nil => exact unstoppable_pure ()
  | cons name rest ih =>
    apply (unstoppable_check _).bind
    intro _
    apply Unstoppable.bind
    · cases name with
      | canonical id => exact unstoppable_pure ()
      | temporary identifier => exact unstoppable_recoverPublication identifier
    · intro _
      exact ih (seen + 1)

theorem unstoppable_openStore : Unstoppable (openStore sha256) := by
  apply Unstoppable.bind
  · exact unstoppable_update fun _ => rfl
  intro _
  apply unstoppable_disk.bind
  intro disk
  apply (unstoppable_recoverInterruptedPublications 0 _).bind
  intro _
  apply unstoppable_disk.bind
  intro later
  apply (unstoppable_check _).bind
  intro usage
  apply (unstoppable_change _).bind
  intro _
  exact unstoppable_update fun _ => rfl

end Unstoppable

end CarlAgent.Artifacts
