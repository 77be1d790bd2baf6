import CarlAgent.Artifacts.Store
import Mathlib.Algebra.BigOperators.Group.List.Basic

/-!
# Published objects

What the store holds is the list of its canonical names with their files.  The
checks on a directory follow from facts about this list and about the one
temporary file that may stand beside it, and each step of the file system
changes the list in one place or not at all.
-/

namespace CarlAgent.Artifacts

open List Foundation CarlAgent.Task Staging Directory

def publishedEntry (disk : Objects) : ObjectName × Nat → Option (ArtifactId × LinkedFile)
  | (.canonical id, number) => some (id, disk.files number)
  | (.temporary _, _) => none

def published (disk : Objects) : List (ArtifactId × LinkedFile) :=
  disk.entries.filterMap (publishedEntry disk)

def usageOf (objects : List (ArtifactId × LinkedFile)) : ArtifactUsage :=
  ⟨objects.length, (objects.map fun object => object.2.bytes.length).sum⟩

def Sealed (file : LinkedFile) : Prop :=
  file.mode &&& 0o077 = 0 ∧ file.mode &&& 0o222 = 0

/-- Every object is sealed under the digest of its bytes, and every kept
content is among them. -/
structure Genuine (sha256 : Sha256)
    (kept : List (List UInt8)) (objects : List (ArtifactId × LinkedFile)) :
    Prop where
  isSealed : ∀ object ∈ objects, Sealed object.2
  digest : ∀ object ∈ objects, sha256 object.2.bytes = object.1
  short : ∀ object ∈ objects, object.2.bytes.length ≤ maxArtifactBytes
  few : objects.length ≤ maxArtifactObjects
  holds : ∀ bytes ∈ kept, ∃ file, (sha256 bytes, file) ∈ objects ∧ file.bytes = bytes

/-- A stopped publication leaves one private temporary file. -/
structure Leftover (disk : Objects) : Prop where
  unique : ∀ first m second n, (.temporary first, m) ∈ disk.entries →
    (.temporary second, n) ∈ disk.entries → first = second
  isPrivate : ∀ identifier number, (.temporary identifier, number) ∈ disk.entries →
      (disk.files number).mode &&& 0o077 = 0

def Clean (disk : Objects) : Prop :=
  ∀ identifier number, (.temporary identifier, number) ∉ disk.entries

theorem Clean.leftover {disk : Objects} (h : Clean disk) : Leftover disk :=
  ⟨fun first m _ _ hfirst => absurd hfirst (h first m),
    fun identifier number hentry => absurd hentry (h identifier number)⟩

section Lists

variable {sha256 : Sha256} {kept : List (List UInt8)}
  {objects others : List (ArtifactId × LinkedFile)}

theorem usageOf_perm (h : objects.Perm others) : usageOf objects = usageOf others := by
  simp only [usageOf, h.length_eq, (h.map _).sum_eq]

theorem Genuine.perm (h : Genuine sha256 kept objects)
    (hperm : others.Perm objects) : Genuine sha256 kept others := by
  refine ⟨?_, ?_, ?_, ?_, ?_⟩
  · exact fun object hobject => h.isSealed object (hperm.mem_iff.mp hobject)
  · exact fun object hobject => h.digest object (hperm.mem_iff.mp hobject)
  · exact fun object hobject => h.short object (hperm.mem_iff.mp hobject)
  · rw [hperm.length_eq]
    exact h.few
  · intro bytes hbytes
    obtain ⟨file, hmem, hfile⟩ := h.holds bytes hbytes
    exact ⟨file, hperm.mem_iff.mpr hmem, hfile⟩

theorem Genuine.mono {fewer : List (List UInt8)} (h : Genuine sha256 kept objects)
    (hsubset : fewer ⊆ kept) : Genuine sha256 fewer objects :=
  { h with holds := fun bytes hbytes => h.holds bytes (hsubset hbytes) }

theorem Genuine.sublist {remaining : List (List UInt8)} (h : Genuine sha256 kept objects)
    (hsublist : others.Sublist objects)
    (hholds : ∀ bytes ∈ remaining, ∃ file, (sha256 bytes, file) ∈ others ∧ file.bytes = bytes) :
    Genuine sha256 remaining others :=
  { isSealed := fun object hobject => h.isSealed object (hsublist.subset hobject)
    digest := fun object hobject => h.digest object (hsublist.subset hobject)
    short := fun object hobject => h.short object (hsublist.subset hobject)
    few := hsublist.length_le.trans h.few
    holds := hholds }

theorem Genuine.add {file : LinkedFile} (h : Genuine sha256 kept objects) (hsealed : Sealed file)
    (hshort : file.bytes.length ≤ maxArtifactBytes)
    (hroom : objects.length + 1 ≤ maxArtifactObjects) :
    Genuine sha256 (file.bytes :: kept) (objects ++ [(sha256 file.bytes, file)]) := by
  refine ⟨?_, ?_, ?_, ?_, ?_⟩
  · exact forall_mem_append.mpr ⟨h.isSealed, forall_mem_singleton.mpr hsealed⟩
  · exact forall_mem_append.mpr ⟨h.digest, forall_mem_singleton.mpr rfl⟩
  · exact forall_mem_append.mpr ⟨h.short, forall_mem_singleton.mpr hshort⟩
  · simpa using hroom
  · intro bytes hbytes
    rw [mem_cons] at hbytes
    rcases hbytes with rfl | hbytes
    · exact ⟨file, by simp, rfl⟩
    · obtain ⟨other, hmem, hother⟩ := h.holds bytes hbytes
      exact ⟨other, mem_append_left _ hmem, hother⟩

end Lists

/-! ## The list under the steps of the file system -/

section Steps

variable {disk later : Objects} {number : Nat} {id : ArtifactId}

theorem mem_published {object : ArtifactId × LinkedFile} : object ∈ published disk ↔
      ∃ number, (.canonical object.1, number) ∈ disk.entries ∧ disk.files number = object.2 := by
  simp only [published, mem_filterMap]
  constructor
  · rintro ⟨⟨name, number⟩, hentry, hobject⟩
    cases name with
    | temporary identifier => simp [publishedEntry] at hobject
    | canonical id =>
      simp only [publishedEntry, Option.some.injEq] at hobject
      subst hobject
      exact ⟨number, hentry, rfl⟩
  · rintro ⟨number, hentry, hfile⟩
    exact ⟨_, hentry, by simp [publishedEntry, hfile]⟩

theorem published_congr (hentries : later.entries = disk.entries)
    (hfiles : ∀ id number, (.canonical id, number) ∈ disk.entries →
      later.files number = disk.files number) : published later = published disk := by
  unfold published
  rw [hentries]
  apply filterMap_congr
  rintro ⟨name, number⟩ hentry
  cases name with
  | temporary identifier => rfl
  | canonical id => simp [publishedEntry, hfiles id number hentry]

theorem published_append {name : ObjectName}
    (hentries : later.entries = disk.entries ++ [(name, number)])
    (hfiles : ∀ id number, (.canonical id, number) ∈ disk.entries →
      later.files number = disk.files number) :
    published later = published disk ++ (publishedEntry later (name, number)).toList := by
  have hbefore : disk.entries.filterMap (publishedEntry later) = published disk := by
    apply filterMap_congr
    rintro ⟨name, number⟩ hentry
    cases name with
    | temporary identifier => rfl
    | canonical id => simp [publishedEntry, hfiles id number hentry]
  rw [published, hentries, filterMap_append, hbefore]
  cases h : publishedEntry later (name, number) <;> simp [h]

theorem published_modify {f : LinkedFile → LinkedFile}
    (h : ∀ id, (.canonical id, number) ∉ disk.entries) :
    published (disk.modify number f) = published disk := by
  apply published_congr
  · rfl
  intro id other hother
  have hne : other ≠ number := by
    rintro rfl
    exact h id hother
  simp [Directory.modify, Function.update_of_ne hne]

theorem published_unlink_temporary (identifier : String) :
    published (disk.unlink (.temporary identifier)) = published disk := by
  unfold published unlink
  rw [filterMap_filter]
  apply filterMap_congr
  rintro ⟨name, number⟩ -
  cases name with
  | temporary other => split <;> rfl
  | canonical id => simp [publishedEntry]

theorem published_unlink_canonical (id : ArtifactId) : published (disk.unlink (.canonical id)) =
      (published disk).filter fun object => object.1 ≠ id := by
  unfold published unlink
  rw [filterMap_filter, filter_filterMap]
  apply filterMap_congr
  rintro ⟨name, number⟩ -
  cases name with
  | temporary other => simp [publishedEntry]
  | canonical other => by_cases h : other = id <;> simp [publishedEntry, h, Option.filter]

theorem published_relist (entries : List (ObjectName × Nat)) :
    (published (disk.relist entries)).Perm (published disk) := by
  have hentry : publishedEntry (disk.relist entries) = publishedEntry disk := by
    funext entry
    unfold publishedEntry
    rw [relist_files]
  unfold published
  rw [hentry]
  exact (disk.relist_perm entries).filterMap _

theorem published_ids_nodup (disk : Objects) : ((published disk).map Prod.fst).Nodup := by
  rw [List.Nodup, pairwise_map, published, pairwise_filterMap]
  have hnames := pairwise_map.mp disk.nodup
  refine hnames.imp ?_
  rintro ⟨first, _⟩ ⟨second, _⟩ hne left hleft right hright heq
  cases first <;> cases second <;> cases hleft <;> cases hright
  exact hne (congrArg ObjectName.canonical heq)

theorem published_unique {first second : ArtifactId × LinkedFile} (hfirst : first ∈ published disk)
    (hsecond : second ∈ published disk) (h : first.1 = second.1) : first = second :=
  List.inj_on_of_nodup_map (published_ids_nodup disk) hfirst hsecond h

theorem published_perm_cons {object : ArtifactId × LinkedFile} (h : object ∈ published disk) :
    (published disk).Perm (object :: published (disk.unlink (.canonical object.1))) := by
  rw [published_unlink_canonical]
  have hnodup : (published disk).Nodup := (published_ids_nodup disk).of_map
  rw [perm_ext_iff_of_nodup hnodup]
  · intro other
    simp only [mem_cons, mem_filter, decide_eq_true_eq]
    constructor
    · intro hother
      by_cases hid : other.1 = object.1
      · exact .inl (published_unique hother h hid)
      · exact .inr ⟨hother, hid⟩
    · rintro (rfl | ⟨hother, -⟩)
      · exact h
      · exact hother
  · rw [nodup_cons]
    exact ⟨by simp, hnodup.filter _⟩

end Steps

section Checks

variable {sha256 : Sha256} {kept : List (List UInt8)}
  {disk : Objects} {number : Nat} {id : ArtifactId} {identifier : String}

theorem Genuine.id_eq (h : Genuine sha256 kept (published disk))
    (hentry : (.canonical id, number) ∈ disk.entries) : sha256 (disk.files number).bytes = id :=
  h.digest (id, disk.files number) (mem_published.mpr ⟨number, hentry, rfl⟩)

theorem Genuine.links_canonical (h : Genuine sha256 kept (published disk))
    (hentry : (.canonical id, number) ∈ disk.entries)
    (halone : ∀ identifier, (.temporary identifier, number) ∉ disk.entries) :
    disk.links number = 1 := by
  apply links_eq_length (nodup_singleton (ObjectName.canonical id))
  intro name
  rw [mem_singleton]
  constructor
  · intro hname
    cases name with
    | temporary identifier => exact absurd hname (halone identifier)
    | canonical other => rw [← h.id_eq hname, ← h.id_eq hentry]
  · rintro rfl
    exact hentry

theorem Leftover.links_temporary (h : Leftover disk)
    (hentry : (.temporary identifier, number) ∈ disk.entries)
    (halone : ∀ id, (.canonical id, number) ∉ disk.entries) : disk.links number = 1 := by
  apply links_eq_length (nodup_singleton (ObjectName.temporary identifier))
  intro name
  rw [mem_singleton]
  constructor
  · intro hname
    cases name with
    | temporary other => rw [h.unique other _ identifier _ hname hentry]
    | canonical other => exact absurd hname (halone other)
  · rintro rfl
    exact hentry

theorem Leftover.links_shared (h : Leftover disk) (hgenuine : Genuine sha256 kept (published disk))
    (htemporary : (.temporary identifier, number) ∈ disk.entries)
    (hcanonical : (.canonical id, number) ∈ disk.entries) : disk.links number = 2 := by
  have hnodup : [ObjectName.temporary identifier, .canonical id].Nodup := by
    simp
  apply links_eq_length hnodup
  intro name
  simp only [mem_cons, not_mem_nil, or_false]
  constructor
  · intro hname
    cases name with
    | temporary other =>
      left
      rw [h.unique other _ identifier _ hname htemporary]
    | canonical other =>
      right
      rw [← hgenuine.id_eq hname, ← hgenuine.id_eq hcanonical]
  · rintro (rfl | rfl)
    · exact htemporary
    · exact hcanonical

theorem verifySealedFile_eq_ok (hlinks : disk.links number = 1)
    (hsealed : Sealed (disk.files number)) : verifySealedFile disk number = .ok () := by
  rw [verifySealedFile, rejectIf_eq_ok, not_not]
  exact ⟨hlinks, hsealed⟩

theorem readNamedVerified_of_sealed {name : ObjectName} (hname : (name, number) ∈ disk.entries)
    (hlinks : disk.links number = 1) (hsealed : Sealed (disk.files number))
    (hshort : (disk.files number).bytes.length ≤ maxArtifactBytes)
    (hid : sha256 (disk.files number).bytes = id) :
    readNamedVerified sha256 disk name id = .ok ⟨id, (disk.files number).bytes⟩ := by
  simp only [readNamedVerified, ok_iff]
  refine ⟨number, lookup_eq_some.mpr hname, (),
    verifySealedFile_eq_ok hlinks hsealed, not_lt.mpr hshort, ?_, rfl⟩
  simp [hid]

theorem readVerified_of_clean (h : Genuine sha256 kept (published disk)) (hclean : Clean disk)
    {file : LinkedFile} (hobject : (id, file) ∈ published disk) :
    readVerified sha256 disk id = .ok ⟨id, file.bytes⟩ := by
  obtain ⟨number, hentry, hfile⟩ := mem_published.mp hobject
  simp only at hentry hfile
  subst hfile
  exact readNamedVerified_of_sealed hentry
    (h.links_canonical hentry fun identifier => hclean identifier number)
    (h.isSealed _ hobject) (h.short _ hobject) (h.digest _ hobject)

theorem published_of_readVerified {stored : StoredArtifact}
    (h : readVerified sha256 disk id = .ok stored) :
    ∃ file, (id, file) ∈ published disk ∧ file.bytes = stored.bytes := by
  simp only [readVerified, readNamedVerified, ok_iff, lookup_eq_some] at h
  obtain ⟨number, hentry, -, -, -, -, -, -, rfl⟩ := h
  exact ⟨disk.files number, mem_published.mpr ⟨number, hentry, rfl⟩, rfl⟩

/-! ## The inventory -/

theorem inspectEntry_canonical {seen : Nat} {inventory : ArtifactInventory}
    (h : Genuine sha256 kept (published disk)) (hclean : Clean disk)
    (hentry : (.canonical id, number) ∈ disk.entries) (hseen : seen + 1 ≤ maxArtifactObjects)
    (hobjects : inventory.usage.objects = seen)
    (hbytes : inventory.usage.bytes ≤ seen * maxArtifactBytes) :
    inspectEntry disk (seen, inventory) (.canonical id, number) =
      .ok (seen + 1, ⟨⟨seen + 1, inventory.usage.bytes + (disk.files number).bytes.length⟩,
          inventory.canonical ++ [(id, (disk.files number).bytes.length)]⟩) := by
  have hobject : (id, disk.files number) ∈ published disk := mem_published.mpr ⟨number, hentry, rfl⟩
  have hshort := h.short _ hobject
  have hsealed := verifySealedFile_eq_ok
    (h.links_canonical hentry fun identifier => hclean identifier number)
    (h.isSealed _ hobject)
  simp only [inspectEntry, ok_iff, ArtifactUsage.includeExisting, hsealed, hobjects]
  simp only [maxArtifactObjects, maxArtifactBytes] at hseen hshort hbytes
  refine ⟨?_, trivial, ?_, _, rfl, _, ⟨?_, ?_, rfl⟩, rfl⟩
  · simp only [maxArtifactDirectoryEntries]
    omega
  · simp only [maxArtifactBytes]
    omega
  · simp only [maxU64]
    omega
  · simp only [maxU64]
    omega

theorem inspectEntry_foldlM {entries : List (ObjectName × Nat)}
    (h : Genuine sha256 kept (published disk)) (hclean : Clean disk)
    (hentries : ∀ entry ∈ entries, entry ∈ disk.entries) (seen : Nat)
    (inventory : ArtifactInventory) (hroom : seen + entries.length ≤ maxArtifactObjects)
    (hobjects : inventory.usage.objects = seen)
    (hbytes : inventory.usage.bytes ≤ seen * maxArtifactBytes) :
    let objects := entries.filterMap (publishedEntry disk)
    entries.foldlM (inspectEntry disk) (seen, inventory) =
      .ok (seen + entries.length, ⟨⟨seen + (usageOf objects).objects,
            inventory.usage.bytes + (usageOf objects).bytes⟩, inventory.canonical ++
            objects.map fun object => (object.1, object.2.bytes.length)⟩) := by
  induction entries generalizing seen inventory with
  | nil =>
    obtain ⟨⟨objects, bytes⟩, canonical⟩ := inventory
    simp only at hobjects
    subst hobjects
    simp [usageOf, pure, Except.pure]
  | cons entry entries ih =>
    obtain ⟨name, number⟩ := entry
    have hentry := hentries (name, number) (by simp)
    cases name with
    | temporary identifier => exact absurd hentry (hclean identifier number)
    | canonical id =>
      rw [length_cons] at hroom
      have hobject : (id, disk.files number) ∈ published disk :=
        mem_published.mpr ⟨number, hentry, rfl⟩
      have hshort := h.short _ hobject
      have hrest : ∀ entry ∈ entries, entry ∈ disk.entries :=
        fun entry hmem => hentries entry (mem_cons_of_mem _ hmem)
      have hnext : inventory.usage.bytes + (disk.files number).bytes.length ≤
          (seen + 1) * maxArtifactBytes := by
        rw [Nat.add_mul, Nat.one_mul]
        exact Nat.add_le_add hbytes hshort
      rw [foldlM_cons, inspectEntry_canonical h hclean hentry (by omega) hobjects hbytes]
      simp only [bind, Except.bind]
      rw [ih hrest (seen + 1) _ (by omega) rfl hnext]
      simp [publishedEntry, usageOf, Nat.add_comm, Nat.add_left_comm, Nat.add_assoc]

theorem length_published_of_clean (hclean : Clean disk) :
    (published disk).length = disk.entries.length := by
  rw [published, length_filterMap_eq_countP, countP_eq_length]
  rintro ⟨name, number⟩ hentry
  cases name with
  | temporary identifier => exact absurd hentry (hclean identifier number)
  | canonical id => rfl

theorem lengths_published_of_clean (hclean : Clean disk) :
    (published disk).map (fun object => object.2.bytes.length) =
      disk.entries.map fun entry => (disk.files entry.2).bytes.length := by
  unfold Clean at hclean
  rw [published]
  generalize disk.entries = entries at hclean
  induction entries with
  | nil => rfl
  | cons entry entries ih =>
    obtain ⟨name, number⟩ := entry
    cases name with
    | temporary identifier =>
      exact absurd mem_cons_self (hclean identifier number)
    | canonical id =>
      have hrest := ih fun identifier number hentry =>
        hclean identifier number (mem_cons_of_mem _ hentry)
      simpa [publishedEntry] using hrest

theorem inspectArtifactDirectory_of_clean (h : Genuine sha256 kept (published disk))
    (hclean : Clean disk) : inspectArtifactDirectory disk =
      .ok ⟨usageOf (published disk), (published disk).map fun object =>
        (object.1, object.2.bytes.length)⟩ := by
  have hroom : 0 + disk.entries.length ≤ maxArtifactObjects := by
    rw [Nat.zero_add, ← length_published_of_clean hclean]
    exact h.few
  have hfold := inspectEntry_foldlM h hclean (fun _ hentry => hentry) 0
    ⟨⟨0, 0⟩, []⟩ hroom rfl (Nat.zero_le _)
  simp only [inspectArtifactDirectory, hfold, bind, Except.bind]
  simp [published, usageOf]

end Checks

end CarlAgent.Artifacts
