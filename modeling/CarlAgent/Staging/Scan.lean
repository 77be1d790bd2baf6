import CarlAgent.Staging.Proposal
import Mathlib.Algebra.BigOperators.Group.List.Basic

/-!
# What a scan finds

A scan succeeds exactly when every item of the tree is one it admits and the
sums over the items are within the limits.  Its snapshot is then that of the
items, in whatever order the directories list them.
-/

namespace CarlAgent.Staging

open List Foundation Security CarlAgent.Task RelativePath OrderedMap Node

variable {first second : List (String × StageItem)} {path : String}

def Item.contentBytes : StageItem → Nat
  | .file _ content => content.length
  | _ => 0

def itemPathBytes (items : List (String × StageItem)) : Nat :=
  (items.map fun item => item.1.utf8ByteSize).sum

def itemContentBytes (items : List (String × StageItem)) : Nat :=
  (items.map fun item => Item.contentBytes item.2).sum

@[simp] theorem itemPathBytes_nil : itemPathBytes [] = 0 := rfl

@[simp] theorem itemContentBytes_nil : itemContentBytes [] = 0 := rfl

@[simp] theorem itemPathBytes_cons (item : String × StageItem) (items : List (String × StageItem)) :
    itemPathBytes (item :: items) = item.1.utf8ByteSize + itemPathBytes items := by
  simp [itemPathBytes]

@[simp] theorem itemContentBytes_cons (item : String × StageItem)
    (items : List (String × StageItem)) : itemContentBytes (item :: items) =
      Item.contentBytes item.2 + itemContentBytes items := by
  simp [itemContentBytes]

@[simp] theorem itemPathBytes_append (first second : List (String × StageItem)) :
    itemPathBytes (first ++ second) = itemPathBytes first + itemPathBytes second := by
  simp [itemPathBytes]

@[simp] theorem itemContentBytes_append (first second : List (String × StageItem)) :
    itemContentBytes (first ++ second) = itemContentBytes first + itemContentBytes second := by
  simp [itemContentBytes]

theorem itemPathBytes_perm (h : first.Perm second) : itemPathBytes first = itemPathBytes second :=
  (h.map _).sum_eq

theorem itemContentBytes_perm (h : first.Perm second) :
    itemContentBytes first = itemContentBytes second :=
  (h.map _).sum_eq

def AdmitsPath (path : String) : Prop :=
  isSafeName (RelativePath.name path) = true ∧
    path.utf8ByteSize ≤ maxRelativePathBytes ∧
    protectedDirectory (RelativePath.name path) = false

def AdmitsContent (maxFileBytes : Nat) (content : List UInt8) : Prop :=
  content.length ≤ maxFileBytes ∧ isUtf8 content = true ∧ inspectBytes content = .ok ()

def Admits (maxFileBytes : Nat) : String × StageItem → Prop
  | (path, .directory _) =>
    AdmitsPath path ∧ RelativePath.depth path ≤ maxDepth
  | (path, .file metadata content) =>
    AdmitsPath path ∧ excludedFile path (RelativePath.name path) = none ∧
      metadata.links = 1 ∧ AdmitsContent maxFileBytes content
  | (_, .symlink) => False
  | (_, .special) => False
  | (_, .unnamed) => False

theorem Admits.mono {small large : Nat} (hle : small ≤ large) {item : String × StageItem}
    (h : Admits small item) : Admits large item := by
  obtain ⟨path, node⟩ := item
  cases node with
  | file metadata content =>
    obtain ⟨hpath, hname, hlinks, hlength, hutf8, hclean⟩ := h
    exact ⟨hpath, hname, hlinks, hlength.trans hle, hutf8, hclean⟩
  | directory metadata => exact h
  | symlink => exact h
  | special => exact h
  | unnamed => exact h

theorem allNamed_of_admits {maxFileBytes : Nat} {items : List (String × StageItem)}
    (h : ∀ item ∈ items, Admits maxFileBytes item) : AllNamed items := by
  intro item hitem hunnamed
  have hadmits := h item hitem
  obtain ⟨path, node⟩ := item
  subst hunnamed
  exact hadmits

section Snapshot

variable (sha256 : Sha256) (euid : Nat)

def scannedFile (metadata : FileMetadata) (content : List UInt8) : ScannedFile :=
  { bytes := content, digest := sha256 content, identity := fileIdentity metadata,
    metadataValid := workFileMetadataValid euid metadata }

def fileOf : String × StageItem → Option (String × ScannedFile)
  | (path, .file metadata content) =>
    some (path, scannedFile sha256 euid metadata content)
  | _ => none

def directoryOf : String × StageItem → Option (String × ScannedDirectory)
  | (path, .directory metadata) =>
    some (path, scannedDirectory euid metadata)
  | _ => none

variable (snapshot : StageSnapshot) (items : List (String × StageItem))

/-- The snapshot after more items; the entries are counted elsewhere. -/
def StageSnapshot.addItems
    : StageSnapshot :=
  { snapshot with
    files := (items.filterMap (fileOf sha256 euid)).foldl
      (fun files entry => files.insert entry.1 entry.2) snapshot.files
    directories := (items.filterMap (directoryOf euid)).foldl
      (fun directories entry => directories.insert entry.1 entry.2)
      snapshot.directories
    pathBytes := snapshot.pathBytes + itemPathBytes items
    totalBytes := snapshot.totalBytes + itemContentBytes items }

def snapshotOf : StageSnapshot :=
  { StageSnapshot.addItems sha256 euid .empty items with
    entryCount := items.length }

variable {sha256 euid}

@[simp] theorem addItems_entryCount :
    (snapshot.addItems sha256 euid items).entryCount = snapshot.entryCount := rfl

@[simp] theorem addItems_nil :
    snapshot.addItems sha256 euid [] = snapshot := rfl

theorem addItems_file (path : String) (metadata : FileMetadata)
    (content : List UInt8) : snapshot.addItems sha256 euid [(path, .file metadata content)] =
      { snapshot with
        files := snapshot.files.insert path (scannedFile sha256 euid metadata content)
        pathBytes := snapshot.pathBytes + path.utf8ByteSize
        totalBytes := snapshot.totalBytes + content.length } := rfl

theorem addItems_directory (path : String) (metadata : FileMetadata) :
    snapshot.addItems sha256 euid [(path, .directory metadata)] =
      { snapshot with
        directories := snapshot.directories.insert path (scannedDirectory euid metadata)
        pathBytes := snapshot.pathBytes + path.utf8ByteSize } := rfl

theorem addItems_append (first second : List (String × StageItem)) :
    snapshot.addItems sha256 euid (first ++ second) =
      (snapshot.addItems sha256 euid first).addItems sha256 euid second := by
  simp [StageSnapshot.addItems, filterMap_append, foldl_append, Nat.add_assoc]

end Snapshot

/-! ## One entry -/

section Entry

variable {sha256 : Sha256} {euid : Nat}
  {limits : ProposalLimits}
  {scanChild : String → List StageEntry → StageSnapshot →
    Except ProposalError StageSnapshot}
  {parent : String} {entry : StageEntry} {snapshot snapshot' : StageSnapshot}

theorem accountPathBytes_eq_ok {total next : Nat} :
    accountPathBytes total path = .ok next ↔
      next = total + path.utf8ByteSize ∧ next ≤ maxAggregatePathBytes := by
  simp only [accountPathBytes]
  split
  · rename_i hgt
    simp only [reduceCtorEq, false_iff, not_and]
    rintro rfl
    omega
  · rename_i hle
    simp only [Except.ok.injEq]
    constructor
    · rintro rfl
      exact ⟨rfl, by omega⟩
    · rintro ⟨rfl, -⟩
      rfl

theorem readWorkFile_eq_ok {metadata : FileMetadata} {content : List UInt8} {relative : String}
    {file : ScannedFile} :
    readWorkFile sha256 euid limits metadata content relative = .ok file ↔
      metadata.links = 1 ∧ AdmitsContent limits.maxFileBytes content ∧
        file = scannedFile sha256 euid metadata content := by
  simp only [readWorkFile, AdmitsContent, ok_iff, ne_eq, not_not, not_lt, Bool.not_eq_false]
  constructor
  · rintro ⟨hlinks, hlength, hutf8, h⟩
    split at h
    · simp at h
    · simp at h
    · rename_i hclean
      simp only [Except.ok.injEq] at h
      exact ⟨hlinks, ⟨hlength, hutf8, hclean⟩, h.symm⟩
  · rintro ⟨hlinks, ⟨hlength, hutf8, hclean⟩, rfl⟩
    refine ⟨hlinks, hlength, hutf8, ?_⟩
    rw [hclean]
    rfl

/-- What accepting one entry means: its path is admitted, and what it adds
depends on what it is. -/
theorem scanEntry_eq_ok :
    scanEntry sha256 euid limits scanChild parent snapshot entry = .ok snapshot' ↔
      ∃ text, entry.1 = .utf8 text ∧ isSafeName text = true ∧
        (join parent text).utf8ByteSize ≤ maxRelativePathBytes ∧
        protectedDirectory text = false ∧
        snapshot.pathBytes + (join parent text).utf8ByteSize ≤ maxAggregatePathBytes ∧
        ((∃ metadata content, entry.2 = .file metadata content ∧
            excludedFile (join parent text) text = none ∧
            metadata.links = 1 ∧ AdmitsContent limits.maxFileBytes content ∧
            snapshot.totalBytes + content.length ≤ maxTotalBytes ∧
            snapshot' = snapshot.addItems sha256 euid
              [(join parent text, .file metadata content)]) ∨
          ∃ metadata children, entry.2 = .directory metadata children ∧
            scanChild (join parent text) children (snapshot.addItems sha256 euid
                [(join parent text, .directory metadata)]) = .ok snapshot') := by
  obtain ⟨name, node⟩ := entry
  cases name with
  | other bytes => simp [scanEntry, FileName.toStr, bind_eq_ok]
  | utf8 text =>
    simp only [scanEntry, FileName.toStr, requireSome, ok_iff, Bool.not_eq_false, not_lt,
      accountPathBytes_eq_ok, exists_eq_left', FileName.utf8.injEq, addItems_file,
      addItems_directory]
    cases node with
    | symlink => simp
    | special => simp [bind_eq_ok]
    | directory metadata children =>
      simp only [ok_iff, Bool.not_eq_true, reduceCtorEq, false_and, exists_false, false_or,
        directory.injEq]
      constructor
      · rintro ⟨hsafe, hlength, _, ⟨rfl, hsum⟩, hname, hchild⟩
        exact ⟨hsafe, hlength, hname, hsum, metadata, children, ⟨rfl, rfl⟩, hchild⟩
      · rintro ⟨hsafe, hlength, hname, hsum, _, _, ⟨rfl, rfl⟩, hchild⟩
        exact ⟨hsafe, hlength, _, ⟨rfl, hsum⟩, hname, hchild⟩
    | file metadata content =>
      simp only [ok_iff, Bool.not_eq_true, readWorkFile_eq_ok, not_lt, Option.isSome_eq_false_iff,
        Option.isNone_iff_eq_none, reduceCtorEq, false_and, exists_false, or_false, file.injEq]
      constructor
      · rintro ⟨hsafe, hlength, _, ⟨rfl, hsum⟩, hname, hplain, _,
          ⟨hlinks, hcontent, rfl⟩, htotal, rfl⟩
        exact ⟨hsafe, hlength, hname, hsum, metadata, content,
          ⟨rfl, rfl⟩, hplain, hlinks, hcontent, htotal, rfl⟩
      · rintro ⟨hsafe, hlength, hname, hsum, _, _, ⟨rfl, rfl⟩, hplain,
          hlinks, hcontent, htotal, rfl⟩
        exact ⟨hsafe, hlength, _, ⟨rfl, hsum⟩, hname, hplain, _,
          ⟨hlinks, hcontent, rfl⟩, htotal, rfl⟩

end Entry

structure StageSnapshot.Bounded (snapshot : StageSnapshot) : Prop where
  entryCount : snapshot.entryCount ≤ maxEntries
  pathBytes : snapshot.pathBytes ≤ maxAggregatePathBytes
  totalBytes : snapshot.totalBytes ≤ maxTotalBytes

/-- A scan from one snapshot to the next added these items, of which `counted`
were counted before. -/
structure Scanned (sha256 : Sha256) (euid : Nat)
    (maxFileBytes : Nat) (before after : StageSnapshot) (counted : Nat)
    (items : List (String × StageItem)) : Prop where
  added : after = { before.addItems sha256 euid items with
    entryCount := after.entryCount }
  count : after.entryCount + counted = before.entryCount + items.length
  admits : ∀ item ∈ items, Admits maxFileBytes item
  bounded : before.Bounded → after.Bounded

section Directory

variable {sha256 : Sha256} {euid maxFileBytes : Nat}
  {before middle after : StageSnapshot} {counted counted' : Nat}
  {items items' : List (String × StageItem)}

theorem Scanned.refl (snapshot : StageSnapshot) :
    Scanned sha256 euid maxFileBytes snapshot snapshot 0 [] where
  added := rfl
  count := rfl
  admits := by simp
  bounded := id

theorem Scanned.trans (h₁ : Scanned sha256 euid maxFileBytes before middle counted items)
    (h₂ : Scanned sha256 euid maxFileBytes middle after counted' items') :
    Scanned sha256 euid maxFileBytes before after (counted + counted') (items ++ items') where
  added := by
    rw [h₂.added, h₁.added, addItems_append]
    rfl
  count := by
    have hfirst := h₁.count
    have hsecond := h₂.count
    rw [length_append]
    omega
  admits := by
    intro item hitem
    rcases mem_append.mp hitem with hmem | hmem
    · exact h₁.admits item hmem
    · exact h₂.admits item hmem
  bounded := fun h => h₂.bounded (h₁.bounded h)

theorem Scanned.pathBytes (h : Scanned sha256 euid maxFileBytes before after counted items) :
    after.pathBytes = before.pathBytes + itemPathBytes items := by
  rw [h.added]
  rfl

theorem Scanned.totalBytes (h : Scanned sha256 euid maxFileBytes before after counted items) :
    after.totalBytes = before.totalBytes + itemContentBytes items := by
  rw [h.added]
  rfl

variable {limits : ProposalLimits}
  {scanChild : String → List StageEntry → StageSnapshot →
    Except ProposalError StageSnapshot}
  {parent : String} {entry : StageEntry} {entries : List StageEntry}
  {snapshot snapshot' : StageSnapshot} {levels : Nat}

theorem scanEntry_scanned (hvalid : entry.1.Valid)
    (hchild : ∀ text metadata children middle, entry = (.utf8 text, .directory metadata children) →
      scanChild (join parent text) children middle = .ok snapshot' →
      depth (join parent text) ≤ maxDepth ∧
        ∃ order, order.Perm (itemsBelow (join parent text) children) ∧
          Scanned sha256 euid limits.maxFileBytes middle snapshot' 0 order)
    (h : scanEntry sha256 euid limits scanChild parent snapshot entry = .ok snapshot') :
    ∃ order, order.Perm (entryItems parent entry) ∧
      Scanned sha256 euid limits.maxFileBytes snapshot snapshot' 1 order := by
  obtain ⟨name, node⟩ := entry
  obtain ⟨text, hname, hsafe, hlength, hprotected, hsum, h⟩ := scanEntry_eq_ok.mp h
  simp only at hname
  subst hname
  have hlast : name (join parent text) = text := name_join parent hvalid.2.1
  have hpath : AdmitsPath (join parent text) := by
    rw [AdmitsPath, hlast]
    exact ⟨hsafe, hlength, hprotected⟩
  rcases h with ⟨metadata, content, hnode, hplain, hlinks, hcontent, htotal,
    rfl⟩ | ⟨metadata, children, hnode, hscan⟩
  · simp only at hnode
    subst hnode
    refine ⟨[(join parent text, .file metadata content)], ?_, ?_⟩
    · simp [entryItems, items]
    · refine ⟨rfl, by simp, ?_, ?_⟩
      · intro item hitem
        rw [mem_singleton] at hitem
        subst hitem
        exact ⟨hpath, by rw [hlast]; exact hplain, hlinks, hcontent⟩
      · intro hbounded
        exact ⟨hbounded.entryCount, hsum, htotal⟩
  · simp only at hnode
    subst hnode
    obtain ⟨hdepth, order, hperm, hscanned⟩ := hchild text metadata children _ rfl hscan
    refine ⟨(join parent text, .directory metadata) :: order, ?_, ?_⟩
    · simpa [entryItems, items] using hperm
    · have hdirectory : Scanned sha256 euid limits.maxFileBytes snapshot
          (snapshot.addItems sha256 euid [(join parent text, .directory metadata)]) 1
          [(join parent text, .directory metadata)] := by
        refine ⟨rfl, by simp, ?_, ?_⟩
        · intro item hitem
          rw [mem_singleton] at hitem
          subst hitem
          exact ⟨hpath, hdepth⟩
        · intro hbounded
          exact ⟨hbounded.entryCount, hsum, hbounded.totalBytes⟩
      exact hdirectory.trans hscanned

theorem scanEntries_scanned (hvalid : ∀ entry ∈ entries, entry.1.Valid)
    (hchild : ∀ text metadata children middle after,
      (FileName.utf8 text, directory metadata children) ∈ entries →
      scanChild (join parent text) children middle = .ok after →
      depth (join parent text) ≤ maxDepth ∧
        ∃ order, order.Perm (itemsBelow (join parent text) children) ∧
          Scanned sha256 euid limits.maxFileBytes middle after 0 order)
    (h : entries.foldlM (scanEntry sha256 euid limits scanChild parent) snapshot = .ok snapshot') :
    ∃ order, order.Perm (itemsBelow parent entries) ∧
      Scanned sha256 euid limits.maxFileBytes snapshot snapshot' entries.length order := by
  induction entries generalizing snapshot with
  | nil =>
    simp only [foldlM_nil, pure, Except.pure, Except.ok.injEq] at h
    subst h
    exact ⟨[], by simp, Scanned.refl snapshot⟩
  | cons entry rest ih =>
    rw [foldlM_cons_eq_ok] at h
    obtain ⟨middle, hentry, hrest⟩ := h
    obtain ⟨first, hfirst, hscanned⟩ := scanEntry_scanned
      (hvalid entry (by simp))
      (fun text metadata children middle heq hscan =>
        hchild text metadata children middle _ (by simp [← heq]) hscan)
      hentry
    obtain ⟨others, hothers, hscanned'⟩ := ih
      (fun other hmem => hvalid other (mem_cons_of_mem _ hmem))
      (fun text metadata children middle after hmem hscan =>
        hchild text metadata children middle after (mem_cons_of_mem _ hmem) hscan) hrest
    refine ⟨first ++ others, ?_, ?_⟩
    · rw [itemsBelow_cons]
      exact hfirst.append hothers
    · rw [length_cons, Nat.add_comm]
      exact hscanned.trans hscanned'

private theorem sorted_perm (entries : List StageEntry) :
    (sortByKey (fun entry : StageEntry => entry.1.order) entries).Perm entries :=
  List.perm_insertionSort _ entries

theorem scanDirectory_scanned (hwf : WellFormed entries)
    (hlevels : levels + depth parent = maxDepth + 1)
    (h : scanDirectory sha256 euid limits levels parent entries snapshot = .ok snapshot') :
    depth parent ≤ maxDepth ∧
      ∃ order, order.Perm (itemsBelow parent entries) ∧
        Scanned sha256 euid limits.maxFileBytes snapshot snapshot' 0 order := by
  induction levels generalizing parent entries snapshot snapshot' with
  | zero => simp [scanDirectory] at h
  | succ levels ih =>
    simp only [scanDirectory, ok_iff, not_lt] at h
    obtain ⟨hroom, h⟩ := h
    refine ⟨by omega, ?_⟩
    have hperm := sorted_perm entries
    obtain ⟨order, horder, hscanned⟩ := scanEntries_scanned
      (fun entry hmem => hwf.names entry (hperm.mem_iff.mp hmem))
      (fun text metadata children middle after hmem hscan => by
        have hmem := hperm.mem_iff.mp hmem
        have hname := hwf.names _ hmem
        refine ih (hwf.child hmem) ?_ hscan
        rw [depth_join parent hname.1 hname.2.1]
        omega) h
    refine ⟨order, horder.trans (itemsBelow_perm parent hperm), ?_⟩
    refine ⟨?_, ?_, hscanned.admits, ?_⟩
    · rw [hscanned.added]
      rfl
    · have hcount := hscanned.count
      have hlength := hperm.length_eq
      simp only at hcount
      omega
    · intro hbounded
      refine hscanned.bounded ⟨?_, hbounded.pathBytes, hbounded.totalBytes⟩
      have hmax := hbounded.entryCount
      simp only
      omega

theorem scanEntries_complete (hwf : WellFormed entries) (hchild : ∀ text metadata children middle,
      (FileName.utf8 text, directory metadata children) ∈ entries →
      (∀ item ∈ itemsBelow (join parent text) children, Admits limits.maxFileBytes item) →
      depth (join parent text) ≤ maxDepth →
      middle.entryCount + (itemsBelow (join parent text) children).length ≤
        maxEntries → middle.pathBytes + itemPathBytes (itemsBelow (join parent text) children) ≤
        maxAggregatePathBytes → middle.totalBytes + itemContentBytes
          (itemsBelow (join parent text) children) ≤ maxTotalBytes →
      ∃ after, scanChild (join parent text) children middle = .ok after)
    (hsound : ∀ text metadata children middle after,
      (FileName.utf8 text, directory metadata children) ∈ entries →
      scanChild (join parent text) children middle = .ok after →
      depth (join parent text) ≤ maxDepth ∧
        ∃ order, order.Perm (itemsBelow (join parent text) children) ∧
          Scanned sha256 euid limits.maxFileBytes middle after 0 order)
    {rest : List StageEntry} (hrest : ∀ entry ∈ rest, entry ∈ entries)
    (hadmits : ∀ item ∈ itemsBelow parent rest, Admits limits.maxFileBytes item)
    (hcount : snapshot.entryCount + (itemsBelow parent rest).length ≤ maxEntries + rest.length)
    (hpath : snapshot.pathBytes + itemPathBytes (itemsBelow parent rest) ≤ maxAggregatePathBytes)
    (htotal : snapshot.totalBytes + itemContentBytes (itemsBelow parent rest) ≤ maxTotalBytes) :
    ∃ after, rest.foldlM (scanEntry sha256 euid limits scanChild parent) snapshot = .ok after := by
  induction rest generalizing snapshot with
  | nil => exact ⟨snapshot, rfl⟩
  | cons entry rest ih =>
    obtain ⟨name, node⟩ := entry
    have hentry := hrest _ mem_cons_self
    have hothers := length_le_itemsBelow parent rest
    simp only [itemsBelow_cons, length_append, length_cons, itemPathBytes_append,
      itemContentBytes_append, mem_append] at hadmits hcount hpath htotal
    -- the next entry passes: its items are admitted and there is room for them
    have haccepts : ∃ middle, scanEntry sha256 euid limits scanChild parent
        snapshot (name, node) = .ok middle := by
      cases name with
      | other bytes =>
        exact absurd (hadmits (parent, .unnamed) (.inl (by simp [entryItems]))) (by simp [Admits])
      | utf8 text =>
        have hvalid := hwf.names _ hentry
        have hlast : name (join parent text) = text := name_join parent hvalid.2.1
        cases node with
        | symlink =>
          exact absurd (hadmits (join parent text, .symlink)
            (.inl (by simp [entryItems, items]))) (by simp [Admits])
        | special =>
          exact absurd (hadmits (join parent text, .special)
            (.inl (by simp [entryItems, items]))) (by simp [Admits])
        | file metadata content =>
          have hitem := hadmits (join parent text, .file metadata content)
            (.inl (by simp [entryItems, items]))
          simp only [Admits, AdmitsPath, hlast] at hitem
          obtain ⟨⟨hsafe, hlength, hprotected⟩, hplain, hlinks, hcontent⟩ := hitem
          simp only [entryItems, items, itemPathBytes_cons, itemPathBytes_nil,
            itemContentBytes_cons, itemContentBytes_nil, Item.contentBytes] at hpath htotal
          exact ⟨_, scanEntry_eq_ok.mpr ⟨text, rfl, hsafe, hlength,
            hprotected, by omega, .inl ⟨metadata, content, rfl, hplain,
              hlinks, hcontent, by omega, rfl⟩⟩⟩
        | directory metadata children =>
          have hitem := hadmits (join parent text, .directory metadata)
            (.inl (by simp [entryItems, items]))
          simp only [Admits, AdmitsPath, hlast] at hitem
          obtain ⟨⟨hsafe, hlength, hprotected⟩, hdepth⟩ := hitem
          simp only [entryItems, items, length_cons, itemPathBytes_cons,
            itemContentBytes_cons, Item.contentBytes, Nat.zero_add] at hcount hpath htotal
          obtain ⟨after, hafter⟩ := hchild text metadata children
            (snapshot.addItems sha256 euid [(join parent text, .directory metadata)])
            hentry
            (fun item hmem => hadmits item (.inl (by
              simp only [entryItems, items]
              exact mem_cons_of_mem _ hmem)))
            hdepth
            (by simp only [addItems_entryCount]; omega)
            (by simp only [addItems_directory]; omega)
            (by simp only [addItems_directory]; omega)
          exact ⟨after, scanEntry_eq_ok.mpr ⟨text, rfl, hsafe, hlength,
            hprotected, by omega, .inr ⟨metadata, children, rfl, hafter⟩⟩⟩
    -- what it adds is what the room was counted for, so that the others still fit
    obtain ⟨middle, hmiddle⟩ := haccepts
    obtain ⟨order, horder, hscanned⟩ := scanEntry_scanned (hwf.names _ hentry)
      (fun text metadata children inside heq hscan =>
        hsound text metadata children inside _ (heq ▸ hentry) hscan) hmiddle
    have hcounted := hscanned.count
    have hpathBytes := hscanned.pathBytes
    have htotalBytes := hscanned.totalBytes
    have hlength := horder.length_eq
    rw [itemPathBytes_perm horder] at hpathBytes
    rw [itemContentBytes_perm horder] at htotalBytes
    obtain ⟨after, hafter⟩ := @ih middle (fun other hmem => hrest other (mem_cons_of_mem _ hmem))
      (fun item hmem => hadmits item (.inr hmem)) (by omega) (by omega)
      (by omega)
    exact ⟨after, foldlM_cons_eq_ok.mpr ⟨middle, hmiddle, hafter⟩⟩

theorem scanDirectory_complete (hwf : WellFormed entries)
    (hlevels : levels + depth parent = maxDepth + 1) (hdepth : depth parent ≤ maxDepth)
    (hadmits : ∀ item ∈ itemsBelow parent entries, Admits limits.maxFileBytes item)
    (hcount : snapshot.entryCount + (itemsBelow parent entries).length ≤ maxEntries)
    (hpath : snapshot.pathBytes + itemPathBytes (itemsBelow parent entries) ≤ maxAggregatePathBytes)
    (htotal : snapshot.totalBytes + itemContentBytes (itemsBelow parent entries) ≤ maxTotalBytes) :
    ∃ after, scanDirectory sha256 euid limits levels parent entries snapshot = .ok after := by
  induction levels generalizing parent entries snapshot with
  | zero => omega
  | succ levels ih =>
    have hperm := sorted_perm entries
    have hitems := itemsBelow_perm parent hperm
    have hcounted := length_le_itemsBelow parent entries
    have hdeeper : ∀ text metadata children,
        (FileName.utf8 text, directory metadata children) ∈ entries →
        levels + depth (join parent text) = maxDepth + 1 := by
      intro text metadata children hmem
      have hname := hwf.names _ hmem
      rw [depth_join parent hname.1 hname.2.1]
      omega
    obtain ⟨after, hafter⟩ := @scanEntries_complete sha256 euid limits
      (scanDirectory sha256 euid limits levels) parent entries
      { snapshot with entryCount := snapshot.entryCount + entries.length }
      hwf
      (fun text metadata children middle hmem hinner hdepth hcount hpath htotal =>
        ih (hwf.child hmem) (hdeeper text metadata children hmem) hdepth hinner hcount hpath htotal)
      (fun text metadata children middle after hmem hscan =>
        scanDirectory_scanned (hwf.child hmem) (hdeeper text metadata children hmem) hscan)
      (sortByKey (fun entry => entry.1.order) entries)
      (fun entry hmem => hperm.mem_iff.mp hmem)
      (fun item hmem => hadmits item (hitems.mem_iff.mp hmem))
      (by
        simp only [hitems.length_eq, hperm.length_eq]
        omega)
      (by
        rw [itemPathBytes_perm hitems]
        exact hpath)
      (by
        rw [itemContentBytes_perm hitems]
        exact htotal)
    refine ⟨after, ?_⟩
    simp only [scanDirectory, ok_iff, not_lt]
    exact ⟨by omega, hafter⟩

end Directory

/-! ## A whole stage -/

section Stage

variable {sha256 : Sha256} {euid : Nat}
  {limits : ProposalLimits}

theorem map_filterMap_sublist {α β : Type} {f : α → Option β} {key : α → String} {name : β → String}
    (h : ∀ a b, f a = some b → name b = key a) (l : List α) :
    ((l.filterMap f).map name).Sublist (l.map key) := by
  induction l with
  | nil => simp
  | cons a l ih =>
    rw [filterMap_cons]
    cases hf : f a with
    | none => exact ih.trans (sublist_cons_self _ _)
    | some b =>
      simp only [map_cons, h a b hf]
      exact ih.cons_cons _

variable {item : String × StageItem}

theorem fileOf_eq_some {entry : String × ScannedFile} : fileOf sha256 euid item = some entry ↔
    ∃ metadata content, item = (entry.1, .file metadata content) ∧
      entry.2 = scannedFile sha256 euid metadata content := by
  obtain ⟨path, node⟩ := item
  cases node <;> simp [fileOf, Prod.ext_iff, eq_comm]

theorem directoryOf_eq_some {entry : String × ScannedDirectory} :
    directoryOf euid item = some entry ↔ ∃ metadata, item = (entry.1, .directory metadata) ∧
      entry.2 = scannedDirectory euid metadata := by
  obtain ⟨path, node⟩ := item
  cases node <;> simp [directoryOf, Prod.ext_iff, eq_comm]

variable {items : List (String × StageItem)}

theorem files_keys_nodup (h : (items.map Prod.fst).Nodup) :
    ((items.filterMap (fileOf sha256 euid)).map Prod.fst).Nodup := by
  refine h.sublist (map_filterMap_sublist (fun item entry hfile => ?_) items)
  obtain ⟨_, _, rfl, -⟩ := fileOf_eq_some.mp hfile
  rfl

theorem directories_keys_nodup (h : (items.map Prod.fst).Nodup) :
    ((items.filterMap (directoryOf euid)).map Prod.fst).Nodup := by
  refine h.sublist (map_filterMap_sublist (fun item entry hdirectory => ?_) items)
  obtain ⟨_, rfl, -⟩ := directoryOf_eq_some.mp hdirectory
  rfl

theorem snapshotOf_perm (hperm : first.Perm second) (h : (first.map Prod.fst).Nodup) :
    snapshotOf sha256 euid first = snapshotOf sha256 euid second := by
  have hfiles : ofList (first.filterMap (fileOf sha256 euid)) =
      ofList (second.filterMap (fileOf sha256 euid)) :=
    ofList_perm (hperm.filterMap _) (files_keys_nodup h)
  have hdirectories : ofList (first.filterMap (directoryOf euid)) =
      ofList (second.filterMap (directoryOf euid)) :=
    ofList_perm (hperm.filterMap _) (directories_keys_nodup h)
  simp only [ofList] at hfiles hdirectories
  simp only [snapshotOf, StageSnapshot.addItems, StageSnapshot.empty, hfiles, hdirectories,
    itemPathBytes_perm hperm, itemContentBytes_perm hperm, hperm.length_eq]

structure ScanFits (maxFileBytes : Nat) (items : List (String × StageItem)) : Prop where
  admits : ∀ item ∈ items, Admits maxFileBytes item
  entryCount : items.length ≤ maxEntries
  pathBytes : itemPathBytes items ≤ maxAggregatePathBytes
  totalBytes : itemContentBytes items ≤ maxTotalBytes

theorem stageTree_paths_nodup {tree : StageTree}
    (h : AllNamed tree.items) : (tree.items.map Prod.fst).Nodup :=
  tree.wellFormed.paths_nodup "" h

theorem scanStage_eq_ok {tree : StageTree} {snapshot : StageSnapshot} :
    scanStage sha256 euid limits tree = .ok snapshot ↔ ScanFits limits.maxFileBytes tree.items ∧
        snapshot = snapshotOf sha256 euid tree.items := by
  have hsound : ∀ after, scanStage sha256 euid limits tree = .ok after →
      ScanFits limits.maxFileBytes tree.items ∧ after = snapshotOf sha256 euid tree.items := by
    intro after h
    obtain ⟨-, order, hperm, hscanned⟩ := scanDirectory_scanned tree.wellFormed (by rfl) h
    have hadmits : ∀ item ∈ tree.items, Admits limits.maxFileBytes item :=
      fun item hmem => hscanned.admits item (hperm.mem_iff.mpr hmem)
    have hbounded := hscanned.bounded ⟨Nat.zero_le _, Nat.zero_le _, Nat.zero_le _⟩
    have hcount : after.entryCount = order.length := by
      have hcounted := hscanned.count
      simp only [StageSnapshot.empty] at hcounted
      omega
    have hpath := hscanned.pathBytes
    have htotal := hscanned.totalBytes
    have hnodup : (order.map Prod.fst).Nodup := (hperm.map Prod.fst).nodup_iff.mpr
        (stageTree_paths_nodup (allNamed_of_admits hadmits))
    refine ⟨⟨hadmits, ?_, ?_, ?_⟩, ?_⟩
    · have hlength : order.length = tree.items.length := hperm.length_eq
      have hmax := hbounded.entryCount
      omega
    · rw [FileTree.items, ← itemPathBytes_perm hperm]
      have hmax := hbounded.pathBytes
      simp only [StageSnapshot.empty] at hpath
      omega
    · rw [FileTree.items, ← itemContentBytes_perm hperm]
      have hmax := hbounded.totalBytes
      simp only [StageSnapshot.empty] at htotal
      omega
    · rw [FileTree.items, ← snapshotOf_perm hperm hnodup, hscanned.added, hcount]
      rfl
  constructor
  · exact hsound snapshot
  · rintro ⟨hfits, rfl⟩
    obtain ⟨after, hafter⟩ := @scanDirectory_complete sha256 euid limits ""
      tree.entries .empty (maxDepth + 1) tree.wellFormed (by rfl)
      (Nat.zero_le _) hfits.admits
      (by simpa [StageSnapshot.empty, FileTree.items] using hfits.entryCount)
      (by simpa [StageSnapshot.empty, FileTree.items] using hfits.pathBytes)
      (by simpa [StageSnapshot.empty, FileTree.items] using hfits.totalBytes)
    have hafter : scanStage sha256 euid limits tree = .ok after := hafter
    rw [hafter, (hsound after hafter).2]

/-! ## Lookups in the snapshot of a tree -/

theorem files_find?_eq_some (h : (items.map Prod.fst).Nodup) {file : ScannedFile} :
    (snapshotOf sha256 euid items).files.find? path = some file ↔
      ∃ metadata content, (path, .file metadata content) ∈ items ∧
        file = scannedFile sha256 euid metadata content := by
  have hofList : (snapshotOf sha256 euid items).files =
      ofList (items.filterMap (fileOf sha256 euid)) := rfl
  rw [hofList, find?_ofList_of_nodup (files_keys_nodup h), mem_filterMap]
  constructor
  · rintro ⟨_, hmem, hfile⟩
    obtain ⟨metadata, content, rfl, rfl⟩ := fileOf_eq_some.mp hfile
    exact ⟨metadata, content, hmem, rfl⟩
  · rintro ⟨metadata, content, hmem, rfl⟩
    exact ⟨_, hmem, rfl⟩

theorem directories_find?_eq_some (h : (items.map Prod.fst).Nodup) {directory : ScannedDirectory} :
    (snapshotOf sha256 euid items).directories.find? path = some directory ↔
      ∃ metadata, (path, .directory metadata) ∈ items ∧
        directory = scannedDirectory euid metadata := by
  have hofList : (snapshotOf sha256 euid items).directories =
      ofList (items.filterMap (directoryOf euid)) := rfl
  rw [hofList, find?_ofList_of_nodup (directories_keys_nodup h), mem_filterMap]
  constructor
  · rintro ⟨_, hmem, hdirectory⟩
    obtain ⟨metadata, rfl, rfl⟩ := directoryOf_eq_some.mp hdirectory
    exact ⟨metadata, hmem, rfl⟩
  · rintro ⟨metadata, hmem, rfl⟩
    exact ⟨_, hmem, rfl⟩

end Stage

end CarlAgent.Staging
