import Mathlib.Algebra.Order.BigOperators.Group.List
import CarlAgent.Memory.Store

/-!
# Limits of the memory store

A call changes its own partition only.  What it stores fits the limits in
force; the limits may be lowered below what is stored, and a call that fails
may still have deleted an expired proposal.  The log is not busy after a call.
-/

namespace CarlAgent.Memory

open List Foundation CarlAgent.Task Storage Access MemoryDb MemoryRecord Table

variable {id : BitVec 128} {error : MemoryError} {proposal : MemoryProposal}
  {guard : MemoryRecord → Bool} {f : MemoryRecord → MemoryRecord}
  {settings : MemorySettings} {expiresAt : Option Timestamp} {α : Type}

def Keyed (memories : Memories) : Prop :=
  (memories.rows.map MemoryRecord.slot).Nodup

def MemoryDb.settingsOf (db : MemoryDb) (partition : MemoryPartition) : MemorySettings :=
  (db.settings partition).getD .default

structure MemoryDb.Within (db : MemoryDb) (partition : MemoryPartition) : Prop where
  bytes : storedBytes partition db.memories ≤ (db.settingsOf partition).maxStorageBytes
  count : memoryCount partition db.memories ≤ (db.settingsOf partition).maxMemories

def MemoryDb.slice (db : MemoryDb) (partition : MemoryPartition) :
    List MemoryRecord × Option MemorySettings × List MemoryProposal :=
  (db.memories.rows.filter fun row => row.partition = partition,
    db.settings partition, db.proposals.rows.filter fun row => row.write.partition = partition)

section Facts

variable {env : MemoryEnv} {db next : MemoryDb} {memories later : Memories}
  {write : MemoryWrite} {now : Timestamp} {record : MemoryRecord}
  {partition : MemoryPartition} (weight : MemoryRecord → Nat)

theorem measure_deleteWhere_le (partition : MemoryPartition)
    (memories : Memories) (p : MemoryRecord → Bool) :
    measure weight partition (memories.deleteWhere p) ≤ measure weight partition memories :=
  (List.filter_sublist.map _).sum_le_sum (fun _ _ => Nat.zero_le _)

theorem measure_insert (h : memories.insert record = some later) :
    measure weight record.partition later =
      measure weight record.partition memories + weight record := by
  rw [measure, (insert_eq_some.mp h).2]
  simp [measure]

variable {hf : ∀ row, (f row).id = row.id} {calls : List MemoryCall} {row : MemoryRecord}
  {fresh : BitVec 128} {call : MemoryCall}

theorem measure_update
    (h : memories.update id guard f hf = some later)
    (hrow : memories.find? id = some row) (hpartition : (f row).partition = row.partition) :
    measure weight row.partition later + weight row =
      measure weight row.partition memories + weight (f row) := by
  have hsum := sum_update (w := fun other : MemoryRecord =>
    if other.partition = row.partition then weight other else 0) h hrow
  simpa [measure, hpartition] using hsum

theorem Keyed.deleteWhere (h : Keyed memories) (p : MemoryRecord → Bool) :
    Keyed (memories.deleteWhere p) :=
  h.sublist (List.filter_sublist.map _)

structure Stores (settings : MemorySettings) (write : MemoryWrite)
    (memories later : Memories) : Prop where
  bytes : storedBytes write.partition later ≤ settings.maxStorageBytes
  count : memoryCount write.partition later ≤
    max (memoryCount write.partition memories) settings.maxMemories
  others : ∀ other ≠ write.partition, (later.rows.filter fun row => row.partition = other) =
      memories.rows.filter fun row => row.partition = other
  keyed : Keyed memories → Keyed later

theorem filter_update
    (h : memories.update id guard f hf = some later) (hrow : memories.find? id = some row)
    (hpartition : ∀ row, (f row).partition = row.partition) (hother : row.partition ≠ partition) :
    (later.rows.filter fun row => row.partition = partition) =
      memories.rows.filter fun row => row.partition = partition := by
  rw [(update_eq_some.mp h).2, filter_map]
  have hsame : ((fun row : MemoryRecord => decide (row.partition = partition)) ∘
      fun row => if row.id = id then f row else row) =
        fun row => decide (row.partition = partition) := by
    funext other
    simp only [Function.comp_apply]
    split
    · rw [hpartition]
    · rfl
  rw [hsame, map_congr_left (g := fun row => row), map_id']
  intro other hmem
  rw [mem_filter, decide_eq_true_eq] at hmem
  apply if_neg
  rintro rfl
  rw [find?_of_mem hmem.1] at hrow
  cases hrow
  exact hother hmem.2

theorem replaceMemory_stores {existing : MemoryRecord} (hmem : existing ∈ memories.rows)
    (hslot : existing.slot = write.slot)
    (hfits : storedBytes write.partition memories - existing.bytes +
      write.content.utf8ByteSize ≤ settings.maxStorageBytes)
    (h : replaceMemory env write expiresAt now existing memories = .ok (later, record)) :
    Stores settings write memories later := by
  have hfound := find?_of_mem hmem
  have hpartition : existing.partition = write.partition := congrArg Prod.fst hslot
  simp only [replaceMemory, ok_iff, Prod.mk.injEq] at h
  obtain ⟨-, -, -, -, -, hlater, -⟩ := h
  have hexists : ∃ updated, memories.update existing.id (fun _ => true)
      (fun row => row.rewrite write (existing.revision + 1) expiresAt now)
      (fun _ => rfl) = some updated := exists_update hfound rfl
  obtain ⟨updated, hupdate⟩ := hexists
  rw [hupdate, Option.getD_some] at hlater
  subst hlater
  constructor
  · have hsum := measure_update bytes hupdate hfound rfl
    rw [hpartition] at hsum
    simp only [storedBytes, bytes, rewrite] at hsum hfits ⊢
    omega
  · have hsum := measure_update (fun _ => 1) hupdate hfound rfl
    rw [hpartition] at hsum
    simp only [memoryCount]
    omega
  · intro other hother
    exact filter_update hupdate hfound (fun _ => rfl) (by rw [hpartition]; exact Ne.symm hother)
  · intro hkeyed
    have hslots : updated.rows.map slot = memories.rows.map slot := by
      rw [(update_eq_some.mp hupdate).2, map_map]
      apply map_congr_left
      intro row _
      simp only [Function.comp_apply]
      split <;> rfl
    rw [Keyed, hslots]
    exact hkeyed

theorem insertMemory_stores (hfits : storedBytes write.partition memories +
      write.content.utf8ByteSize ≤ settings.maxStorageBytes)
    (h : insertMemory id settings write expiresAt now memories = .ok (later, record)) :
    Stores settings write memories later := by
  simp only [insertMemory, ok_iff, Prod.mk.injEq, ge_iff_le, not_le] at h
  obtain ⟨hroom, -, -, hfree, inserted, hinsert, rfl, -⟩ := h
  have hrows := (insert_eq_some.mp hinsert).2
  constructor
  · have hsum := measure_insert bytes hinsert
    simp only [storedBytes, bytes] at hsum hfits ⊢
    omega
  · have hsum := measure_insert (fun _ => 1) hinsert
    simp only [memoryCount] at hsum hroom ⊢
    omega
  · intro other hother
    rw [hrows]
    simp [Ne.symm hother]
  · intro hkeyed
    rw [Keyed, hrows, map_append, map_singleton]
    exact List.Nodup.append hkeyed (nodup_singleton _) (disjoint_singleton.mpr hfree)

theorem storeMemory_stores (h : storeMemory env id settings write expiresAt now memories =
      .ok (later, record)) : Stores settings write memories later := by
  simp only [storeMemory, ok_iff, not_lt, gt_iff_lt] at h
  obtain ⟨-, hfits, hstore⟩ := h
  cases hexisting : memories.rows.find? (fun row => row.slot = write.slot) with
  | none =>
    simp only [hexisting, Option.map_none, Option.getD_none, Nat.sub_zero] at hfits hstore
    exact insertMemory_stores hfits hstore
  | some existing =>
    simp only [hexisting, Option.map_some, Option.getD_some] at hfits hstore
    have hslot : existing.slot = write.slot := by
      simpa using find?_some hexisting
    exact replaceMemory_stores (mem_of_find?_eq_some hexisting) hslot hfits hstore

theorem Stores.of_purged
    (h : Stores settings write (memories.deleteWhere (isExpired env write.partition now)) later) :
    Stores settings write memories later where
  bytes := h.bytes
  count := by
    have hle := measure_deleteWhere_le (fun _ => 1) write.partition memories
      (isExpired env write.partition now)
    have hcount := h.count
    simp only [memoryCount] at hle hcount ⊢
    omega
  others := by
    intro other hother
    rw [h.others other hother, deleteWhere, filter_filter]
    apply filter_congr
    intro row _
    by_cases hrow : row.partition = other
    · simp [isExpired, hrow, hother]
    · simp [hrow]
  keyed := fun hkeyed => h.keyed (hkeyed.deleteWhere _)

theorem loadMemorySettings_eq_ok (h : loadMemorySettings db partition = .ok settings) :
    settings = db.settingsOf partition := by
  rw [loadMemorySettings] at h
  cases hrow : db.settings partition with
  | none =>
    simp only [hrow, Except.ok.injEq] at h
    rw [settingsOf, hrow, ← h]
    rfl
  | some stored =>
    simp only [hrow, ok_iff] at h
    obtain ⟨_, _, h⟩ := h
    rw [settingsOf, hrow, ← h]
    rfl

theorem rememberValidated_eq_ok (h : rememberValidated env id write now db = .ok (next, record)) :
    ∃ later, next = { db with memories := later } ∧
      Stores (db.settingsOf write.partition) write db.memories later := by
  simp only [rememberValidated, rememberMemoryInTransaction, ok_iff, Prod.mk.injEq,
    Prod.exists] at h
  obtain ⟨-, -, settings, hsettings, -, expiresAt, -, -, later, _, hstore, rfl, rfl⟩ := h
  rw [loadMemorySettings_eq_ok hsettings] at hstore
  exact ⟨later, rfl, (storeMemory_stores hstore).of_purged⟩

/-! ## Proposals -/

theorem MemoryScope.fromStored_eq_ok {scope read : MemoryScope}
    (h : MemoryScope.fromStored env scope = .ok read) : read = scope := by
  obtain ⟨kind, key⟩ := scope
  cases kind with
  | global =>
    simp only [MemoryScope.fromStored] at h
    split at h
    · cases h
      rfl
    · cases h
  | workspace =>
    simp only [MemoryScope.fromStored, ok_iff] at h
    obtain ⟨_, _, rfl⟩ := h
    rfl
  | session =>
    simp only [MemoryScope.fromStored, ok_iff] at h
    obtain ⟨_, rfl⟩ := h
    rfl

variable {row : MemoryProposal}

theorem readProposal_eq_ok (h : readProposal env row = .ok proposal) :
    proposal = { row with write := row.write.withImportance row.write.importance } := by
  simp only [readProposal, readProposalWrite, MemoryPartition.new, MemoryWrite.new, ok_iff,
    TimestampText.parseTimestamp_eq_ok] at h
  obtain ⟨_, ⟨_, _, ⟨_, _, _, _, rfl⟩, scope, hscope, _, ⟨_, _, _, _, _, _, rfl⟩, expiresAt,
    hexpires, rfl⟩, _, ⟨_, rfl⟩, _, ⟨_, rfl⟩, rfl⟩ := h
  rw [MemoryScope.fromStored_eq_ok hscope, TimestampText.parseOptional_eq_ok hexpires]
  rfl

theorem loadProposal_eq_ok (h : loadProposal env partition id db = .ok proposal) :
    ∃ row, db.proposals.find? id = some row ∧
      row.write.partition = partition ∧ proposal = { row with
        write := row.write.withImportance row.write.importance } := by
  simp only [loadProposal, ok_iff, Option.filter_eq_some_iff, decide_eq_true_eq] at h
  obtain ⟨row, ⟨hrow, hpartition⟩, hread⟩ := h
  exact ⟨row, hrow, hpartition, readProposal_eq_ok hread⟩

theorem approveInTransaction_eq_ok
    (h : approveInTransaction env id fresh write now db = .ok (next, record)) :
    ∃ later, next = { db with memories := later }.removeProposal id ∧
      Stores (db.settingsOf write.partition) write db.memories later := by
  simp only [approveInTransaction, ok_iff, Prod.mk.injEq, Prod.exists] at h
  obtain ⟨remembered, _, hremember, rfl, -⟩ := h
  obtain ⟨later, rfl, hstores⟩ := rememberValidated_eq_ok hremember
  exact ⟨later, rfl, hstores⟩

/-- The settings of one partition, the memories of one partition as a store
does, and proposals of one partition. -/
structure Changes (call : MemoryCall) (db next : MemoryDb) : Prop where
  settings : next.settings = db.settings ∨
    ∃ settings, call = .updateSettings call.partition settings ∧
      next = { db with settings :=
        Function.update db.settings call.partition (some settings) }
  memories : next.memories = db.memories ∨
    ∃ write, write.partition = call.partition ∧
      Stores (db.settingsOf call.partition) write db.memories next.memories
  proposals : ∀ other ≠ call.partition,
    (next.proposals.rows.filter fun row => row.write.partition = other) =
      db.proposals.rows.filter fun row => row.write.partition = other

theorem Changes.refl (call : MemoryCall) (db : MemoryDb) : Changes call db db :=
  ⟨.inl rfl, .inl rfl, fun _ _ => rfl⟩

theorem filter_removeProposal (hrow : db.proposals.find? id = some row)
    (hother : partition ≠ row.write.partition) :
    ((db.removeProposal id).proposals.rows.filter fun row => row.write.partition = partition) =
      db.proposals.rows.filter fun row => row.write.partition = partition := by
  rw [removeProposal, deleteWhere, filter_filter]
  apply filter_congr
  intro other hmem
  by_cases hid : other.id = id
  · subst hid
    rw [find?_of_mem hmem] at hrow
    cases hrow
    simp [Ne.symm hother]
  · simp [hid]

theorem commit_cases (truncation : Except CarlError Unit)
    (body : MemoryDb → Except MemoryError (MemoryDb × α)) (db : MemoryDb) :
    (∃ error, body db = .error error ∧
      commit truncation body db = (db, .error error)) ∨
    ∃ next answer, body db = .ok (next, answer) ∧ commit truncation body db =
        (next, (truncation.mapError .carl).map fun _ => answer) := by
  cases h : body db with
  | error error => exact .inl ⟨error, rfl, by rw [commit, h]⟩
  | ok result => exact .inr ⟨result.1, result.2, rfl, by rw [commit, h]⟩

theorem updateMemorySettings_changes (settings : MemorySettings) :
    Changes (.updateSettings partition settings) db
      (memoryStep env db (.updateSettings partition settings)).1 := by
  obtain ⟨next, answer, hbody, hresult⟩ | ⟨error, -, hresult⟩ :=
    transact_cases (updateMemorySettings partition settings) db
  · simp only [updateMemorySettings, ok_iff, Prod.mk.injEq] at hbody
    obtain ⟨_, _, rfl, -⟩ := hbody
    simp only [memoryStep, hresult]
    exact ⟨.inr ⟨settings, rfl, rfl⟩, .inl rfl, fun _ _ => rfl⟩
  · simp only [memoryStep, hresult]
    exact Changes.refl _ db

theorem rememberMemory_changes (id : BitVec 128) (write : MemoryWrite) (now : Timestamp)
    (truncation : Except CarlError Unit) : Changes (.remember id write now truncation) db
      (memoryStep env db (.remember id write now truncation)).1 := by
  simp only [memoryStep, rememberMemory]
  obtain ⟨error, -, hresult⟩ | ⟨next, answer, hbody, hresult⟩ :=
    commit_cases truncation (rememberValidated env id write now) db
  · rw [hresult]
    exact Changes.refl _ db
  · obtain ⟨later, rfl, hstores⟩ := rememberValidated_eq_ok hbody
    rw [hresult]
    exact ⟨.inl rfl, .inr ⟨write, rfl, hstores⟩, fun _ _ => rfl⟩

theorem proposeMemory_changes (id : BitVec 128) (write : MemoryWrite) (origin : ProposalOrigin)
    (sourceSession : Option SessionId) (now : Timestamp) (truncation : Except CarlError Unit) :
    Changes (.propose id write origin sourceSession now truncation) db
      (memoryStep env db (.propose id write origin sourceSession now truncation)).1 := by
  simp only [memoryStep, proposeMemory]
  generalize (if db.proposals.rows.any (isExpiredProposal env write.partition now) then truncation
    else .ok ()) = truncated
  obtain ⟨error, -, hresult⟩ | ⟨next, answer, hbody, hresult⟩ := commit_cases truncated
      (proposeMemoryInTransaction env id write origin sourceSession now) db
  · rw [hresult]
    exact Changes.refl _ db
  · simp only [proposeMemoryInTransaction, ok_iff, Prod.mk.injEq] at hbody
    obtain ⟨_, _, _, _, _, _, _, expiresAt, _, _, _, proposals, hinsert, rfl, -⟩ := hbody
    rw [hresult]
    refine ⟨.inl rfl, .inl rfl, ?_⟩
    intro other hother
    have hother : write.partition ≠ other := Ne.symm hother
    simp only [(insert_eq_some.mp hinsert).2, deleteWhere, filter_append,
      filter_filter, filter_cons, hother, decide_false, Bool.false_eq_true, if_false,
      filter_nil, append_nil]
    apply filter_congr
    intro row _
    by_cases hrow : row.write.partition = other
    · simp [isExpiredProposal, hrow, Ne.symm hother]
    · simp [hrow]

theorem approveMemoryProposal_changes (id fresh : BitVec 128) (now : Timestamp)
    (truncation : Except CarlError Unit) : Changes (.approve partition id fresh now truncation) db
      (memoryStep env db (.approve partition id fresh now truncation)).1 := by
  simp only [memoryStep, approveMemoryProposal]
  cases hload : loadProposal env partition id db with
  | error error => exact Changes.refl _ db
  | ok proposal =>
    obtain ⟨row, hrow, rfl, rfl⟩ := loadProposal_eq_ok hload
    simp only
    split
    · refine ⟨.inl rfl, .inl rfl, ?_⟩
      intro other hother
      exact filter_removeProposal hrow hother
    · obtain ⟨error, -, hresult⟩ | ⟨next, answer, hbody, hresult⟩ :=
        commit_cases truncation (approveInTransaction env id fresh _ now) db
      · rw [hresult]
        exact Changes.refl _ db
      · obtain ⟨later, rfl, hstores⟩ := approveInTransaction_eq_ok hbody
        rw [hresult]
        refine ⟨.inl rfl, .inr ⟨row.write.withImportance _, rfl, hstores⟩, ?_⟩
        intro other hother
        exact @filter_removeProposal id { db with memories := later } other row hrow hother

theorem memoryStep_changes (env : MemoryEnv) (db : MemoryDb)
    (call : MemoryCall) : Changes call db (memoryStep env db call).1 := by
  cases call with
  | updateSettings partition settings =>
    exact updateMemorySettings_changes settings
  | remember id write now truncation =>
    exact rememberMemory_changes id write now truncation
  | propose id write origin sourceSession now truncation =>
    exact proposeMemory_changes id write origin sourceSession now truncation
  | approve partition id fresh now truncation =>
    exact approveMemoryProposal_changes id fresh now truncation

/-! ## Consequences of a change -/

section Change

variable {call : MemoryCall} {other : MemoryPartition}

theorem Changes.keyed (h : Changes call db next) (hkeyed : Keyed db.memories) :
    Keyed next.memories := by
  rcases h.memories with hsame | ⟨write, -, hstores⟩
  · rwa [hsame]
  · exact hstores.keyed hkeyed

theorem Changes.slice (h : Changes call db next)
    (hother : other ≠ call.partition) : next.slice other = db.slice other := by
  have hsettings : next.settings other = db.settings other := by
    rcases h.settings with hsame | ⟨settings, -, hnext⟩
    · rw [hsame]
    · rw [hnext]
      exact Function.update_of_ne hother _ _
  have hmemories : (next.memories.rows.filter fun row =>
      row.partition = other) = db.memories.rows.filter fun row =>
        row.partition = other := by
    rcases h.memories with hsame | ⟨write, hwrite, hstores⟩
    · rw [hsame]
    · exact hstores.others other (by rw [hwrite]; exact hother)
  rw [MemoryDb.slice, hmemories, hsettings, h.proposals other hother]
  rfl

theorem measure_eq_filter (weight : MemoryRecord → Nat) (partition : MemoryPartition)
    (memories : Memories) : measure weight partition memories =
      ((memories.rows.filter fun row => row.partition = partition).map weight).sum := by
  rw [measure]
  induction memories.rows with
  | nil => rfl
  | cons row rows ih =>
    by_cases hrow : row.partition = partition
    · simp [hrow, ih]
    · simp [hrow, ih]

theorem MemoryDb.Within.of_slice (h : db.Within partition)
    (hslice : next.slice partition = db.slice partition) : next.Within partition := by
  simp only [slice, Prod.mk.injEq] at hslice
  obtain ⟨hmemories, hsettings, -⟩ := hslice
  obtain ⟨hbytes, hcount⟩ := h
  constructor
  · rw [storedBytes, measure_eq_filter, hmemories, settingsOf, hsettings, ← measure_eq_filter]
    exact hbytes
  · rw [memoryCount, measure_eq_filter, hmemories, settingsOf, hsettings, ← measure_eq_filter]
    exact hcount

/-- A call on the settings leaves room for what is stored. -/
def KeepsLimits (db : MemoryDb) : MemoryCall → Prop
  | .updateSettings partition settings =>
    storedBytes partition db.memories ≤ settings.maxStorageBytes ∧
      memoryCount partition db.memories ≤ settings.maxMemories
  | _ => True

theorem Changes.within (h : Changes call db next) (hguard : KeepsLimits db call)
    (hwithin : db.Within partition) : next.Within partition := by
  by_cases hother : partition = call.partition
  · subst hother
    rcases h.settings with hsame | ⟨settings, hcall, rfl⟩
    · have hsettings : next.settingsOf call.partition = db.settingsOf call.partition := by
        rw [settingsOf, hsame]
        rfl
      rcases h.memories with hmemories | ⟨write, hwrite, hstores⟩
      · exact ⟨by rw [hsettings, hmemories]; exact hwithin.bytes,
          by rw [hsettings, hmemories]; exact hwithin.count⟩
      · have hcount := hwithin.count
        have hbound := hstores.count
        rw [hwrite] at hbound
        refine ⟨?_, ?_⟩
        · rw [hsettings, ← hwrite]
          rw [← hwrite] at hstores
          exact hstores.bytes
        · rw [hsettings]
          omega
    · rw [hcall] at hguard
      refine ⟨?_, ?_⟩
      · simpa [settingsOf] using hguard.1
      · simpa [settingsOf] using hguard.2
  · exact hwithin.of_slice (h.slice hother)

end Change

theorem memoryStep_stored {answer : MemoryAnswer} (hstores : call.stores = true)
    (h : (memoryStep env db call).2 = .ok answer) :
    ∃ write, write.partition = call.partition ∧
      Stores (db.settingsOf call.partition) write db.memories
        (memoryStep env db call).1.memories := by
  cases call with
  | updateSettings partition settings => cases hstores
  | propose id write origin sourceSession now truncation => cases hstores
  | remember id write now truncation =>
    simp only [memoryStep, rememberMemory] at h ⊢
    obtain ⟨error, -, hresult⟩ | ⟨next, record, hbody, hresult⟩ :=
      commit_cases truncation (rememberValidated env id write now) db
    · rw [hresult] at h
      cases h
    · obtain ⟨later, rfl, hstores⟩ := rememberValidated_eq_ok hbody
      rw [hresult]
      exact ⟨write, rfl, hstores⟩
  | approve partition id fresh now truncation =>
    simp only [memoryStep, approveMemoryProposal] at h ⊢
    cases hload : loadProposal env partition id db with
    | error error =>
      rw [hload] at h
      cases h
    | ok proposal =>
      obtain ⟨row, hrow, rfl, rfl⟩ := loadProposal_eq_ok hload
      simp only [hload] at h ⊢
      by_cases hexpired : row.expiresAt ≤ now
      · rw [if_pos hexpired] at h
        cases truncation <;> cases h
      · rw [if_neg hexpired] at h ⊢
        obtain ⟨error, -, hresult⟩ | ⟨next, record, hbody, hresult⟩ := commit_cases truncation
            (approveInTransaction env id fresh _ now) db
        · rw [hresult] at h
          cases h
        · obtain ⟨later, rfl, hstores⟩ := approveInTransaction_eq_ok hbody
          rw [hresult]
          exact ⟨row.write.withImportance _, rfl, hstores⟩

def ApprovesExpired (db next : MemoryDb) : MemoryCall → Prop
  | .approve partition id _ now _ =>
    ∃ row, db.proposals.find? id = some row ∧
      row.write.partition = partition ∧ row.expiresAt ≤ now ∧
      next = db.removeProposal id
  | _ => False

theorem commit_failed {β : Type} {truncation : Except CarlError Unit}
    {body : MemoryDb → Except MemoryError (MemoryDb × α)} {f : α → β}
    (hlog : truncation.toBool = true) (h : (commit truncation body db).2.map f = .error error) :
    (commit truncation body db).1 = db := by
  obtain ⟨_, -, hresult⟩ | ⟨next, answer, -, hresult⟩ := commit_cases truncation body db
  · rw [hresult]
  · rw [hresult] at h
    cases truncation with
    | ok u => cases h
    | error error => cases hlog

theorem memoryStep_failed (hlog : call.truncates = true)
    (h : (memoryStep env db call).2 = .error error) :
    (memoryStep env db call).1 = db ∨ ApprovesExpired db (memoryStep env db call).1 call := by
  cases call with
  | updateSettings partition settings =>
    obtain ⟨next, answer, -, hresult⟩ | ⟨error, -, hresult⟩ :=
      transact_cases (updateMemorySettings partition settings) db
    · simp only [memoryStep, hresult] at h
      cases h
    · exact .inl (by simp only [memoryStep, hresult])
  | remember id write now truncation => exact .inl (commit_failed hlog h)
  | propose id write origin sourceSession now truncation =>
    refine .inl (commit_failed ?_ h)
    split
    · exact hlog
    · rfl
  | approve partition id fresh now truncation =>
    simp only [memoryStep, approveMemoryProposal] at h ⊢
    cases hload : loadProposal env partition id db with
    | error error => exact .inl rfl
    | ok proposal =>
      obtain ⟨row, hrow, hpartition, rfl⟩ := loadProposal_eq_ok hload
      simp only [hload] at h ⊢
      by_cases hexpired : row.expiresAt ≤ now
      · rw [if_pos hexpired]
        exact .inr ⟨row, hrow, hpartition, hexpired, rfl⟩
      · rw [if_neg hexpired] at h ⊢
        exact .inl (commit_failed hlog h)

/-! ## Approving is remembering -/

/-- The memories, settings and answer are those of remembering the write of
the proposal, which is gone when the write is stored. -/
structure ApprovesAs (env : MemoryEnv) (db : MemoryDb) (id fresh : BitVec 128)
    (write : MemoryWrite) (now : Timestamp)
    (truncation : Except CarlError Unit)
    (approved : MemoryDb × Except MemoryError MemoryAnswer) : Prop where
  answer : approved.2 = (memoryStep env db (.remember fresh write now truncation)).2
  memories : approved.1.memories =
    (memoryStep env db (.remember fresh write now truncation)).1.memories
  settings : approved.1.settings =
    (memoryStep env db (.remember fresh write now truncation)).1.settings
  proposals : approved.1.proposals =
    if (rememberValidated env fresh write now db).toBool then
      (db.removeProposal id).proposals
    else db.proposals

theorem approve_eq_remember (truncation : Except CarlError Unit)
    (hrow : db.proposals.find? id = some row) (hpartition : row.write.partition = partition)
    (hread : (readProposal env row).toBool = true) (hlive : now < row.expiresAt) :
    ApprovesAs env db id fresh (row.write.withImportance row.write.importance) now truncation
      (memoryStep env db (.approve partition id fresh now truncation)) := by
  have hload : loadProposal env partition id db = .ok { row with
    write := row.write.withImportance row.write.importance } := by
    cases hproposal : readProposal env row with
    | error error =>
      rw [hproposal] at hread
      cases hread
    | ok proposal =>
      rw [← readProposal_eq_ok hproposal, ← hproposal]
      simp only [loadProposal, hrow, Option.filter_some, hpartition]
      rfl
  have happroved : approveMemoryProposal env partition id fresh now truncation
      db = commit truncation (approveInTransaction env id fresh
        (row.write.withImportance row.write.importance) now) db := by
    simp only [approveMemoryProposal, hload]
    rw [if_neg (not_le.mpr hlive)]
  simp only [memoryStep, happroved]
  generalize row.write.withImportance row.write.importance = write
  cases hbody : rememberValidated env fresh write now db with
  | error error =>
    have happrove : approveInTransaction env id fresh write now db = .error error := by
      simp [approveInTransaction, hbody, bind, Except.bind]
    constructor <;> simp [memoryStep, rememberMemory, commit, hbody, happrove, Except.toBool]
  | ok result =>
    obtain ⟨next, record⟩ := result
    have happrove : approveInTransaction env id fresh write now db =
        .ok (next.removeProposal id, record) := by
      simp [approveInTransaction, hbody, bind, Except.bind]
    obtain ⟨later, hnext, -⟩ := rememberValidated_eq_ok hbody
    constructor <;> simp [memoryStep, rememberMemory, commit, hbody,
      happrove, Except.toBool, removeProposal, hnext]

theorem keyed_run (hkeyed : Keyed db.memories) :
    Keyed ((memoryService env).run db calls).memories :=
  Service.run_invariant (P := fun db : MemoryDb => Keyed db.memories)
    (fun db call hkeyed => (memoryStep_changes env db call).keyed hkeyed)
    hkeyed

theorem within_run (hwithin : ∀ partition, db.Within partition)
    (hmeets : (memoryService env).Meets KeepsLimits db calls) :
    ∀ partition, ((memoryService env).run db calls).Within partition :=
  Service.run_invariant_of_meets (P := fun db : MemoryDb => ∀ partition, db.Within partition)
    (fun db call hwithin hguard partition =>
      (memoryStep_changes env db call).within hguard (hwithin partition))
    hwithin hmeets

/-- Slots are unique, a store respects the limits in force, other partitions
stay, and a failed call changes nothing but what is listed; the limits hold
throughout a run whose settings always leave room for what is stored. -/
theorem memory_limits_kept (env : MemoryEnv) (db : MemoryDb) (calls : List MemoryCall)
    (hkeyed : Keyed db.memories) (hlog : ∀ call ∈ calls, call.truncates = true) :
    (∀ entry ∈ (memoryService env).log db calls, Keyed entry.after.memories ∧
      (∀ other ≠ entry.call.partition, entry.after.slice other = entry.before.slice other) ∧
      (∀ answer, entry.answer = .ok answer → entry.call.stores = true →
        storedBytes entry.call.partition entry.after.memories ≤
            (entry.after.settingsOf entry.call.partition).maxStorageBytes ∧
          memoryCount entry.call.partition entry.after.memories ≤
            max (memoryCount entry.call.partition entry.before.memories)
              (entry.after.settingsOf entry.call.partition).maxMemories) ∧
      (∀ error, entry.answer = .error error → entry.after = entry.before ∨
        ApprovesExpired entry.before entry.after entry.call) ∧
      ∀ partition id fresh now truncation row,
        entry.call = .approve partition id fresh now truncation →
        entry.before.proposals.find? id = some row →
        row.write.partition = partition →
        (readProposal env row).toBool = true → now < row.expiresAt →
        ApprovesAs env entry.before id fresh
          (row.write.withImportance row.write.importance) now truncation
          (entry.after, entry.answer)) ∧
    ((∀ partition, db.Within partition) →
      (memoryService env).Meets KeepsLimits db calls →
      ∀ entry ∈ (memoryService env).log db calls, ∀ partition, entry.after.Within partition) := by
  constructor
  · intro entry hentry
    obtain ⟨before, call, _, rfl, rfl⟩ := Service.mem_log.mp hentry
    have hchanges := memoryStep_changes env ((memoryService env).run db before) call
    refine ⟨hchanges.keyed (keyed_run hkeyed),
      fun other hother => hchanges.slice hother, ?_, ?_, ?_⟩
    · intro answer hanswer hstores
      obtain ⟨write, hwrite, hstored⟩ := memoryStep_stored hstores hanswer
      have hsettings : ((memoryService env).serve
          ((memoryService env).run db before) call).after.settings =
            ((memoryService env).run db before).settings := by
        rcases hchanges.settings with hsame | ⟨settings, hcall, -⟩
        · exact hsame
        · simp only [Service.serve] at hstores
          rw [hcall] at hstores
          cases hstores
      simp only [Service.serve] at hwrite hstored hsettings ⊢
      rw [settingsOf, hsettings, ← settingsOf, ← hwrite]
      rw [← hwrite] at hstored
      exact ⟨hstored.bytes, hstored.count⟩
    · intro error hanswer
      exact memoryStep_failed (hlog call (by simp)) hanswer
    · rintro partition id fresh now truncation row rfl hrow hpartition hread hlive
      exact approve_eq_remember truncation hrow hpartition hread hlive
  · intro hwithin hmeets entry hentry
    obtain ⟨before, call, after, rfl, rfl⟩ := Service.mem_log.mp hentry
    obtain ⟨hbefore, hguard, -⟩ := Service.meets_append.mp hmeets
    intro partition
    exact (memoryStep_changes env _ call).within hguard (within_run hwithin hbefore partition)

end Facts

/-! ## Runs outside the limits -/

namespace Sample

def year10000 : Timestamp := 253402300800 * 10 ^ 9

/-- A year of five digits is written with a sign, which is before the digits and cannot be read. -/
def env : MemoryEnv where
  texts := { TimestampText.plain with
    readable := fun time => time < year10000
    le := fun a b => if a < year10000 ↔ b < year10000 then a ≤ b else b < year10000 }
  isSessionText := fun _ => true
  latest := 2 * year10000

def partition : MemoryPartition := ⟨"local-owner", "carl"⟩

def write : MemoryWrite where
  partition := partition
  scope := ⟨.global, "*"⟩
  kind := .fact
  key := "k"
  content := String.ofList (List.replicate 65 'a')
  provenance := "owner"
  importance := 50
  expiresAt := none

def remember : MemoryCall := .remember 1 write 0 (.ok ())

def lower (maxStorageBytes : Nat) : MemoryCall :=
  .updateSettings partition { MemorySettings.default with maxStorageBytes }

def propose : MemoryCall := .propose 2 write .ownerInput none 0 (.ok ())

def proposed : MemoryDb := (memoryService env).run .empty [propose]

def lowered : MemoryDb × Except MemoryError MemoryAnswer :=
  memoryStep env ((memoryService env).run .empty [remember]) (lower 64)

def late : MemoryDb × Except MemoryError MemoryAnswer :=
  memoryStep env proposed (.approve partition 2 3 (8 * nanosPerDay) (.ok ()))

def busy : MemoryDb × Except MemoryError MemoryAnswer :=
  memoryStep env .empty (.remember 1 write 0 (.error (.storage
    "SQLite could not truncate the write-ahead log after a secure deletion")))

def distant : MemoryWrite := { write with expiresAt := some year10000 }

def unreadable : MemoryDb × Except MemoryError MemoryAnswer :=
  memoryStep env ((memoryService env).run .empty [.propose 2 distant .ownerInput none 0 (.ok ())])
    (.approve partition 2 3 0 (.ok ()))

end Sample

open Sample

theorem memory_limits_broken : (lowered.2.toBool = true ∧
      (lowered.1.settingsOf partition).maxStorageBytes < storedBytes partition lowered.1.memories) ∧
    (late.2.toBool = false ∧ proposed.proposals.rows ≠ [] ∧
      late.1.proposals.rows = []) ∧
    (busy.2.toBool = false ∧ busy.1.memories.rows ≠ []) ∧
    unreadable.2.toBool = false ∧
      (memoryStep env .empty (.remember 3 distant 0 (.ok ()))).2.toBool = true := by
  decide +kernel

theorem memory_limits_kept_sample : (memoryService env).log .empty [propose, remember, lower 65] ≠
      [] ∧ ∀ entry ∈ (memoryService env).log .empty [propose, remember, lower 65],
        ∀ partition, entry.after.Within partition := by
  refine ⟨List.cons_ne_nil _ _, (memory_limits_kept env .empty [propose, remember, lower 65]
    List.nodup_nil (by decide)).2 ?_
      ⟨trivial, trivial, ⟨by decide +kernel, by decide +kernel⟩, trivial⟩⟩
  intro partition
  exact ⟨Nat.zero_le _, Nat.zero_le _⟩

end CarlAgent.Memory
