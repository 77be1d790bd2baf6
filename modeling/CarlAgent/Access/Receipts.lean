import CarlAgent.Access.Types
import CarlAgent.Foundation.Service

/-!
# Receipts of task-control mutations

A frontend claims a mutation under an idempotency key, carries it out and
records its result.  Each of the three calls is one transaction; what the
other tables hold when it runs is left open.
-/

namespace CarlAgent.Access

open Foundation CarlAgent.Task Storage

structure TaskControlMutationInput where
  externalSessionId : ExternalSessionId
  idempotencyKey : String
  taskId : TaskId
  method : String
  requestDigest : Sha256Digest
  resultJson : String
  deriving DecidableEq

inductive TaskControlMutationClaim where
  | fresh
  | pending
  | replay (resultJson : String) (failureCode : Option Int)
  deriving DecidableEq

/-- The columns that the table's CHECK ties to the state. -/
inductive ReceiptState where
  | pending
  | completed (appliedRevision : Nat) (resultJson : String)
  deriving DecidableEq

structure ReceiptRow where
  externalSessionId : ExternalSessionId
  idempotencyKey : String
  taskId : TaskId
  method : String
  requestDigest : Sha256Digest
  state : ReceiptState
  startingRevision : Nat
  failureCode : Option Int
  deriving DecidableEq

abbrev ReceiptKey := ExternalSessionId × String

def ReceiptRow.key (row : ReceiptRow) : ReceiptKey :=
  (row.externalSessionId, row.idempotencyKey)

def TaskControlMutationInput.key (input : TaskControlMutationInput) : ReceiptKey :=
  (input.externalSessionId, input.idempotencyKey)

abbrev Receipts := Table ReceiptRow.key

def ReceiptRow.isFor (row : ReceiptRow) (input : TaskControlMutationInput) : Bool :=
  row.taskId == input.taskId && row.method == input.method &&
    row.requestDigest == input.requestDigest

/-- What the calls read of the other tables. -/
structure Surroundings where
  session : ExternalSessionId → Option SessionId
  task : TaskId → Option (SessionId × Nat)

def sqlLength (text : String) : Nat :=
  (text.toList.takeWhile (· != '\x00')).length

def isResultColumn (resultJson : String) : Bool :=
  decide (2 ≤ sqlLength resultJson) && decide (sqlLength resultJson ≤ 65536)

def maxReceipts : Nat := 256

def taskControlFailureCode : Int := -32602

/-- The check of a claim's own fields; `isObject` tells the texts that parse
as a JSON object. -/
def validateTaskControlMutation (isObject : String → Bool)
    (input : TaskControlMutationInput) : Except CarlError Unit :=
  rejectIf (input.idempotencyKey.isEmpty ∨
    input.idempotencyKey.utf8ByteSize > 128 ∨
    Text.hasControl input.idempotencyKey ∨
    ¬ (input.method = "resume" ∨ input.method = "cancel" ∨
      input.method = "steer") ∨ input.resultJson.utf8ByteSize > 65536 ∨
    ¬ isObject input.resultJson) (.policy "task control mutation binding is invalid")

variable (around : Surroundings)

def boundRevision (input : TaskControlMutationInput) :
    Except CarlError Nat := do
  let expectedSession ← requireSome (around.session input.externalSessionId)
    (.policy "task control frontend session is unavailable")
  let (taskSession, startingRevision) ← requireSome (around.task input.taskId)
    (.policy "task control task is unavailable")
  rejectIf (expectedSession ≠ taskSession) (.policy "task control session binding is invalid")
  .ok startingRevision

def ReceiptRow.answer (row : ReceiptRow) (input : TaskControlMutationInput) :
    Except CarlError TaskControlMutationClaim := do
  rejectIf (¬ row.isFor input) (.policy "task control idempotency key was rebound")
  match row.state, row.failureCode with
  | .pending, none => .ok .pending
  | .completed _ resultJson, failureCode => .ok (.replay resultJson failureCode)
  | .pending, some _ => .error (.storage "task control receipt state is invalid")

def claimTaskControlMutation (isObject : String → Bool) (around : Surroundings)
    (input : TaskControlMutationInput) (receipts : Receipts) :
    Except CarlError (Receipts × TaskControlMutationClaim) := do
  validateTaskControlMutation isObject input
  let startingRevision ← boundRevision around input
  match receipts.find? input.key with
  | some row =>
    let claim ← row.answer input
    .ok (receipts, claim)
  | none =>
    rejectIf ((receipts.rows.filter fun row =>
        row.externalSessionId = input.externalSessionId).length ≥ maxReceipts)
      (.policy "task control receipt capacity is exhausted")
    rejectIf (startingRevision < 1) (.sqlite (.check "starting_revision"))
    let next ← requireSome (receipts.insert
      { externalSessionId := input.externalSessionId, idempotencyKey := input.idempotencyKey,
        taskId := input.taskId, method := input.method, requestDigest := input.requestDigest,
        state := .pending, startingRevision, failureCode := none })
      (.sqlite (.unique "external_session_id, idempotency_key"))
    .ok (next, .fresh)

def finishReceipt (receipts : Receipts) (input : TaskControlMutationInput) (currentRevision : Nat)
    (failureCode : ReceiptRow → Option Int) : Option Receipts :=
  receipts.update input.key (fun row => row.isFor input && row.state == .pending &&
      decide (row.startingRevision ≤ currentRevision))
    (fun row => { row with
      state := .completed currentRevision input.resultJson, failureCode := failureCode row })
    (fun _ => rfl)

def currentRevision (taskId : TaskId) : Except CarlError Nat := do
  let task ← requireSome (around.task taskId) (.policy "task control task is unavailable")
  .ok task.2

def ReceiptState.result : ReceiptState → Option String
  | pending => none
  | completed _ resultJson => some resultJson

def recordedResult (receipts : Receipts) (input : TaskControlMutationInput) : Option String :=
  (receipts.find? input.key).bind fun row =>
    if row.isFor input then row.state.result else none

def completeTaskControlMutation (input : TaskControlMutationInput)
    (receipts : Receipts) : Except CarlError (Receipts × String) := do
  let revision ← currentRevision around input.taskId
  match finishReceipt receipts input revision (·.failureCode) with
  | some next =>
    rejectIf (¬ isResultColumn input.resultJson) (.sqlite (.check "result_json"))
    .ok (next, input.resultJson)
  | none =>
    let resultJson ← requireSome (recordedResult receipts input)
      (.policy "task control mutation was not durably applied")
    .ok (receipts, resultJson)

def failTaskControlMutation (input : TaskControlMutationInput)
    (failureCode : Int) (receipts : Receipts) : Except CarlError (Receipts × Unit) := do
  rejectIf (failureCode ≠ taskControlFailureCode) (.policy "task control failure code is invalid")
  let revision ← currentRevision around input.taskId
  match finishReceipt receipts input revision (fun _ => some failureCode) with
  | some next =>
    rejectIf (¬ isResultColumn input.resultJson) (.sqlite (.check "result_json"))
    .ok (next, ())
  | none => .error (.storage "task control failure was not durably recorded")

/-! ## Interleavings -/

inductive ReceiptCall where
  | claim (around : Surroundings) (input : TaskControlMutationInput)
  | complete (around : Surroundings) (input : TaskControlMutationInput)
  | fail (around : Surroundings) (input : TaskControlMutationInput) (failureCode : Int)

def ReceiptCall.input : ReceiptCall → TaskControlMutationInput
  | claim _ input => input
  | complete _ input => input
  | fail _ input _ => input

inductive ReceiptAnswer where
  | claimed (answer : Except CarlError TaskControlMutationClaim)
  | completed (answer : Except CarlError String)
  | failed (answer : Except CarlError Unit)

def receiptStep (isObject : String → Bool) (receipts : Receipts) :
    ReceiptCall → Receipts × ReceiptAnswer
  | .claim around input =>
    let result := transact (claimTaskControlMutation isObject around input) receipts
    (result.1, .claimed result.2)
  | .complete around input =>
    let result := transact (completeTaskControlMutation around input) receipts
    (result.1, .completed result.2)
  | .fail around input failureCode =>
    let result := transact (failTaskControlMutation around input failureCode) receipts
    (result.1, .failed result.2)

def receiptService (isObject : String → Bool) : Service Receipts ReceiptCall ReceiptAnswer :=
  ⟨receiptStep isObject⟩

variable {isObject : String → Bool} {around : Surroundings}
  {input : TaskControlMutationInput} {receipts next : Receipts}
  {row : ReceiptRow}

variable {claim : TaskControlMutationClaim} {applied : Nat} {revision : Nat}

theorem claim_eq_ok
    (h : claimTaskControlMutation isObject around input receipts = .ok (next, claim)) :
    (∃ row, receipts.find? input.key = some row ∧ next = receipts ∧
      row.answer input = .ok claim) ∨
    ∃ row, receipts.insert row = some next ∧ row.key = input.key ∧ claim = .fresh := by
  simp only [claimTaskControlMutation, bind_eq_ok] at h
  obtain ⟨_, _, revision, _, h⟩ := h
  cases hfind : receipts.find? input.key with
  | some row =>
    simp only [hfind, ok_iff, Prod.mk.injEq] at h
    obtain ⟨answer, hanswer, rfl, rfl⟩ := h
    exact .inl ⟨row, rfl, rfl, hanswer⟩
  | none =>
    simp only [hfind, ok_iff, Prod.mk.injEq] at h
    obtain ⟨_, _, _, hinsert, rfl, rfl⟩ := h
    exact .inr ⟨_, hinsert, rfl, rfl⟩

theorem claim_of_found (hvalid : validateTaskControlMutation isObject input = .ok ())
    (hbound : boundRevision around input = .ok revision)
    (hfind : receipts.find? input.key = some row) :
    claimTaskControlMutation isObject around input receipts =
      (row.answer input).map fun claim => (receipts, claim) := by
  simp only [claimTaskControlMutation, hvalid, hbound, hfind, bind, Except.bind]
  cases row.answer input <;> rfl

variable {result : String} {call : ReceiptCall} {key : ReceiptKey}

theorem answer_eq_ok_of_finished (hstate : row.state = .completed applied result) :
    row.answer input = .ok claim ↔
      row.isFor input = true ∧ claim = .replay result row.failureCode := by
  simp only [ReceiptRow.answer, ok_iff, not_not, hstate]
  exact and_congr_right fun _ => eq_comm

theorem finishReceipt_eq_some {failureCode : ReceiptRow → Option Int}
    (h : finishReceipt receipts input revision failureCode = some next) :
    ∃ row, receipts.find? input.key = some row ∧ row.isFor input = true ∧
      row.state = .pending ∧
      ∀ key, next.find? key = if key = input.key then
        some { row with
          state := .completed revision input.resultJson, failureCode := failureCode row }
        else receipts.find? key := by
  obtain ⟨row, hfind, hguard⟩ := (Table.update_eq_some.mp h).1
  simp only [Bool.and_eq_true, beq_iff_eq, decide_eq_true_eq] at hguard
  refine ⟨row, hfind, hguard.1.1, hguard.1.2, ?_⟩
  intro key
  rw [Table.find?_update h, hfind]
  rfl

theorem complete_eq_ok
    (h : completeTaskControlMutation around input receipts = .ok (next, result)) :
    (∃ revision, finishReceipt receipts input revision (·.failureCode) = some next ∧
      result = input.resultJson) ∨
    next = receipts ∧ recordedResult receipts input = some result := by
  simp only [completeTaskControlMutation, bind_eq_ok] at h
  obtain ⟨revision, -, h⟩ := h
  cases hfinish : finishReceipt receipts input revision (·.failureCode) with
  | some finished =>
    simp only [hfinish, ok_iff, Prod.mk.injEq] at h
    obtain ⟨_, rfl, rfl⟩ := h
    exact .inl ⟨revision, hfinish, rfl⟩
  | none =>
    simp only [hfinish, ok_iff, Prod.mk.injEq] at h
    obtain ⟨_, hrecorded, rfl, rfl⟩ := h
    exact .inr ⟨rfl, hrecorded⟩

theorem fail_eq_ok {failureCode : Int} {u : Unit}
    (h : failTaskControlMutation around input failureCode receipts = .ok (next, u)) :
    ∃ revision, finishReceipt receipts input revision (fun _ => some failureCode) = some next := by
  simp only [failTaskControlMutation, ok_iff] at h
  obtain ⟨_, revision, -, h⟩ := h
  cases hfinish : finishReceipt receipts input revision
      (fun _ => some failureCode) with
  | some finished =>
    simp only [hfinish, ok_iff, Prod.mk.injEq] at h
    obtain ⟨_, rfl, -⟩ := h
    exact ⟨revision, hfinish⟩
  | none => simp [hfinish] at h

/-- A call changes nothing, adds a receipt under its key, or records its own
result in a pending receipt. -/
inductive ReceiptMove (call : ReceiptCall) (receipts next : Receipts) : Prop
  | same (h : next = receipts)
  | added {row : ReceiptRow} (hinsert : receipts.insert row = some next)
    (hkey : row.key = call.input.key)
  | finished {row : ReceiptRow} {revision : Nat} {failureCode : Option Int}
    (hfind : receipts.find? call.input.key = some row)
    (hpending : row.state = .pending)
    (hnext : ∀ key, next.find? key = if key = call.input.key then
      some { row with state := .completed revision call.input.resultJson, failureCode }
      else receipts.find? key)

theorem receiptStep_move (isObject : String → Bool) (receipts : Receipts) (call : ReceiptCall) :
    ReceiptMove call receipts (receiptStep isObject receipts call).1 := by
  cases call with
  | claim around input =>
    rcases transact_cases (claimTaskControlMutation isObject around input)
        receipts with ⟨next, claim, hbody, hrun⟩ | ⟨error, -, hrun⟩
    · simp only [receiptStep, hrun]
      rcases claim_eq_ok hbody with ⟨_, _, hnext, _⟩ | ⟨row, hinsert, hkey, _⟩
      · exact .same hnext
      · exact .added hinsert hkey
    · simp only [receiptStep, hrun]
      exact .same rfl
  | complete around input =>
    rcases transact_cases (completeTaskControlMutation around input)
        receipts with ⟨next, result, hbody, hrun⟩ | ⟨error, -, hrun⟩
    · simp only [receiptStep, hrun]
      rcases complete_eq_ok hbody with ⟨_, hfinish, _⟩ | ⟨hnext, _⟩
      · obtain ⟨row, hfind, -, hpending, hnext⟩ := finishReceipt_eq_some hfinish
        exact .finished hfind hpending hnext
      · exact .same hnext
    · simp only [receiptStep, hrun]
      exact .same rfl
  | fail around input failureCode =>
    rcases transact_cases (failTaskControlMutation around input failureCode)
        receipts with ⟨next, u, hbody, hrun⟩ | ⟨error, -, hrun⟩
    · simp only [receiptStep, hrun]
      obtain ⟨_, hfinish⟩ := fail_eq_ok hbody
      obtain ⟨row, hfind, -, hpending, hnext⟩ := finishReceipt_eq_some hfinish
      exact .finished hfind hpending hnext
    · simp only [receiptStep, hrun]
      exact .same rfl

theorem ReceiptMove.keeps_finished (h : ReceiptMove call receipts next)
    (hfind : receipts.find? key = some row) (hfinished : row.state ≠ .pending) :
    next.find? key = some row := by
  cases h with
  | same h => rw [h, hfind]
  | added hinsert _ => exact Table.find?_insert_of_some hinsert hfind
  | @finished pendingRow _ _ hcall hpending hnext =>
    have hne : key ≠ call.input.key := by
      rintro rfl
      rw [hcall] at hfind
      cases hfind
      exact hfinished hpending
    rw [hnext, if_neg hne, hfind]

theorem ReceiptMove.keeps_key (h : ReceiptMove call receipts next)
    (hsome : (receipts.find? key).isSome = true) : (next.find? key).isSome = true := by
  cases h with
  | same h => rw [h, hsome]
  | added hinsert _ =>
    rw [Table.find?_insert hinsert]
    split
    · rfl
    · exact hsome
  | finished _ _ hnext =>
    rw [hnext]
    split
    · rfl
    · exact hsome

def claimsFresh (key : ReceiptKey)
    (entry : Service.Entry Receipts ReceiptCall ReceiptAnswer) : Bool :=
  match entry.answer with
  | .claimed (.ok .fresh) => decide (entry.call.input.key = key)
  | _ => false

def ReceiptAnswer.isSuccess : ReceiptAnswer → Bool
  | claimed (.ok (.replay _ none)) => true
  | completed (.ok _) => true
  | _ => false

theorem claimsFresh_serve
    (h : claimsFresh key ((receiptService isObject).serve receipts call) = true) :
    receipts.find? key = none ∧
      ((receiptStep isObject receipts call).1.find? key).isSome = true := by
  simp only [claimsFresh, Service.serve, receiptService] at h
  cases call with
  | complete around input => simp [receiptStep] at h
  | fail around input failureCode => simp [receiptStep] at h
  | claim around input =>
    rcases transact_cases (claimTaskControlMutation isObject around input)
        receipts with ⟨next, claim, hbody, hrun⟩ | ⟨error, -, hrun⟩
    · simp only [receiptStep, hrun] at h ⊢
      cases claim with
      | pending => cases h
      | replay result failureCode => cases h
      | fresh =>
        have hkey : input.key = key := of_decide_eq_true h
        rcases claim_eq_ok hbody with ⟨row, _, _, hanswer⟩ | ⟨row, hinsert, hrow, _⟩
        · simp only [ReceiptRow.answer, ok_iff] at hanswer
          obtain ⟨-, hanswer⟩ := hanswer
          split at hanswer <;> cases hanswer
        · have hnone := (Table.insert_eq_some.mp hinsert).1
          rw [hrow, hkey] at hnone
          refine ⟨hnone, ?_⟩
          rw [Table.find?_insert hinsert, hrow, if_pos hkey.symm]
          rfl
    · simp [receiptStep, hrun] at h

/-- A receipt that was recorded as failed is reported as a success exactly
when its own command is completed. -/
theorem isSuccess_of_failed (hfind : receipts.find? call.input.key = some row)
    (hstate : row.state = .completed applied result) (hfailed : row.failureCode.isSome = true) :
    (receiptStep isObject receipts call).2.isSuccess = true ↔
      ∃ around, call = .complete around call.input ∧
        (around.task call.input.taskId).isSome = true ∧
        row.isFor call.input = true := by
  have hblocked : ∀ revision failureCode,
      finishReceipt receipts call.input revision failureCode = none := by
    intro revision failureCode
    cases hfinish : finishReceipt receipts call.input revision failureCode with
    | none => rfl
    | some next =>
      obtain ⟨pendingRow, hrow, -, hpending, -⟩ := finishReceipt_eq_some hfinish
      rw [hfind] at hrow
      cases hrow
      rw [hstate] at hpending
      cases hpending
  cases call with
  | claim around input =>
    simp only [ReceiptCall.input] at hfind
    simp only [reduceCtorEq, false_and, exists_false, iff_false, Bool.not_eq_true, receiptStep]
    rcases transact_cases (claimTaskControlMutation isObject around input)
        receipts with ⟨next, claim, hbody, hrun⟩ | ⟨error, -, hrun⟩
    · rw [hrun]
      rcases claim_eq_ok hbody with ⟨found, hfound, _, hanswer⟩ | ⟨added, hinsert, hkey, _⟩
      · rw [hfind] at hfound
        cases hfound
        obtain ⟨-, rfl⟩ := (answer_eq_ok_of_finished hstate).mp hanswer
        obtain ⟨failureCode, hcode⟩ := Option.isSome_iff_exists.mp hfailed
        rw [hcode]
        rfl
      · have hnone := (Table.insert_eq_some.mp hinsert).1
        rw [hkey] at hnone
        rw [hnone] at hfind
        cases hfind
    · rw [hrun]
      rfl
  | fail around input failureCode =>
    simp [receiptStep, ReceiptAnswer.isSuccess]
  | complete around input =>
    simp only [ReceiptCall.input] at hfind hblocked
    have hrecorded : recordedResult receipts input =
        if row.isFor input then some result else none := by
      rw [recordedResult, hfind, Option.bind_some, hstate]
      rfl
    simp only [receiptStep, ReceiptCall.input, ReceiptCall.complete.injEq, and_true,
      exists_eq_left', transact, completeTaskControlMutation, currentRevision, hrecorded]
    cases htask : around.task input.taskId with
    | none => simp [requireSome, bind, Except.bind, ReceiptAnswer.isSuccess]
    | some task =>
      simp only [requireSome, bind, Except.bind, hblocked]
      by_cases hsame : row.isFor input = true
      · simp [hsame, ReceiptAnswer.isSuccess]
      · simp [hsame, ReceiptAnswer.isSuccess]

/-! ## Every interleaving -/

theorem run_keeps_finished {calls : List ReceiptCall} (hfind : receipts.find? key = some row)
    (hfinished : row.state ≠ .pending) :
    ((receiptService isObject).run receipts calls).find? key = some row := by
  refine Service.run_invariant
    (P := fun receipts : Receipts => receipts.find? key = some row) ?_ hfind
  intro receipts call h
  exact (receiptStep_move isObject receipts call).keeps_finished h hfinished

theorem countP_claimsFresh_le_one (key : ReceiptKey) (calls : List ReceiptCall) :
    ((receiptService isObject).log receipts calls).countP (claimsFresh key) ≤ 1 := by
  refine Service.countP_log_le_one (P := fun _ => True)
    (U := fun receipts : Receipts => (receipts.find? key).isSome = true)
    (fun _ _ _ => trivial) ?_ ?_ ?_ trivial
  · intro receipts call _ hfresh
    exact (claimsFresh_serve hfresh).2
  · intro receipts call _ hused
    exact (receiptStep_move isObject receipts call).keeps_key hused
  · intro receipts call _ hused
    by_contra hfresh
    have hnone := (claimsFresh_serve (Bool.eq_true_of_not_eq_false hfresh)).1
    rw [hnone] at hused
    cases hused

theorem result_of_finishing {later : ReceiptRow}
    (hpending : receipts.find? call.input.key = some row) (hstate : row.state = .pending)
    (hlater : (receiptStep isObject receipts call).1.find? call.input.key = some later)
    (hfinished : later.state = .completed applied result) : result = call.input.resultJson := by
  cases receiptStep_move isObject receipts call with
  | same hsame =>
    rw [hsame, hpending] at hlater
    cases hlater
    rw [hstate] at hfinished
    cases hfinished
  | added hinsert _ =>
    rw [Table.find?_insert_of_some hinsert hpending] at hlater
    cases hlater
    rw [hstate] at hfinished
    cases hfinished
  | finished _ _ hnext =>
    rw [hnext, if_pos rfl] at hlater
    cases hlater
    cases hfinished
    rfl

/--
Over every interleaving: one fresh claim for each key; a finished receipt holds
the result of the call that finished it and keeps it; a claim is answered with
that result if it repeats the command, and rejected if its digest differs.  A
receipt that failed is reported as a success exactly when its own command is
completed afterwards.
-/
theorem receipt_success_after_failure_iff (isObject : String → Bool) (receipts : Receipts)
    (calls : List ReceiptCall) :
    (∀ key, ((receiptService isObject).log receipts calls).countP (claimsFresh key) ≤ 1) ∧
    (∀ entry ∈ (receiptService isObject).log receipts calls, ∀ row later applied result,
        entry.before.find? entry.call.input.key = some row →
        row.state = .pending →
        entry.after.find? entry.call.input.key = some later →
        later.state = .completed applied result →
        result = entry.call.input.resultJson) ∧
    ∀ before after key row applied result, calls = before ++ after →
      ((receiptService isObject).run receipts before).find? key = some row →
      row.state = .completed applied result →
      ((receiptService isObject).run receipts calls).find? key = some row ∧
      (∀ around input answer, input.key = key →
        (receiptStep isObject ((receiptService isObject).run receipts calls)
          (.claim around input)).2 = .claimed answer →
        (input.requestDigest ≠ row.requestDigest →
          ∀ claim, answer ≠ .ok claim) ∧ (∀ claim, answer = .ok claim →
          claim = .replay result row.failureCode) ∧ (row.isFor input = true →
          validateTaskControlMutation isObject input = .ok () →
          (∃ revision, boundRevision around input = .ok revision) →
          answer = .ok (.replay result row.failureCode))) ∧
      (row.failureCode.isSome = true → ∀ call, call.input.key = key →
        ((receiptStep isObject ((receiptService isObject).run receipts calls)
            call).2.isSuccess = true ↔
          ∃ around, call = .complete around call.input ∧
            (around.task call.input.taskId).isSome = true ∧
            row.isFor call.input = true)) := by
  refine ⟨fun key => countP_claimsFresh_le_one key calls, ?_, ?_⟩
  · intro entry hentry row later applied result hrow hstate hlater hfinished
    obtain ⟨before, call, after, -, rfl⟩ := Service.mem_log.mp hentry
    exact result_of_finishing hrow hstate hlater hfinished
  · intro before after key row applied result hcalls hfind hstate
    have hfinished : row.state ≠ .pending := by
      rw [hstate]
      simp
    have hkept : ((receiptService isObject).run receipts calls).find? key = some row := by
      rw [hcalls, Service.run_append]
      exact run_keeps_finished hfind hfinished
    refine ⟨hkept, ?_, ?_⟩
    · rintro around input answer rfl hanswer
      have hclaims : ∀ claim, answer = .ok claim →
          row.isFor input = true ∧ claim = .replay result row.failureCode := by
        rintro claim rfl
        simp only [receiptStep, ReceiptAnswer.claimed.injEq, transact_answer_eq_ok] at hanswer
        obtain ⟨next, hbody⟩ := hanswer
        rcases claim_eq_ok hbody with ⟨found, hfound, -, hfor⟩ | ⟨added, hinsert, hkey, -⟩
        · rw [hkept] at hfound
          cases hfound
          exact (answer_eq_ok_of_finished hstate).mp hfor
        · have hnone := (Table.insert_eq_some.mp hinsert).1
          rw [hkey, hkept] at hnone
          cases hnone
      refine ⟨?_, fun claim hclaim => (hclaims claim hclaim).2, ?_⟩
      · intro hdigest claim hclaim
        have hfor := (hclaims claim hclaim).1
        simp only [ReceiptRow.isFor, Bool.and_eq_true, beq_iff_eq] at hfor
        exact hdigest hfor.2.symm
      · rintro hfor hvalid ⟨revision, hbound⟩
        have hfound := claim_of_found hvalid hbound hkept
        have hreplay : row.answer input = .ok (.replay result row.failureCode) :=
          (answer_eq_ok_of_finished hstate).mpr ⟨hfor, rfl⟩
        rw [hreplay] at hfound
        have hrun : transact (claimTaskControlMutation isObject around input)
            ((receiptService isObject).run receipts calls) = _ :=
          transact_of_ok hfound
        simp only [receiptStep, hrun, ReceiptAnswer.claimed.injEq] at hanswer
        exact hanswer.symm
    · rintro hfailed call rfl
      exact isSuccess_of_failed hkept hstate hfailed

namespace Sample

def external : ExternalSessionId := ⟨"s", by decide⟩

def mutation : TaskControlMutationInput where
  externalSessionId := external
  idempotencyKey := "k"
  taskId := ⟨2⟩
  method := "resume"
  requestDigest := ⟨7⟩
  resultJson := "\x7b\x7d"

def surroundings : Surroundings where
  session := fun _ => some ⟨1⟩
  task := fun _ => some (⟨1⟩, 1)

/-- Two callers share a key: the first one's mutation is rejected, then the
second one completes. -/
def crossing : List ReceiptCall :=
  [.claim surroundings mutation, .claim surroundings mutation,
    .fail surroundings mutation taskControlFailureCode]

end Sample

theorem failed_receipt_completes : ∃ row applied result,
      ((receiptService fun _ => true).run Table.empty
        Sample.crossing).find? (Sample.external, "k") = some row ∧
      row.state = .completed applied result ∧
      row.failureCode = some taskControlFailureCode ∧
      (receiptStep (fun _ => true) ((receiptService fun _ => true).run Table.empty Sample.crossing)
        (.complete Sample.surroundings Sample.mutation)).2.isSuccess = true :=
  ⟨_, _, _, rfl, rfl, rfl, rfl⟩

end CarlAgent.Access
