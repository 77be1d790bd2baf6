import CarlAgent.Task.Checkpoint

/-!
# Epoch reports

A provider ends an epoch with a report.  `decideCompletion` turns the claimed
disposition into a decision, after it has checked every claim against the
checkpoint and the normalized results of the operations.
-/

namespace CarlAgent.Task

open List Foundation Text OrderedMap

inductive EpochDisposition where
  | «continue»
  | complete
  | blocked
  deriving DecidableEq, Repr

structure ReportedClauseEvidence where
  clauseId : String
  operationIds : List OperationId
  eventSequences : List Nat
  artifactDigests : List String
  deriving DecidableEq, Repr

structure EpochReport where
  schemaVersion : Nat
  disposition : EpochDisposition
  summary : String
  nextObjective : Option String
  clauseEvidence : List ReportedClauseEvidence
  exactIdentifiers : List String
  deriving DecidableEq, Repr

inductive CompletionDecision where
  | «continue» (nextObjective : String)
  | complete
  | blocked (reason : String)
  deriving DecidableEq, Repr

inductive OperationEvidence where
  | command (operationId : OperationId) (completed : Bool) (exitCode : Option Int)
  | fileChange (operationId : OperationId) (completed : Bool) (artifactDigests : List String)
  deriving DecidableEq, Repr

def OperationEvidence.operationId : OperationEvidence → OperationId
  | command operationId _ _ => operationId
  | fileChange operationId _ _ => operationId

inductive ReportErrorCode where
  | invalidReport
  | unknownClause
  | unknownOperation
  | insufficientEvidence
  | invalidProgressInput
  deriving DecidableEq, Repr

def maxReportTextBytes : Nat := 16 * 1024
def maxReportClauses : Nat := 64
def maxReportIdentifiers : Nat := 128
def maxReportOperationIds : Nat := 256
def maxReportEvidenceValues : Nat := 256

def invalidText (value : String) : Bool :=
  decide (value.utf8ByteSize > maxReportTextBytes) || hasControl value

def ReportedClauseEvidence.validate (evidence : ReportedClauseEvidence) :
    Except ReportErrorCode Unit :=
  rejectIf (isBlank evidence.clauseId ∨ invalidText evidence.clauseId ∨
    evidence.operationIds.length > maxReportOperationIds ∨
    evidence.eventSequences.length > maxReportEvidenceValues ∨
    evidence.artifactDigests.length > maxReportEvidenceValues ∨
    0 ∈ evidence.eventSequences ∨
    ∃ digest ∈ evidence.artifactDigests, ¬ isLowercaseSha256 digest) .invalidReport

def validateNextObjective (disposition : EpochDisposition)
    (nextObjective : Option String) : Except ReportErrorCode Unit :=
  match disposition, nextObjective with
  | .continue, some next =>
    rejectIf (isBlank next ∨ invalidText next) .invalidReport
  | .continue, none => .error .invalidReport
  | _, some next => rejectIf (invalidText next) .invalidReport
  | _, none => .ok ()

def validateReport (report : EpochReport) : Except ReportErrorCode Unit := do
  rejectIf (report.schemaVersion ≠ 1 ∨ isBlank report.summary ∨
    invalidText report.summary ∨
    report.clauseEvidence.length > maxReportClauses ∨
    report.exactIdentifiers.length > maxReportIdentifiers ∨
    ∃ value ∈ report.exactIdentifiers, invalidText value) .invalidReport
  validateNextObjective report.disposition report.nextObjective
  report.clauseEvidence.forM ReportedClauseEvidence.validate

def reportOpen : String := "<carl-epoch-report>"
def reportClose : String := "</carl-epoch-report>"
def reportLike : String := "carl-epoch-report"
def maxReportBytes : Nat := 64 * 1024

structure TaggedBlock where
  before : List Char
  body : List Char
  after : List Char

/-- The text between the first opening tag and the first closing tag after
it. -/
def findBlock (opening closing : String) (output : List Char) : Option TaggedBlock := do
  let opened ← findSub opening.toList output
  let content := opened.drop opening.toList.length
  let closed ← findSub closing.toList content
  some
    { before := output.take (output.length - opened.length),
      body := content.take (content.length - closed.length),
      after := closed.drop closing.toList.length }

/-- The one report block of a transcript; `decode` is the JSON decoder. -/
def parseEpochReport (decode : List Char → Option EpochReport)
    (output : List Char) : Except ReportErrorCode EpochReport := do
  rejectIf (byteLen output > maxReportBytes) .invalidReport
  let block ← requireSome (findBlock reportOpen reportClose output) .invalidReport
  rejectIf (containsSub reportLike.toList block.before ∨
    containsSub reportLike.toList block.after ∨
    trim block.after ≠ [] ∨ containsSub reportOpen.toList block.body ∨
    containsSub reportClose.toList block.body) .invalidReport
  let report ← requireSome (decode block.body) .invalidReport
  validateReport report
  .ok report

def canonicalArtifacts (checkpoint : CanonicalCheckpoint) : List String :=
  checkpoint.completedWork.flatMap (·.artifactDigests) ++
    checkpoint.repository.diffArtifactDigest.toList ++
    checkpoint.repository.fileHashes.values

def validNormalizedEvidence (evidence : OperationEvidence)
    (claimedArtifacts canonicalArtifacts : List String) : Bool :=
  match evidence with
  | .command _ completed exitCode => completed && decide (exitCode = some 0)
  | .fileChange _ completed artifactDigests =>
    completed && artifactDigests.any fun digest =>
      decide (digest ∈ canonicalArtifacts) &&
        (claimedArtifacts.isEmpty || decide (digest ∈ claimedArtifacts))

abbrev EvidenceMap := OrderedMap OperationId OperationEvidence

def collectEvidence (evidence : EvidenceMap) (item : OperationEvidence) :
    Except ReportErrorCode EvidenceMap := do
  rejectIf ((evidence.find? item.operationId).isSome) .invalidReport
  .ok (evidence.insert item.operationId item)

section Claims

variable (checkpoint : CanonicalCheckpoint) (evidence : EvidenceMap)

def checkpointOperations : OrderedMap OperationId OperationCheckpoint :=
  ofList (checkpoint.operations.map fun operation =>
    (operation.operationId, operation))

/-- One turn of the loop over the operations that a claim cites. -/
def validateClaimedOperation (claim : ReportedClauseEvidence) (operationIds : List OperationId)
    (operationId : OperationId) : Except ReportErrorCode (List OperationId) := do
  rejectIf (operationId ∈ operationIds) .invalidReport
  let operation ← requireSome
    ((checkpointOperations checkpoint).find? operationId) .unknownOperation
  let normalized ← requireSome (evidence.find? operationId) .insufficientEvidence
  rejectIf (operation.status ≠ .succeeded ∨
    ¬ (∀ sequence ∈ claim.eventSequences, sequence ∈ operation.evidenceSequences) ∨
    ¬ validNormalizedEvidence normalized claim.artifactDigests
      (canonicalArtifacts checkpoint)) .insufficientEvidence
  .ok (operationId :: operationIds)

/-- One turn of the loop over the claims, with the clauses claimed so far. -/
def validateClaim (claimed : List String) (claim : ReportedClauseEvidence) :
    Except ReportErrorCode (List String) := do
  rejectIf (¬ ∃ clause ∈ checkpoint.contract.clauses, clause.id = claim.clauseId) .unknownClause
  rejectIf (claim.clauseId ∈ claimed ∨ claim.operationIds = []) .invalidReport
  rejectIf (∃ digest ∈ claim.artifactDigests,
    digest ∉ canonicalArtifacts checkpoint) .insufficientEvidence
  let _ ← claim.operationIds.foldlM (validateClaimedOperation checkpoint evidence claim) []
  .ok (claim.clauseId :: claimed)

end Claims

def validateClaims (report : EpochReport) (checkpoint : CanonicalCheckpoint)
    (operationEvidence : List OperationEvidence) : Except ReportErrorCode (List String) := do
  let evidence ← operationEvidence.foldlM collectEvidence empty
  report.clauseEvidence.foldlM (validateClaim checkpoint evidence) []

def decideCompletion (report : EpochReport) (checkpoint : CanonicalCheckpoint)
    (operationEvidence : List OperationEvidence) : Except ReportErrorCode CompletionDecision := do
  validateReport report
  let claims ← validateClaims report checkpoint operationEvidence
  match report.disposition with
  | .continue => do
    let nextObjective ← requireSome report.nextObjective .invalidReport
    .ok (.continue nextObjective)
  | .blocked => .ok (.blocked report.summary)
  | .complete => do
    rejectIf (¬ ∀ clause ∈ checkpoint.contract.clauses,
      clause.required = true → clause.id ∈ claims) .insufficientEvidence
    .ok .complete

/-! ## The block of a transcript -/

variable {items : List OperationEvidence} {item : OperationEvidence} {output : List Char}

theorem findBlock_eq_some {opening closing : String} {block : TaggedBlock} :
    findBlock opening closing output = some block ↔ output = block.before ++
          (opening.toList ++ (block.body ++ (closing.toList ++ block.after))) ∧
        FirstAt opening.toList block.before
          (opening.toList ++ (block.body ++ (closing.toList ++ block.after))) ∧
        FirstAt closing.toList block.body (closing.toList ++ block.after) := by
  simp only [findBlock, Option.bind_eq_bind, Option.bind_eq_some_iff, findSub_eq_some,
    Option.some.injEq]
  constructor
  · rintro ⟨_, ⟨before, rfl, hopen⟩, _, ⟨body, hbody, hclose⟩, rfl⟩
    obtain ⟨content, rfl⟩ := hopen.1
    obtain ⟨after, rfl⟩ := hclose.1
    rw [drop_left] at hbody
    subst hbody
    simp [hopen, hclose]
  · rintro ⟨rfl, hopen, hclose⟩
    refine ⟨_, ⟨_, rfl, hopen⟩, _, ⟨block.body, drop_left, hclose⟩, ?_⟩
    simp

theorem reportOpen_toList : reportOpen.toList = '<' :: (reportLike.toList ++ ['>']) := by decide

theorem reportClose_toList : reportClose.toList = '<' :: '/' :: (reportLike.toList ++ ['>']) := by
  decide

theorem bracket_not_mem : '<' ∉ reportLike.toList ++ ['>'] := by decide

theorem slash_bracket_not_mem : '<' ∉ '/' :: (reportLike.toList ++ ['>']) := by decide

/-- What the text around the block and the block itself must not hold. -/
structure OneReport (before body after : List Char) : Prop where
  before : ¬ reportLike.toList <:+: before
  opens : ¬ reportOpen.toList <:+: body
  closes : ¬ reportClose.toList <:+: body
  after : ∀ c ∈ after, isWhitespace c = true

section Block

variable {before body after : List Char}

theorem OneReport.tag_not_infix (h : OneReport before body after) {tail : List Char} :
    ¬ '<' :: tail <:+: after := by
  intro hpart
  have hspace := h.after '<' (hpart.subset mem_cons_self)
  revert hspace
  decide

theorem OneReport.open_not_infix (h : OneReport before body after) :
    ¬ reportOpen.toList <:+: before := by
  intro hpart
  refine h.before (List.IsInfix.trans ?_ hpart)
  rw [reportOpen_toList]
  exact ⟨['<'], ['>'], rfl⟩

theorem OneReport.close_not_infix (h : OneReport before body after) :
    ¬ reportClose.toList <:+: before := by
  intro hpart
  refine h.before (List.IsInfix.trans ?_ hpart)
  rw [reportClose_toList]
  exact ⟨['<', '/'], ['>'], rfl⟩

theorem OneReport.like_not_infix (h : OneReport before body after) :
    ¬ reportLike.toList <:+: after := by
  intro hpart
  have hspace := h.after 'c' (hpart.subset (by decide))
  revert hspace
  decide

theorem OneReport.firstAt (h : OneReport before body after) : FirstAt reportOpen.toList before
        (reportOpen.toList ++ (body ++ (reportClose.toList ++ after))) ∧
      FirstAt reportClose.toList body (reportClose.toList ++ after) := by
  refine ⟨⟨prefix_append _ _, ?_⟩, ⟨prefix_append _ _, ?_⟩⟩
  · intro rest hrest hne hprefix
    rw [reportOpen_toList] at hprefix
    have hinside := prefix_of_prefix_append bracket_not_mem hne hprefix
    rw [← reportOpen_toList] at hinside
    exact h.open_not_infix (hinside.isInfix.trans hrest.isInfix)
  · intro rest hrest hne hprefix
    rw [reportClose_toList] at hprefix
    have hinside := prefix_of_prefix_append slash_bracket_not_mem hne hprefix
    rw [← reportClose_toList] at hinside
    exact h.closes (hinside.isInfix.trans hrest.isInfix)

/-- The other tag does not start where a tag starts. -/
theorem OneReport.occursOnce (h : OneReport before body after) : OccursOnce reportOpen.toList
        (before ++ (reportOpen.toList ++ (body ++ (reportClose.toList ++ after)))) ∧
      OccursOnce reportClose.toList
        (before ++ (reportOpen.toList ++ (body ++ (reportClose.toList ++ after)))) := by
  have hclose : ¬ reportOpen.toList <:+: reportClose.toList ++ after := by
    rw [reportOpen_toList, reportClose_toList]
    intro hpart
    rcases infix_cons_iff.mp hpart with hprefix | hpart
    · simp [reportLike] at hprefix
    · exact h.tag_not_infix (infix_of_append slash_bracket_not_mem hpart)
  have hopen : ¬ reportClose.toList <:+: reportOpen.toList ++ body := by
    rw [reportOpen_toList, reportClose_toList]
    intro hpart
    rcases infix_cons_iff.mp hpart with hprefix | hpart
    · simp [reportLike] at hprefix
    · have hbody := infix_of_append bracket_not_mem hpart
      rw [← reportClose_toList] at hbody
      exact h.closes hbody
  constructor
  · have hbefore := h.open_not_infix
    have hbody := h.opens
    rw [reportOpen_toList] at hbefore hbody hclose ⊢
    refine occursOnce_of_not_infix bracket_not_mem hbefore ?_
    intro hpart
    exact (infix_append_cons bracket_not_mem hpart).elim hbody hclose
  · have hbefore := h.close_not_infix
    have hafter : ¬ '<' :: '/' :: (reportLike.toList ++ ['>']) <:+: after := h.tag_not_infix
    rw [reportClose_toList] at hbefore hopen ⊢
    simp only [← append_assoc]
    rw [append_assoc]
    refine occursOnce_of_not_infix slash_bracket_not_mem ?_ hafter
    intro hpart
    rw [append_assoc] at hpart
    exact (infix_append_cons slash_bracket_not_mem hpart).elim hbefore hopen

end Block

/-- The block stands in the transcript as the source asks for it. -/
def Encloses (output before body after : List Char) : Prop :=
  output = before ++ (reportOpen.toList ++ (body ++ (reportClose.toList ++ after)))

theorem parseEpochReport_eq_ok {decode : List Char → Option EpochReport}
    {report : EpochReport} : parseEpochReport decode output = .ok report ↔
      byteLen output ≤ maxReportBytes ∧ validateReport report = .ok () ∧
        ∃ before body after, Encloses output before body after ∧
          OneReport before body after ∧ decode body = some report := by
  simp only [parseEpochReport, ok_iff, not_or, Bool.not_eq_true, not_not, ne_eq, findBlock_eq_some,
    trim_eq_nil, not_lt]
  simp only [← Bool.not_eq_true, containsSub_eq_true]
  constructor
  · rintro ⟨hsize, block, ⟨houtput, -, -⟩, ⟨hbefore, -, hafter, hopens, hcloses⟩, found, hdecode, _,
      hvalid, rfl⟩
    exact ⟨hsize, hvalid, block.before, block.body, block.after, houtput,
      ⟨hbefore, hopens, hcloses, hafter⟩, hdecode⟩
  · rintro ⟨hsize, hvalid, before, body, after, houtput, hone, hdecode⟩
    exact ⟨hsize, ⟨before, body, after⟩, ⟨houtput, hone.firstAt⟩, ⟨hone.before, hone.like_not_infix,
      hone.after, hone.opens, hone.closes⟩, report, hdecode, (), hvalid, rfl⟩

/-- An accepted transcript has one report block, at its end, and the parser
returns the report of every such transcript. -/
theorem parseEpochReport_one_block (decode : List Char → Option EpochReport) :
    (∀ output report, parseEpochReport decode output = .ok report →
      OccursOnce reportOpen.toList output ∧ OccursOnce reportClose.toList output ∧
      ∃ before body after, Encloses output before body after ∧
        ¬ reportLike.toList <:+: before ∧ ¬ reportLike.toList <:+: after ∧
        (∀ c ∈ after, isWhitespace c = true) ∧ decode body = some report) ∧
    ∀ output report before body after, validateReport report = .ok () →
      decode body = some report → OneReport before body after →
      Encloses output before body after → byteLen output ≤ maxReportBytes →
      parseEpochReport decode output = .ok report := by
  constructor
  · intro output report h
    obtain ⟨-, -, before, body, after, rfl, hone, hdecode⟩ := parseEpochReport_eq_ok.mp h
    obtain ⟨hopens, hcloses⟩ := hone.occursOnce
    exact ⟨hopens, hcloses, before, body, after, rfl, hone.before, hone.like_not_infix, hone.after,
      hdecode⟩
  · intro output report before body after hvalid hdecode hone houtput hsize
    exact parseEpochReport_eq_ok.mpr ⟨hsize, hvalid, before, body, after, houtput, hone, hdecode⟩

/-! ## What an accepted claim has shown -/

/-- The result proves success: a command that ended with code zero, or a
change of files with an artifact that the checkpoint holds. -/
inductive OperationEvidence.Succeeds (checkpoint : CanonicalCheckpoint) :
    OperationEvidence → Prop
  | command {operationId : OperationId} : Succeeds checkpoint (.command operationId true (some 0))
  | fileChange {operationId : OperationId} {artifactDigests : List String}
    {digest : String} (hdigest : digest ∈ artifactDigests)
    (hheld : digest ∈ canonicalArtifacts checkpoint) :
    Succeeds checkpoint (.fileChange operationId true artifactDigests)

structure CitedOperation (checkpoint : CanonicalCheckpoint)
    (evidence : EvidenceMap) (claim : ReportedClauseEvidence)
    (operationId : OperationId) : Prop where
  operation : ∃ operation, (checkpointOperations checkpoint).find? operationId = some operation ∧
      operation.status = .succeeded ∧
      ∀ sequence ∈ claim.eventSequences, sequence ∈ operation.evidenceSequences
  result : ∃ item, evidence.find? operationId = some item ∧
    validNormalizedEvidence item claim.artifactDigests (canonicalArtifacts checkpoint) = true

structure AcceptedClaim (checkpoint : CanonicalCheckpoint)
    (evidence : EvidenceMap) (claim : ReportedClauseEvidence) : Prop where
  clause : ∃ clause ∈ checkpoint.contract.clauses, clause.id = claim.clauseId
  cites : claim.operationIds ≠ []
  artifacts : ∀ digest ∈ claim.artifactDigests, digest ∈ canonicalArtifacts checkpoint
  distinct : claim.operationIds.Nodup
  operations : ∀ operationId ∈ claim.operationIds,
    CitedOperation checkpoint evidence claim operationId

variable {claimed : List String} {claim : ReportedClauseEvidence}

theorem succeeds_of_validNormalizedEvidence {checkpoint : CanonicalCheckpoint}
    (h : validNormalizedEvidence item claimed (canonicalArtifacts checkpoint) = true) :
    item.Succeeds checkpoint := by
  cases item with
  | command operationId completed exitCode =>
    simp only [validNormalizedEvidence, Bool.and_eq_true, decide_eq_true_eq] at h
    rw [h.1, h.2]
    exact .command
  | fileChange operationId completed artifactDigests =>
    simp only [validNormalizedEvidence, Bool.and_eq_true, any_eq_true, decide_eq_true_eq] at h
    obtain ⟨hcompleted, digest, hdigest, hheld, -⟩ := h
    rw [hcompleted]
    exact .fileChange hdigest hheld

section Inversion

variable {checkpoint : CanonicalCheckpoint} {evidence : EvidenceMap}

theorem validateClaimedOperation_eq_ok {seen next : List OperationId} {operationId : OperationId} :
    validateClaimedOperation checkpoint evidence claim seen operationId = .ok next ↔
      operationId ∉ seen ∧
        CitedOperation checkpoint evidence claim operationId ∧
        next = operationId :: seen := by
  simp only [validateClaimedOperation, ok_iff, not_or, ne_eq, not_not]
  constructor
  · rintro ⟨hfresh, operation, hoperation, item, hitem, ⟨hstatus, hsequences, hvalid⟩, rfl⟩
    exact ⟨hfresh, ⟨⟨operation, hoperation, hstatus, hsequences⟩, ⟨item, hitem, hvalid⟩⟩, rfl⟩
  · rintro ⟨hfresh, ⟨⟨operation, hoperation, hstatus, hsequences⟩, ⟨item, hitem, hvalid⟩⟩, rfl⟩
    exact ⟨hfresh, operation, hoperation, item, hitem, ⟨hstatus, hsequences, hvalid⟩, rfl⟩

theorem validateClaimedOperations_eq_ok {operationIds seen : List OperationId} :
    operationIds.foldlM (validateClaimedOperation checkpoint evidence claim) [] = .ok seen ↔
      operationIds.Nodup ∧
        (∀ operationId ∈ operationIds, CitedOperation checkpoint evidence claim operationId) ∧
        seen = operationIds.reverse := by
  have hloop := @foldlM_distinct_eq_ok _ _ _ id (CitedOperation checkpoint evidence claim) _
    (fun _ _ _ => validateClaimedOperation_eq_ok) operationIds [] seen
  simpa using hloop

theorem validateClaim_eq_ok {next : List String} :
    validateClaim checkpoint evidence claimed claim = .ok next ↔
      claim.clauseId ∉ claimed ∧ AcceptedClaim checkpoint evidence claim ∧
        next = claim.clauseId :: claimed := by
  simp only [validateClaim, ok_iff, not_or, not_not, validateClaimedOperations_eq_ok]
  constructor
  · rintro ⟨hclause, ⟨hfresh, hcites⟩, hartifacts, _, ⟨hdistinct, hoperations, -⟩, rfl⟩
    have hheld : ∀ digest ∈ claim.artifactDigests, digest ∈ canonicalArtifacts checkpoint := by
      intro digest hdigest
      by_contra hmissing
      exact hartifacts ⟨digest, hdigest, hmissing⟩
    exact ⟨hfresh, ⟨hclause, hcites, hheld, hdistinct, hoperations⟩, rfl⟩
  · rintro ⟨hfresh, ⟨hclause, hcites, hartifacts, hdistinct, hoperations⟩, rfl⟩
    refine ⟨hclause, ⟨hfresh, hcites⟩, ?_, _, ⟨hdistinct, hoperations, rfl⟩, rfl⟩
    rintro ⟨digest, hdigest, hmissing⟩
    exact hmissing (hartifacts digest hdigest)

theorem validateClaimList_eq_ok {claims : List ReportedClauseEvidence} :
    claims.foldlM (validateClaim checkpoint evidence) [] = .ok claimed ↔
      (claims.map (·.clauseId)).Nodup ∧
        (∀ claim ∈ claims, AcceptedClaim checkpoint evidence claim) ∧
        claimed = (claims.map (·.clauseId)).reverse := by
  have hloop := @foldlM_distinct_eq_ok _ _ _ (fun claim : ReportedClauseEvidence => claim.clauseId)
    (AcceptedClaim checkpoint evidence) _
    (fun _ _ _ => validateClaim_eq_ok) claims [] claimed
  simpa using hloop

end Inversion

theorem collectEvidence_mem {evidence : EvidenceMap}
    (h : items.foldlM collectEvidence empty = .ok evidence) {operationId : OperationId}
    (hfind : evidence.find? operationId = some item) :
    item ∈ items ∧ item.operationId = operationId := by
  revert operationId item
  refine foldlM_invariant (P := fun evidence : EvidenceMap =>
    ∀ {operationId item}, evidence.find? operationId = some item →
      item ∈ items ∧ item.operationId = operationId) ?_ ?_ h
  · intro before added after hadded hbefore hturn operationId item hfind
    simp only [collectEvidence, ok_iff] at hturn
    obtain ⟨-, rfl⟩ := hturn
    rw [find?_insert] at hfind
    split at hfind
    · rename_i hid
      cases hfind
      exact ⟨hadded, hid.symm⟩
    · exact hbefore hfind
  · intro operationId item hfind
    cases hfind

/-- A decision for completion: every claim is accepted, and every required
clause is claimed. -/
theorem decideCompletion_complete {report : EpochReport} {checkpoint : CanonicalCheckpoint}
    (h : decideCompletion report checkpoint items = .ok .complete) :
    ∃ evidence, items.foldlM collectEvidence empty = .ok evidence ∧
      (report.clauseEvidence.map (·.clauseId)).Nodup ∧
      (∀ claim ∈ report.clauseEvidence, AcceptedClaim checkpoint evidence claim) ∧
      ∀ clause ∈ checkpoint.contract.clauses, clause.required = true →
        ∃ claim ∈ report.clauseEvidence, claim.clauseId = clause.id := by
  simp only [decideCompletion, validateClaims, bind_eq_ok, validateClaimList_eq_ok] at h
  obtain ⟨_, -, claims, ⟨evidence, hcollect, hnodup, hclaims, rfl⟩, hrest⟩ := h
  refine ⟨evidence, hcollect, hnodup, hclaims, ?_⟩
  cases hdisposition : report.disposition with
  | «continue» =>
    rw [hdisposition] at hrest
    simp only [ok_iff] at hrest
    obtain ⟨_, _, hdecision⟩ := hrest
    cases hdecision
  | blocked =>
    rw [hdisposition] at hrest
    cases hrest
  | complete =>
    rw [hdisposition] at hrest
    simp only [ok_iff, not_not, mem_reverse, mem_map] at hrest
    intro clause hclause hrequired
    exact hrest.1 clause hclause hrequired

/-! ## Claims that cite several operations -/

/-- The operations that a claim cites have succeeded, and each sequence and each artifact that it
cites comes from one of them. -/
structure SupportedClaim (checkpoint : CanonicalCheckpoint) (evidence : EvidenceMap)
    (claim : ReportedClauseEvidence) : Prop where
  cites : claim.operationIds ≠ []
  operations : ∀ operationId ∈ claim.operationIds, ∃ operation item,
    (checkpointOperations checkpoint).find? operationId = some operation ∧
      operation.status = .succeeded ∧ evidence.find? operationId = some item ∧
      item.Succeeds checkpoint
  sequences : ∀ sequence ∈ claim.eventSequences, ∃ operationId ∈ claim.operationIds, ∃ operation,
    (checkpointOperations checkpoint).find? operationId = some operation ∧
      sequence ∈ operation.evidenceSequences
  artifacts : ∀ digest ∈ claim.artifactDigests, digest ∈ canonicalArtifacts checkpoint ∧
    ∃ operationId ∈ claim.operationIds, ∃ completed digests,
      evidence.find? operationId = some (.fileChange operationId completed digests) ∧
        digest ∈ digests

/-- A change of files has one of the artifacts that the claim cites, if it cites any. -/
def OperationEvidence.Cited (claim : ReportedClauseEvidence) : OperationEvidence → Prop
  | command _ _ _ => True
  | fileChange _ _ digests =>
    claim.artifactDigests = [] ∨ ∃ digest ∈ digests, digest ∈ claim.artifactDigests

/-- The claim is the first about a clause of the contract, and each of its operations alone shows
all that it cites. -/
structure Citable (checkpoint : CanonicalCheckpoint) (evidence : EvidenceMap)
    (claimed : List String) (claim : ReportedClauseEvidence) : Prop where
  clause : ∃ clause ∈ checkpoint.contract.clauses, clause.id = claim.clauseId
  first : claim.clauseId ∉ claimed
  distinct : claim.operationIds.Nodup
  shown : ∀ operationId ∈ claim.operationIds, ∀ operation item,
    (checkpointOperations checkpoint).find? operationId = some operation →
      evidence.find? operationId = some item →
        (∀ sequence ∈ claim.eventSequences, sequence ∈ operation.evidenceSequences) ∧
          item.Cited claim

section Several

variable {checkpoint : CanonicalCheckpoint} {evidence : EvidenceMap}

theorem validNormalizedEvidence_iff {item : OperationEvidence} (h : item.Succeeds checkpoint)
    (hheld : ∀ digest ∈ claim.artifactDigests, digest ∈ canonicalArtifacts checkpoint) :
    validNormalizedEvidence item claim.artifactDigests (canonicalArtifacts checkpoint) = true ↔
      item.Cited claim := by
  cases h with
  | command => simp [validNormalizedEvidence, OperationEvidence.Cited]
  | @fileChange _ digests digest hdigest hcanonical =>
    simp only [validNormalizedEvidence, OperationEvidence.Cited, Bool.true_and, List.any_eq_true,
      Bool.and_eq_true, Bool.or_eq_true, decide_eq_true_eq, List.isEmpty_iff]
    constructor
    · rintro ⟨shown, hshown, -, hnone | hcited⟩
      · exact .inl hnone
      · exact .inr ⟨shown, hshown, hcited⟩
    · rintro (hnone | ⟨shown, hshown, hcited⟩)
      · exact ⟨digest, hdigest, hcanonical, .inl hnone⟩
      · exact ⟨shown, hshown, hheld shown hcited, .inr hcited⟩

theorem SupportedClaim.validateClaim_eq_ok_iff (h : SupportedClaim checkpoint evidence claim) :
    (∃ next, validateClaim checkpoint evidence claimed claim = .ok next) ↔
      Citable checkpoint evidence claimed claim := by
  have hheld := fun digest hdigest => (h.artifacts digest hdigest).1
  simp only [validateClaim_eq_ok, exists_and_left, exists_eq, and_true]
  constructor
  · rintro ⟨hfirst, haccepted⟩
    refine ⟨haccepted.clause, hfirst, haccepted.distinct, ?_⟩
    intro operationId hcited operation item hoperation hitem
    obtain ⟨⟨_, hfound, -, hsequences⟩, ⟨_, hresult, hvalid⟩⟩ :=
      haccepted.operations operationId hcited
    obtain ⟨_, _, -, -, hsame, hsucceeds⟩ := h.operations operationId hcited
    cases hoperation.symm.trans hfound
    cases hitem.symm.trans hresult
    cases hitem.symm.trans hsame
    exact ⟨hsequences, (validNormalizedEvidence_iff hsucceeds hheld).mp hvalid⟩
  · rintro ⟨hclause, hfirst, hdistinct, hshown⟩
    refine ⟨hfirst, hclause, h.cites, hheld, hdistinct, ?_⟩
    intro operationId hcited
    obtain ⟨operation, item, hoperation, hstatus, hitem, hsucceeds⟩ :=
      h.operations operationId hcited
    obtain ⟨hsequences, hartifacts⟩ := hshown operationId hcited operation item hoperation hitem
    exact ⟨⟨operation, hoperation, hstatus, hsequences⟩,
      ⟨item, hitem, (validNormalizedEvidence_iff hsucceeds hheld).mpr hartifacts⟩⟩

theorem decideCompletion_of_validateClaim_error {report : EpochReport}
    {items : List OperationEvidence} {before after : List ReportedClauseEvidence}
    {error : ReportErrorCode} (hvalid : validateReport report = .ok ())
    (hcollect : items.foldlM collectEvidence empty = .ok evidence)
    (hreport : report.clauseEvidence = before ++ claim :: after)
    (hbefore : before.foldlM (validateClaim checkpoint evidence) [] = .ok claimed)
    (h : validateClaim checkpoint evidence claimed claim = .error error) :
    decideCompletion report checkpoint items = .error error := by
  have hclaims : validateClaims report checkpoint items = .error error := by
    simp only [validateClaims, hcollect, hreport, foldlM_append, hbefore, foldlM_cons, h,
      bind, Except.bind]
  simp only [decideCompletion, hvalid, hclaims, bind, Except.bind]

end Several

/-- A claim whose operations support it together leads to a rejection unless each of them shows
all of it. -/
theorem claim_rejected_iff (report : EpochReport) (checkpoint : CanonicalCheckpoint)
    (items : List OperationEvidence) (evidence : EvidenceMap) (claimed : List String)
    (before after : List ReportedClauseEvidence) (claim : ReportedClauseEvidence)
    (hvalid : validateReport report = .ok ())
    (hcollect : items.foldlM collectEvidence empty = .ok evidence)
    (hreport : report.clauseEvidence = before ++ claim :: after)
    (hbefore : before.foldlM (validateClaim checkpoint evidence) [] = .ok claimed)
    (hsupported : SupportedClaim checkpoint evidence claim) :
    (∃ error, validateClaim checkpoint evidence claimed claim = .error error ∧
        decideCompletion report checkpoint items = .error error) ↔
      ¬ Citable checkpoint evidence claimed claim := by
  rw [← hsupported.validateClaim_eq_ok_iff]
  constructor
  · rintro ⟨error, herror, -⟩ ⟨next, hnext⟩
    cases herror.symm.trans hnext
  · intro hnone
    cases hresult : validateClaim checkpoint evidence claimed claim with
    | ok next => exact absurd ⟨next, hresult⟩ hnone
    | error error =>
      exact ⟨error, rfl,
        decideCompletion_of_validateClaim_error hvalid hcollect hreport hbefore hresult⟩

namespace TwoCommands

def operation (n sequence : Nat) : OperationCheckpoint :=
  ⟨⟨n⟩, .succeeded, .observation, "", [sequence]⟩

/-- Two commands, each with an event of its own. -/
def checkpoint : CanonicalCheckpoint :=
  { CanonicalCheckpoint.blank ⟨1⟩ ⟨1, "goal", [], [⟨"tests", "Tests pass", true, .pending, []⟩]⟩
      "" with
    operations := [operation 1 4, operation 2 6] }

def result (n : Nat) : OperationEvidence := .command ⟨n⟩ true (some 0)

def evidence : EvidenceMap := (empty.insert ⟨1⟩ (result 1)).insert ⟨2⟩ (result 2)

def cite (sequences : List Nat) : ReportedClauseEvidence := ⟨"tests", [⟨1⟩, ⟨2⟩], sequences, []⟩

def report (sequences : List Nat) : EpochReport := ⟨1, .complete, "done", none, [cite sequences], []⟩

theorem supported {sequences : List Nat} (h : sequences ⊆ [4, 6]) :
    SupportedClaim checkpoint evidence (cite sequences) := by
  refine ⟨List.cons_ne_nil _ _, ?_, ?_, by simp [cite]⟩
  · simp only [cite, List.forall_mem_cons]
    exact ⟨⟨operation 1 4, result 1, rfl, rfl, rfl, .command⟩,
      ⟨operation 2 6, result 2, rfl, rfl, rfl, .command⟩, by simp⟩
  · intro sequence hsequence
    rcases List.mem_pair.mp (h hsequence) with rfl | rfl
    · exact ⟨⟨1⟩, by simp [cite], operation 1 4, rfl, by simp [operation]⟩
    · exact ⟨⟨2⟩, by simp [cite], operation 2 6, rfl, by simp [operation]⟩

end TwoCommands

section Samples

open List TwoCommands

theorem claim_rejected_iff_twoCommands :
    (∃ error, validateClaim checkpoint evidence [] (cite [4, 6]) = .error error ∧
        decideCompletion (report [4, 6]) checkpoint [result 1, result 2] = .error error) ↔
      ¬ Citable checkpoint evidence [] (cite [4, 6]) :=
  claim_rejected_iff _ _ _ _ _ [] [] _ (by decide +kernel) rfl rfl rfl
    (supported (List.Subset.refl _))

theorem two_commands_rejected :
    SupportedClaim checkpoint evidence (cite [4, 6]) ∧ validateReport (report [4, 6]) = .ok () ∧
      decideCompletion (report [4, 6]) checkpoint [result 1, result 2] =
        .error .insufficientEvidence :=
  ⟨supported (List.Subset.refl _), by decide +kernel, by decide +kernel⟩

end Samples

end CarlAgent.Task
