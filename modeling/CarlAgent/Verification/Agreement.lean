import CarlAgent.Subscription.Proposals

/-!
# The evidence of a candidate

Before it runs anything the verifier loads the baseline's contents and the
proposal's payload from the artifacts, checks them against the records and
puts the candidate's files together.
-/

namespace CarlAgent.Verification

open Foundation CarlAgent.Task Staging List
open Subscription hiding canonicalProposalEnvelope canonicalManifestBytes

inductive VerificationErrorCode where
  | invalidLimits
  | invalidArguments
  | unsafeExecutable
  | invalidEvidence
  | artifactCorrupt
  | candidateInvalid
  | processFailed
  | failedIo
  deriving DecidableEq, Repr

def maxDirectoryCount : Nat := 100000
def maxAggregatePathBytes : Nat := 8 * 1024 * 1024

def relativePathInvalid (path : String) : Bool :=
  relativePathRejected path || startsWithSeparator path || endsWithSeparator path

def validateRelativePath (path : String) : Except VerificationErrorCode Unit :=
  rejectIf (relativePathInvalid path) .invalidEvidence

def directoryManifestDomain : String := "carl.baseline-directories.v1\x00"

def canonicalDirectoryManifest (directories : List String) :
    Except VerificationErrorCode (List UInt8) := do
  rejectIf (directories.length > maxDirectoryCount) .invalidEvidence
  DirectoryRules.manifest
    { domain := directoryManifestDomain
      maxPathBytes := maxAggregatePathBytes
      rejects := relativePathInvalid
      count := .invalidEvidence
      invalid := fun _ => .invalidEvidence
      orphan := fun _ => .invalidEvidence
      aggregate := fun _ => .invalidEvidence
      tooLong := fun _ => .invalidEvidence } directories

section Evidence

variable (sha256 : Sha256)

def validatePersistedEvidence (runId : RunId) (baseline : SubscriptionRunBaselineRecord)
    (proposal : SubscriptionRunProposalRecord) : Except VerificationErrorCode Unit := do
  let canonicalDirectories ← canonicalDirectoryManifest baseline.directories
  let matchingEntry := baseline.entries.find? fun entry =>
    decide (entry.path = proposal.path)
  rejectIf (baseline.runId ≠ runId ∨ proposal.runId ≠ runId ∨
    baseline.manifestArtifactId ≠ baseline.manifestDigest ∨
    baseline.sourcePreconditionsArtifactId ≠ baseline.sourcePreconditionsDigest ∨
    baseline.directoryCount ≠ baseline.directories.length ∨
    sha256 canonicalDirectories ≠ baseline.directoryManifestDigest ∨
    proposal.baselineManifestArtifactId ≠ baseline.manifestArtifactId ∨
    proposal.payloadArtifactId ≠ proposal.payloadHash ∨
    proposal.afterHash ≠ proposal.payloadHash ∨
    proposal.expectedLiveHash ≠ proposal.beforeHash ∨
    matchingEntry.all (fun entry =>
      decide (entry.contentDigest ≠ proposal.beforeHash)))
    .invalidEvidence

structure VerifiedCandidateEvidence where
  directories : List String
  files : List CandidateFile
  manifestEntries : List StageManifestEntry
  deriving DecidableEq

structure LoadedEntries where
  index : Nat
  previousPath : Option String
  totalBytes : Nat
  manifestEntries : List StageManifestEntry
  files : List CandidateFile

def loadEntry (artifacts : ArtifactStore) (acc : LoadedEntries)
    (entry : SubscriptionRunBaselineEntryRecord) : Except VerificationErrorCode LoadedEntries := do
  validateRelativePath entry.path
  rejectIf (entry.ordinal ≠ acc.index ∨
    acc.previousPath.any (entry.path ≤ ·) ∨
    entry.contentArtifactId ≠ entry.contentDigest ∨
    identityModeValid entry.identityPlatform entry.ownerMode = false ∨
    entry.identityA = "" ∨ entry.identityB = "" ∨ entry.ownerId = "") .invalidEvidence
  let stored ← (artifacts.readVerified sha256
    entry.contentArtifactId).mapError fun _ => .artifactCorrupt
  rejectIf (stored.bytes.length ≠ entry.byteLength ∨
    sha256 stored.bytes ≠ entry.contentDigest) .artifactCorrupt
  let totalBytes := acc.totalBytes + entry.byteLength
  rejectIf (totalBytes ≥ 2 ^ 64) .invalidEvidence
  .ok { index := acc.index + 1
        previousPath := some entry.path
        totalBytes
        manifestEntries := acc.manifestEntries ++
          [{ path := entry.path, bytes := entry.byteLength, contentDigest := entry.contentDigest }]
        files := acc.files ++ [{ path := entry.path, bytes := stored.bytes }] }

def loadVerifiedCandidateEvidence (artifacts : ArtifactStore)
    (baseline : SubscriptionRunBaselineRecord) (proposal : SubscriptionRunProposalRecord) :
    Except VerificationErrorCode VerifiedCandidateEvidence := do
  validatePersistedEvidence sha256 baseline.runId baseline proposal
  rejectIf (baseline.entries.length ≠ baseline.entryCount) .invalidEvidence
  let loaded ← baseline.entries.foldlM (loadEntry sha256 artifacts)
    { index := 0, previousPath := none, totalBytes := 0, manifestEntries := [], files := [] }
  rejectIf (loaded.totalBytes ≠ baseline.totalBytes) .invalidEvidence
  let canonicalManifest ←
    (canonicalManifestBytes loaded.manifestEntries).mapError fun _ =>
      .invalidEvidence
  let storedManifest ← (artifacts.readVerified sha256
    baseline.manifestArtifactId).mapError fun _ => .artifactCorrupt
  rejectIf (sha256 canonicalManifest ≠ baseline.manifestDigest ∨
    storedManifest.bytes ≠ canonicalManifest) .artifactCorrupt
  let canonicalPreconditions ← (canonicalSourcePreconditions baseline.manifestDigest
      (baseline.entries.map (·.precondition))).mapError fun _ =>
        .invalidEvidence
  let storedPreconditions ← (artifacts.readVerified sha256
    baseline.sourcePreconditionsArtifactId).mapError fun _ => .artifactCorrupt
  rejectIf (sha256 canonicalPreconditions ≠ baseline.sourcePreconditionsDigest ∨
    storedPreconditions.bytes ≠ canonicalPreconditions) .artifactCorrupt
  let payload ← (artifacts.readVerified sha256
    proposal.payloadArtifactId).mapError fun _ => .artifactCorrupt
  rejectIf (payload.bytes.length ≠ proposal.payloadBytes ∨
    sha256 payload.bytes ≠ proposal.payloadHash) .artifactCorrupt
  let canonicalProposal ← (canonicalProposalEnvelope baseline.manifestDigest proposal.path
      proposal.expectedLiveHash proposal.beforeHash proposal.afterHash
      proposal.payloadHash payload.bytes).mapError fun _ => .invalidEvidence
  let storedProposal ← (artifacts.readVerified sha256
    proposal.proposalArtifactId).mapError fun _ => .artifactCorrupt
  rejectIf (storedProposal.bytes ≠ canonicalProposal) .artifactCorrupt
  let index ← requireSome
    (binarySearch StageManifestEntry.path proposal.path loaded.manifestEntries) .invalidEvidence
  let manifestEntries := loaded.manifestEntries.set index
    { path := proposal.path, bytes := proposal.payloadBytes, contentDigest := proposal.payloadHash }
  let files := loaded.files.set index { path := proposal.path, bytes := payload.bytes }
  let candidateManifest ←
    (canonicalManifestBytes manifestEntries).mapError fun _ =>
      .invalidEvidence
  rejectIf (sha256 candidateManifest ≠ proposal.candidateManifestDigest) .invalidEvidence
  .ok { directories := baseline.directories, files, manifestEntries }

end Evidence

/-!
## Agreement on a candidate

Stage, store and verifier spell the manifests of a candidate each on their
own.  For a proposal that was inspected they agree, and the candidate that the
verifier reconstructs is sealed with the digests it expects.
-/

open Access (Timestamp TimestampText)
open Subscription (CountsFrom baselineRows preparedRecord proposalRecord)

section Load

variable {sha256 : Sha256} {artifacts : ArtifactStore}

theorem validateRelativePath_of_sound {path : String} (h : SoundPath path) :
    relativePathInvalid path = false := by
  simp [relativePathInvalid, h.notRejected, h.startsPlain, h.endsPlain]

theorem loadEntry_foldlM {rows : List SubscriptionRunBaselineEntryRecord}
    {files : List CandidateFile}
    (hsame : rows.map SubscriptionRunBaselineEntryRecord.manifestEntry =
      files.map (CandidateFile.manifestEntry sha256))
    (hsound : ∀ row ∈ rows, row.Sound)
    (hread : ∀ file ∈ files, artifacts.readVerified sha256 (sha256 file.bytes) =
        .ok { id := sha256 file.bytes, bytes := file.bytes })
    (hcounts : CountsFrom 0 rows)
    (hsorted : (rows.map (·.path)).Pairwise (· < ·))
    (htotal : (rows.map (·.byteLength)).sum < 2 ^ 64) :
    rows.foldlM (loadEntry sha256 artifacts)
        { index := 0, previousPath := none, totalBytes := 0, manifestEntries := [], files := [] } =
      .ok { index := rows.length
            previousPath := rows.getLast?.map (·.path)
            totalBytes := (rows.map (·.byteLength)).sum
            manifestEntries := rows.map SubscriptionRunBaselineEntryRecord.manifestEntry
            files := files } := by
  have hlength : rows.length = files.length := by
    simpa using congrArg length hsame
  have hfold := @foldlM_of_states _ _ _ (loadEntry sha256 artifacts)
    (fun before =>
      { index := before.length
        previousPath := before.getLast?.map (·.path)
        totalBytes := (before.map (·.byteLength)).sum
        manifestEntries := before.map SubscriptionRunBaselineEntryRecord.manifestEntry
        files := files.take before.length }) rows (by
      intro before row after hsplit
      have hat : rows[before.length]? = some row := by simp [hsplit]
      have hrow := hsound row (by simp [hsplit])
      -- The file in the place of the row.
      have hfile := congrArg (fun l => l[before.length]?) hsame
      simp only [getElem?_map, hat, Option.map_some] at hfile
      obtain ⟨file, hplace, hentry⟩ := Option.map_eq_some_iff.mp hfile.symm
      simp only [SubscriptionRunBaselineEntryRecord.manifestEntry,
        CandidateFile.manifestEntry, StageManifestEntry.mk.injEq] at hentry
      obtain ⟨hpath, hbytes, hdigest⟩ := hentry
      have hcontent := hread file (mem_of_getElem? hplace)
      rw [hdigest, ← hrow.artifact] at hcontent
      rw [hsplit] at hsorted
      rw [hsplit, map_append, map_cons, sum_append, sum_cons] at htotal
      have horder := last_not_le hsorted
        fun k (h : decide (row.path ≤ k) = true) => of_decide_eq_true h
      have hordinal := hcounts before.length row hat
      simp only [loadEntry, validateRelativePath, ok_iff, validateRelativePath_of_sound hrow.path,
        horder, hrow.mode]
      refine ⟨by simp, ?_, _, hcontent, ?_, by omega, ?_⟩
      · simp [hordinal, hrow.artifact, hrow.identityA, hrow.identityB, hrow.ownerId]
      · simp [hbytes, hdigest]
      · simp [← hpath, take_add_one, hplace, SubscriptionRunBaselineEntryRecord.manifestEntry])
  simpa [hlength] using hfold

end Load

section Inspected

variable {sha256 : Sha256} {system : FileSystem}
  {limits : StageLimits} {prepared : PreparedStage}
  {artifacts : ArtifactStore} {proposal : ExactReplacementProposal}
  {before : SealedBaselineEntry}

theorem Inspected.mono {after : ArtifactStore}
    (h : Inspected sha256 prepared.baseline proposal before after)
    (hkeeps : ArtifactStore.Keeps sha256 after artifacts) :
    Inspected sha256 prepared.baseline proposal before artifacts := by
  obtain ⟨envelope, henvelope, hid, hread⟩ := h.envelope
  exact
    { h with
      payload := hkeeps _ _ h.payload, envelope := ⟨envelope, henvelope, hid, hkeeps _ _ hread⟩ }

theorem binarySearch_inspected (h : Prepared sha256 system limits prepared)
    (hinspected : Inspected sha256 prepared.baseline proposal before artifacts) :
    ∃ index, binarySearch StageManifestEntry.path proposal.path
        prepared.baseline.manifest.entries = some index ∧
      prepared.baseline.manifest.entries.set index
          { path := proposal.path, bytes := proposal.payload.length,
            contentDigest := sha256 proposal.payload } =
        (Prepared.candidateFiles prepared proposal).map (CandidateFile.manifestEntry sha256) ∧
      (candidateFilesOf prepared.tree.items).set index
          { path := proposal.path, bytes := proposal.payload } =
        Prepared.candidateFiles prepared proposal := by
  have hsorted := h.manifest_paths_strict
  have hpath : proposal.path ∈ prepared.baseline.manifest.entries.map
      StageManifestEntry.path := by
    rw [← h.entries_paths, ← hinspected.path]
    exact mem_map_of_mem hinspected.entry
  obtain ⟨index, hindex⟩ := Option.isSome_iff_exists.mp ((isSome_binarySearch hsorted).mpr hpath)
  obtain ⟨entry, hentry, hkey⟩ := (binarySearch_eq_some hsorted).mp hindex
  have hfile := hentry
  rw [h.manifest_eq, getElem?_map, Option.map_eq_some_iff] at hfile
  obtain ⟨file, hfile, rfl⟩ := hfile
  have hfiles : ((candidateFilesOf prepared.tree.items).map CandidateFile.path).Nodup :=
    (candidateFilesOf_strict h.paths_nodup).imp ne_of_lt
  refine ⟨index, hindex, ?_, ?_⟩
  · rw [set_eq_replaceKey (hsorted.imp ne_of_lt) hentry, hkey, h.candidateFiles_manifest]
  · rw [set_eq_replaceKey hfiles hfile, Prepared.candidateFiles]
    have hsame : file.path = proposal.path := hkey
    rw [hsame]

section Candidate

variable (hcandidate : SoundCandidate prepared.baseline.directories
  (Prepared.candidateFiles prepared proposal))
include hcandidate

theorem canonicalDirectoryManifest_of_sound :
    canonicalDirectoryManifest prepared.baseline.directories =
      .ok (directoryManifestBytes directoryManifestDomain prepared.baseline.directories) := by
  have hcount := hcandidate.directoryCount
  simp only [maxCleanupEntries] at hcount
  have hmanifest := @SoundCandidate.directoryManifest _ _ hcandidate _
    { domain := directoryManifestDomain
      maxPathBytes := maxAggregatePathBytes
      rejects := relativePathInvalid
      count := VerificationErrorCode.invalidEvidence
      invalid := fun _ => .invalidEvidence
      orphan := fun _ => .invalidEvidence
      aggregate := fun _ => .invalidEvidence
      tooLong := fun _ => .invalidEvidence }
    (fun path hpath => validateRelativePath_of_sound hpath) le_rfl
  simp only [canonicalDirectoryManifest, ok_iff, not_lt]
  exact ⟨hcount, hmanifest⟩

theorem validatePersistedEvidence_of_inspected (h : Prepared sha256 system limits prepared)
    (hinspected : Inspected sha256 prepared.baseline proposal before artifacts)
    (runId : RunId) (baselineAt createdAt : Timestamp) :
    validatePersistedEvidence sha256 runId (preparedRecord sha256 prepared runId baselineAt)
      (proposalRecord prepared proposal runId createdAt) = .ok () := by
  obtain ⟨row, hrow, -, -, hdigest⟩ := row_of_inspected h hinspected
  obtain ⟨-, hmanifest, hmanifestId, -⟩ := manifest_bytes h
  obtain ⟨preconditions, -, hpreconditionsId, hpreconditions, -⟩ := h.preconditions
  have hmatching : (Option.all (fun entry =>
      decide (entry.contentDigest ≠ proposal.beforeHash))
      ((baselineRows prepared.baseline.entries).find? fun entry =>
        decide (entry.path = proposal.path))) = false := by
    rw [hrow]
    simp [hdigest, hinspected.beforeHash]
  simp only [validatePersistedEvidence, ok_iff]
  refine ⟨_, canonicalDirectoryManifest_of_sound hcandidate, ?_⟩
  rintro (hfail | hfail | hfail | hfail | hfail | hfail | hfail | hfail | hfail | hfail | hfail)
  · exact hfail rfl
  · exact hfail rfl
  · exact hfail (hmanifestId.trans hmanifest.symm)
  · exact hfail (hpreconditionsId.trans hpreconditions.symm)
  · exact hfail rfl
  · exact hfail rfl
  · exact hfail rfl
  · exact hfail rfl
  · exact hfail (hinspected.afterHash.trans hinspected.payloadHash.symm)
  · exact hfail (hinspected.live.trans hinspected.beforeHash.symm)
  · exact Bool.noConfusion (hmatching.symm.trans hfail)

theorem loadVerifiedCandidateEvidence_of_inspected (h : Prepared sha256 system limits prepared)
    (hkeeps : ArtifactStore.Keeps sha256 prepared.artifacts artifacts)
    (hinspected : Inspected sha256 prepared.baseline proposal before artifacts)
    (runId : RunId) (baselineAt createdAt : Timestamp) :
    loadVerifiedCandidateEvidence sha256 artifacts (preparedRecord sha256 prepared runId baselineAt)
        (proposalRecord prepared proposal runId createdAt) =
      .ok { directories := prepared.baseline.directories
            files := Prepared.candidateFiles prepared proposal
            manifestEntries := (Prepared.candidateFiles prepared proposal).map
              (CandidateFile.manifestEntry sha256) } := by
  have hevidence := validatePersistedEvidence_of_inspected hcandidate h
    hinspected runId baselineAt createdAt
  obtain ⟨hcanonical, hmanifest, hmanifestId, hreadManifest⟩ := manifest_bytes h
  obtain ⟨preconditions, hpreconditions, hpreconditionsId,
    hpreconditionsDigest, hreadPreconditions⟩ := h.preconditions
  rw [SealedBaseline.preconditions, ← baselineRows_precondition] at hpreconditions
  rw [← hmanifestId] at hreadManifest
  rw [← hpreconditionsId] at hreadPreconditions
  have hrows : (baselineRows prepared.baseline.entries).map (·.path) =
      prepared.baseline.manifest.entries.map StageManifestEntry.path := by
    rw [← rows_manifestEntry h, map_map]
    rfl
  have hsum : ((baselineRows prepared.baseline.entries).map
      (·.byteLength)).sum = prepared.baseline.manifest.totalBytes :=
    sum_rows h
  have hsame : (baselineRows prepared.baseline.entries).map
      SubscriptionRunBaselineEntryRecord.manifestEntry = (candidateFilesOf prepared.tree.items).map
        (CandidateFile.manifestEntry sha256) :=
    (rows_manifestEntry h).trans h.manifest_eq
  have hload := @loadEntry_foldlM sha256 artifacts (baselineRows prepared.baseline.entries)
    (candidateFilesOf prepared.tree.items) hsame
    (fun row hmem => row_sound h hmem)
    (by
      intro file hfile
      obtain ⟨metadata, hitem⟩ := mem_candidateFilesOf.mp hfile
      exact hkeeps _ _ (h.staged _ hitem).2.2)
    baselineRows_countsFrom
    (by rw [hrows]; exact h.manifest_paths_strict)
    (by rw [hsum]; exact totalBytes_lt h)
  simp only [hsum, rows_manifestEntry h] at hload
  have hpayload := hinspected.payload
  rw [← hinspected.payloadHash] at hpayload
  obtain ⟨envelope, -, henvelope, henvelopeId, hreadEnvelope⟩ :=
    validateExactReplacementProposal_of_inspected hinspected
  rw [← henvelopeId] at hreadEnvelope
  obtain ⟨index, hindex, hentries, hfiles⟩ := binarySearch_inspected h hinspected
  rw [← hinspected.payloadHash] at hentries
  have hcandidateBytes := (congrArg canonicalManifestBytes hentries).trans
    hcandidate.canonicalManifestBytes
  simp only [loadVerifiedCandidateEvidence, ok_iff]
  refine ⟨_, hevidence, ?_, _, hload, ?_, _, hcanonical, _, hkeeps _ _ hreadManifest, ?_, _,
    hpreconditions, _, hkeeps _ _ hreadPreconditions, ?_, _, hpayload, ?_, _, henvelope, _,
    hreadEnvelope, ?_, index, hindex, _, hcandidateBytes, ?_, ?_⟩
  · simp [preparedRecord, baselineRows]
  · simp [preparedRecord]
  · simp [preparedRecord, hmanifest]
  · simp [preparedRecord, hpreconditionsDigest]
  · simp [proposalRecord, hinspected.payloadHash]
  · simp
  · simp [proposalRecord, h.candidateManifestDigest_eq hinspected]
  · simp only [proposalRecord, hentries, hfiles]
    rfl

end Candidate

end Inspected

/-- For every proposal that an inspection of a prepared stage accepted, the
store records and loads the baseline and the proposal, the three digests of
the candidate are equal, the three manifests of the directories are the same,
and the verifier reconstructs a candidate that it seals as expected. -/
theorem inspected_candidate_agrees {sha256 : Sha256} {system : FileSystem} {limits : StageLimits}
    {source : StageTree} {artifacts : ArtifactStore} {prepared : PreparedStage}
    (hprepare : prepare sha256 system limits source artifacts = .ok prepared) {tree : StageTree}
    {later after : ArtifactStore} {proposalLimits : ProposalLimits}
    {proposal : ExactReplacementProposal}
    (hlater : ArtifactStore.Keeps sha256 prepared.artifacts later)
    (hcollision : NoCollision sha256 prepared.tree tree)
    (hinspect : inspectProposal sha256 system.euid proposalLimits
      prepared.stage tree later = .ok (.exactReplacement proposal, after))
    {recording store : ArtifactStore}
    (hrecording : ArtifactStore.Keeps sha256 prepared.artifacts recording)
    (hstore : ArtifactStore.Keeps sha256 after store) {texts : TimestampText}
    {baselineAt createdAt : Timestamp} (hbaselineAt : texts.readable baselineAt = true)
    (hcreatedAt : texts.readable createdAt = true) {candidateLimits : ProposalLimits}
    (hlimits : ProposalLimits.new (1024 * 1024) = .ok candidateLimits) (runId : RunId)
    (workspace : FileSystem) :
    ∃ baseline row directories evidence candidate sealed,
      (∀ lengths : ArtifactLengths, lengths.Stored sha256 recording →
        ∃ registered, recordSubscriptionRunBaseline sha256 recording lengths runId
            prepared.stage.baseline baselineAt = .ok (baseline, registered) ∧
          registered.Stored sha256 recording ∧ ∀ kept, registered.Retained kept →
            loadSubscriptionRunBaseline sha256 texts kept baseline = .ok baseline ∧
            (kept.Stored sha256 store → ∃ proposed,
              recordSubscriptionRunExactProposal sha256 store kept runId
                baseline proposal createdAt = .ok (row, proposed) ∧
              ∀ later, proposed.Retained later →
                loadSubscriptionRunProposal sha256 texts later baseline row =
                  .ok row)) ∧
      verifyLoadedBaselineArtifacts sha256 store baseline = .ok () ∧
      verifyLoadedProposalArtifacts sha256 store baseline row = .ok () ∧
      candidateManifestDigest sha256 baseline row.path
        proposal.payload row.payloadHash = .ok proposal.candidateManifestDigest ∧
      loadVerifiedCandidateEvidence sha256 store baseline row = .ok evidence ∧
      (canonicalManifestBytes evidence.manifestEntries).map sha256 =
        .ok proposal.candidateManifestDigest ∧
      Staging.canonicalDirectoryManifest prepared.stage.baseline.directories = .ok directories ∧
      canonicalBaselineDirectories
        prepared.stage.baseline.directories = .ok directories ∧
      canonicalDirectoryManifest prepared.stage.baseline.directories = .ok directories ∧
      baseline.directoryManifestDigest = sha256 directories ∧
      validateCandidateTopology evidence.directories evidence.files = .ok () ∧
      reconstruct workspace evidence.directories evidence.files = .ok candidate ∧
      inspectVerificationCandidate sha256 workspace.euid candidateLimits
        candidate evidence.manifestEntries evidence.directories = .ok sealed ∧
      sealed.manifestDigest = proposal.candidateManifestDigest ∧
      sealed.directoryManifestDigest = baseline.directoryManifestDigest ∧
      sealed.matchesExpectedManifest row.candidateManifestDigest
        baseline.directoryManifestDigest = true := by
  have h := prepared_of_prepare hprepare
  have hcandidate := h.soundCandidate hlater hcollision hinspect
  obtain ⟨hafter, before, hinspected⟩ := h.inspected hlater hinspect
  have hkeeps := (hlater.trans hafter).trans hstore
  have hinspected := Inspected.mono hinspected hstore
  have hmax : candidateLimits.maxFileBytes = 1024 * 1024 := by
    rw [ProposalLimits.new] at hlimits
    split at hlimits
    · rw [← Except.ok.inj hlimits]
    · cases hlimits
  have hdigest := h.candidateManifestDigest_eq hinspected
  obtain ⟨candidate, hreconstruct, hroot, hitems⟩ :=
    @SoundCandidate.reconstruct workspace _ _ hcandidate
  have hsealed := @SoundCandidate.inspectVerificationCandidate sha256
    workspace _ _ hcandidate _ hmax _ hroot hitems
  refine ⟨preparedRecord sha256 prepared runId baselineAt,
    proposalRecord prepared proposal runId createdAt, _, _, candidate, _, ?_,
    verifyLoadedBaselineArtifacts_preparedRecord hcandidate h hkeeps runId baselineAt,
    verifyLoadedProposalArtifacts_proposalRecord h hinspected
      runId baselineAt createdAt,
    candidateManifestDigest_preparedRecord h hinspected runId baselineAt,
    loadVerifiedCandidateEvidence_of_inspected hcandidate h hkeeps hinspected
      runId baselineAt createdAt, ?_, hcandidate.canonicalDirectoryManifest,
    canonicalBaselineDirectories_of_sound hcandidate,
    canonicalDirectoryManifest_of_sound hcandidate, rfl,
    hcandidate.validateCandidateTopology, hreconstruct, hsealed, hdigest.symm, rfl, ?_⟩
  · intro lengths hlengths
    obtain ⟨registered, preconditions, hrecord, hstored, hpreconditions, hregisters⟩ :=
      recordSubscriptionRunBaseline_of_prepared hcandidate h hrecording hlengths
        runId baselineAt
    refine ⟨registered, hrecord, hstored, fun kept hkept => ⟨?_, fun hknown => ?_⟩⟩
    · exact loadSubscriptionRunBaseline_preparedRecord hcandidate h
        hpreconditions (hregisters.mono hkept) hbaselineAt runId
    · obtain ⟨proposed, hpropose, hretained, hproposed⟩ :=
        recordSubscriptionRunExactProposal_of_inspected h hinspected hknown
          runId baselineAt createdAt
      refine ⟨proposed, hpropose, fun later hlater => ?_⟩
      exact loadSubscriptionRunProposal_proposalRecord hcandidate h hinspected
        hpreconditions (((hregisters.mono hkept).mono hretained).mono hlater)
        (hproposed.mono hlater) hbaselineAt hcreatedAt runId
  · rw [hcandidate.canonicalManifestBytes, hdigest]
    rfl
  · have hrow : (proposalRecord prepared proposal runId
        createdAt).candidateManifestDigest = proposal.candidateManifestDigest :=
      rfl
    have hdirectories : (preparedRecord sha256 prepared runId
        baselineAt).directoryManifestDigest = sha256 (directoryManifestBytes
          Staging.directoryManifestDomain prepared.baseline.directories) := rfl
    simp only [CandidateSnapshotSeal.matchesExpectedManifest, hrow, hdigest,
      hdirectories, beq_self_eq_true, Bool.and_self]

theorem inspected_candidate_agrees_edited : ∃ prepared proposal after baseline row evidence
      registered proposed, samplePrepared = .ok prepared ∧
      sampleInspect prepared editedTree = .ok (.exactReplacement proposal, after) ∧
      recordSubscriptionRunBaseline sampleSha256 prepared.artifacts (fun _ => none)
        ⟨7⟩ prepared.stage.baseline 0 = .ok (baseline, registered) ∧
      recordSubscriptionRunExactProposal sampleSha256 after registered ⟨7⟩
        baseline proposal 1 = .ok (row, proposed) ∧
      loadSubscriptionRunProposal sampleSha256 TimestampText.plain proposed
        baseline row = .ok row ∧
      loadVerifiedCandidateEvidence sampleSha256 after baseline row = .ok evidence ∧
      validateCandidateTopology evidence.directories evidence.files = .ok () := by
  obtain ⟨prepared, hprepare, hrun⟩ := exists_samplePrepared
    (fun prepared => distinguishes prepared.tree editedTree &&
      (sampleInspect prepared editedTree).toOption.any (·.1 != .noChanges)) (by decide +kernel)
  simp only [Bool.and_eq_true] at hrun
  obtain ⟨hdistinct, hinspect⟩ := hrun
  cases hok : sampleInspect prepared editedTree with
  | error error => simp [hok, Except.toOption] at hinspect
  | ok outcome =>
    obtain ⟨outcome, after⟩ := outcome
    cases outcome with
    | noChanges => simp [hok, Except.toOption] at hinspect
    | exactReplacement proposal =>
      have hkeeps := (prepared_of_prepare hprepare).inspected (ArtifactStore.Keeps.refl _) hok
      obtain ⟨baseline, row, -, evidence, -, -, hrecords, -, -, -, hevidence, -, -, -, -, -,
        htopology, -⟩ := @inspected_candidate_agrees _ _ _ _ _ _ hprepare _ _ _ _ _
          (ArtifactStore.Keeps.refl _) (noCollision_of_distinguishes hdistinct) hok _ _
          (ArtifactStore.Keeps.refl _) (ArtifactStore.Keeps.refl _) TimestampText.plain 0 1 rfl rfl
          { maxFileBytes := 1024 * 1024, valid := by decide } rfl ⟨7⟩ sampleSystem
      obtain ⟨registered, hrecord, hstored, hlater⟩ := hrecords (fun _ => none) (by simp [ArtifactLengths.Stored])
      obtain ⟨-, hpropose⟩ := hlater registered fun _ _ hmem => hmem
      obtain ⟨proposed, hproposed, hload⟩ := hpropose fun id length hmem => by
        obtain ⟨bytes, hread, hbytes⟩ := hstored id length hmem
        exact ⟨bytes, hkeeps.1 _ _ hread, hbytes⟩
      exact ⟨prepared, proposal, after, baseline, row, evidence, registered, proposed, hprepare,
        hok, hrecord, hproposed, hload proposed fun _ _ hmem => hmem, hevidence, htopology⟩

end CarlAgent.Verification
