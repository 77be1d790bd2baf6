import CarlAgent.Subscription.Baseline

/-!
# Recorded proposals

The store records the proposal of an inspection against the recorded baseline
and loads it again.  It computes the digest of the candidate that the
inspection computed.
-/

namespace CarlAgent.Subscription

open Foundation CarlAgent.Task Storage List
open Staging hiding canonicalManifestBytes candidateManifestDigest
  canonicalProposalEnvelope
open Access (Timestamp TimestampText)

def proposalRecord (prepared : PreparedStage) (proposal : ExactReplacementProposal) (runId : RunId)
    (createdAt : Timestamp) : SubscriptionRunProposalRecord :=
  { runId, proposalArtifactId := proposal.artifactId, payloadArtifactId := proposal.payloadHash,
    baselineManifestArtifactId := prepared.baseline.manifestArtifactId,
    candidateManifestDigest := proposal.candidateManifestDigest, path := proposal.path,
    expectedLiveHash := proposal.expectedLiveHash, beforeHash := proposal.beforeHash,
    afterHash := proposal.afterHash, payloadHash := proposal.payloadHash,
    payloadBytes := proposal.payload.length, createdAt }

/-- Both modules spell the envelope with the same bytes. -/
theorem canonicalProposalEnvelope_of_staging {baseline expectedLive before
    after payloadHash : Sha256Digest} {path : String}
    {payload envelope : List UInt8}
    (h : Staging.canonicalProposalEnvelope baseline path expectedLive before
      after payloadHash payload = .ok envelope) :
    canonicalProposalEnvelope baseline path expectedLive before after
      payloadHash payload = .ok envelope := by
  simp only [Staging.canonicalProposalEnvelope, ok_iff, not_le] at h
  obtain ⟨pathLength, hlength, hpayload, rfl⟩ := h
  have hpath : path.utf8ByteSize < 2 ^ 32 := by
    rw [lengthBytes] at hlength
    split at hlength
    · assumption
    · cases hlength
  rw [eq_bigEndian_of_lengthBytes hlength]
  simp only [canonicalProposalEnvelope, lengthBytes_of_lt _ hpath,
    usizeToU64_of_lt _ hpayload, bind_eq_ok]
  exact ⟨_, rfl, _, rfl, rfl⟩

theorem length_asBytes (text : String) : (asBytes text).length = text.utf8ByteSize := by
  have hsize := Text.utf8ByteSize_ofList text.toList
  rw [String.ofList_toList] at hsize
  rw [hsize, asBytes, Text.utf8, length_flatMap]
  simp [Text.byteLen]

theorem length_canonicalProposalEnvelope {baseline expectedLive before
    after payloadHash : Sha256Digest} {path : String} {payload envelope : List UInt8}
    (h : canonicalProposalEnvelope baseline path expectedLive before after
      payloadHash payload = .ok envelope) :
    envelope.length = exactReplacementDomain.utf8ByteSize + 32 + 4 + path.utf8ByteSize + 32 * 4 +
      8 + payload.length := by
  simp only [canonicalProposalEnvelope, ok_iff] at h
  obtain ⟨pathLength, hlength, payloadLength, -, rfl⟩ := h
  rw [eq_bigEndian_of_lengthBytes hlength]
  simp only [length_append, length_asBytes, Sha256Digest.asBytes, bigEndian, length_map,
    length_range]

/-- The objects that recording a proposal registers, with their lengths. -/
def proposalObjects (proposal : ExactReplacementProposal) : List (ArtifactId × Nat) :=
  [(proposal.artifactId, exactReplacementDomain.utf8ByteSize + 32 + 4 +
      proposal.path.utf8ByteSize + 32 * 4 + 8 + proposal.payload.length),
    (proposal.payloadArtifactId, proposal.payload.length)]

section Inspected

variable {sha256 : Sha256} {system : FileSystem}
  {limits : StageLimits} {prepared : PreparedStage}
  {artifacts : ArtifactStore} {proposal : ExactReplacementProposal}
  {before : SealedBaselineEntry}

theorem row_of_inspected (h : Prepared sha256 system limits prepared)
    (hinspected : Inspected sha256 prepared.baseline proposal before artifacts) :
    ∃ row, (baselineRows prepared.baseline.entries).find?
        (fun entry => decide (entry.path = proposal.path)) = some row ∧
      row ∈ baselineRows prepared.baseline.entries ∧
      row.path = proposal.path ∧ row.contentDigest = before.contentDigest := by
  have hpaths : (baselineRows prepared.baseline.entries).map (·.path) =
      prepared.baseline.entries.map SealedBaselineEntry.path :=
    map_baselineRows fun _ _ => rfl
  have hnodup : (prepared.baseline.entries.map SealedBaselineEntry.path).Nodup := by
    rw [h.entries_paths]
    exact h.manifest_paths_strict.imp ne_of_lt
  have hpath : proposal.path ∈ (baselineRows prepared.baseline.entries).map (·.path) := by
    rw [hpaths, ← hinspected.path]
    exact mem_map_of_mem hinspected.entry
  obtain ⟨known, hknown, hknownPath⟩ := mem_map.mp hpath
  have hfound : ((baselineRows prepared.baseline.entries).find?
      fun entry => decide (entry.path = proposal.path)).isSome = true := by
    rw [find?_isSome]
    exact ⟨known, hknown, by simpa using hknownPath⟩
  obtain ⟨row, hrow⟩ := Option.isSome_iff_exists.mp hfound
  have hrowPath : row.path = proposal.path := by
    simpa using find?_some hrow
  have hmem := mem_of_find?_eq_some hrow
  obtain ⟨entry, hentry, ordinal, rfl⟩ := mem_baselineRows hmem
  have hsame : entry = before := by
    apply inj_on_of_nodup_map hnodup hentry hinspected.entry
    rw [hinspected.path]
    exact hrowPath
  subst hsame
  exact ⟨_, hrow, hmem, hrowPath, rfl⟩

theorem validateExactReplacementProposal_of_inspected
    (hinspected : Inspected sha256 prepared.baseline proposal before artifacts) :
    ∃ envelope, validateExactReplacementProposal sha256 proposal = .ok envelope ∧
      Staging.canonicalProposalEnvelope prepared.baseline.manifest.digest
        proposal.path proposal.expectedLiveHash proposal.beforeHash
        proposal.afterHash proposal.payloadHash proposal.payload = .ok envelope ∧
      proposal.artifactId = sha256 envelope ∧
      artifacts.readVerified sha256 (sha256 envelope) =
        .ok { id := sha256 envelope, bytes := envelope } := by
  obtain ⟨envelope, henvelope, hid, hread⟩ := hinspected.envelope
  have hfields : Staging.canonicalProposalEnvelope
      prepared.baseline.manifest.digest proposal.path
      proposal.expectedLiveHash proposal.beforeHash proposal.afterHash
      proposal.payloadHash proposal.payload = .ok envelope := by
    rw [hinspected.live, hinspected.beforeHash, hinspected.afterHash,
      hinspected.payloadHash, henvelope]
  refine ⟨envelope, ?_, hfields, hid, hread⟩
  simp only [validateExactReplacementProposal, ok_iff]
  refine ⟨envelope, ?_, ?_, rfl⟩
  · rw [hinspected.baselineDigest]
    exact hfields
  · simp [hid, hinspected.payloadArtifact, hinspected.payloadHash,
      hinspected.live, hinspected.beforeHash, hinspected.afterHash]

theorem recordSubscriptionRunExactProposal_of_inspected (h : Prepared sha256 system limits prepared)
    (hinspected : Inspected sha256 prepared.baseline proposal before artifacts)
    {lengths : ArtifactLengths} (hstored : lengths.Stored sha256 artifacts)
    (runId : RunId) (baselineAt createdAt : Timestamp) :
    ∃ proposed, recordSubscriptionRunExactProposal sha256 artifacts lengths runId
        (preparedRecord sha256 prepared runId baselineAt) proposal createdAt =
      .ok (proposalRecord prepared proposal runId createdAt, proposed) ∧
      lengths.Retained proposed ∧ proposed.Registers (proposalObjects proposal) := by
  obtain ⟨envelope, hvalid, hstaging, hid, hread⟩ :=
    validateExactReplacementProposal_of_inspected hinspected
  obtain ⟨row, hrow, -, -, hdigest⟩ := row_of_inspected h hinspected
  obtain ⟨-, hmanifest, hmanifestId, -⟩ := manifest_bytes h
  have hagainst : validateProposalAgainstBaseline proposal
      (preparedRecord sha256 prepared runId baselineAt) = .ok () := by
    simp only [validateProposalAgainstBaseline, ok_iff]
    refine ⟨?_, row, hrow, ?_⟩
    · simp [preparedRecord, hinspected.baselineDigest, hmanifest, hmanifestId]
    · simp [hdigest, hinspected.beforeHash, hinspected.live]
  have hpayload := hinspected.payload
  rw [← hinspected.payloadArtifact] at hpayload
  rw [← hid] at hread
  have hartifacts : verifyExactProposalArtifacts sha256 artifacts proposal = .ok () := by
    simp only [verifyExactProposalArtifacts, ok_iff]
    exact ⟨_, hvalid, _, hread, by simp, _, hpayload, by simp⟩
  have hlength := length_canonicalProposalEnvelope (canonicalProposalEnvelope_of_staging hstaging)
  obtain ⟨proposed, hregistered, -, hretained, hregisters⟩ := hstored.registerAll
    (proposalObjects proposal) (by simp [proposalObjects, hread, hpayload, hlength])
  refine ⟨proposed, ?_, hretained, hregisters⟩
  obtain ⟨first, hfirst, hrest⟩ := foldlM_cons_eq_ok.mp hregistered
  obtain ⟨_, hsecond, hdone⟩ := foldlM_cons_eq_ok.mp hrest
  cases hdone
  rw [← hlength] at hfirst
  simp only [recordSubscriptionRunExactProposal, bind_eq_ok]
  exact ⟨_, hvalid, _, hagainst, _, usizeToU64_of_lt _ (length_lt_of_read hread), _, hfirst, _,
    usizeToU64_of_lt _ (length_lt_of_read hpayload), _, hsecond, _, hartifacts, rfl⟩

section Loaded

variable {files : List CandidateFile}
  (hfiles : SoundCandidate prepared.baseline.directories files)
include hfiles

theorem loadSubscriptionRunProposal_proposalRecord (h : Prepared sha256 system limits prepared)
    (hinspected : Inspected sha256 prepared.baseline proposal before artifacts)
    {lengths : ArtifactLengths} {preconditions : List UInt8}
    (hpreconditions : prepared.baseline.preconditions = .ok preconditions)
    (hregisters : lengths.Registers (baselineObjects prepared.baseline preconditions))
    (hproposed : lengths.Registers (proposalObjects proposal)) {texts : TimestampText}
    {baselineAt createdAt : Timestamp} (hbaselineAt : texts.readable baselineAt = true)
    (hcreatedAt : texts.readable createdAt = true) (runId : RunId) :
    loadSubscriptionRunProposal sha256 texts lengths
        (preparedRecord sha256 prepared runId baselineAt) (proposalRecord prepared proposal runId createdAt) =
      .ok (proposalRecord prepared proposal runId createdAt) := by
  have hbaseline := loadSubscriptionRunBaseline_preparedRecord hfiles h hpreconditions hregisters
    hbaselineAt runId
  obtain ⟨row, -, hmem, hpath, hdigest⟩ := row_of_inspected h hinspected
  obtain ⟨envelope, -, henvelope, -, hread⟩ :=
    validateExactReplacementProposal_of_inspected hinspected
  have hlength := length_canonicalProposalEnvelope (canonicalProposalEnvelope_of_staging henvelope)
  have hsmall := length_lt_of_read hread
  have hknown := hproposed _ (mem_cons_self ..)
  have hpayload := hproposed _ (mem_cons_of_mem _ (mem_singleton_self _))
  rw [hinspected.payloadArtifact, ← hinspected.payloadHash] at hpayload
  simp only [loadSubscriptionRunProposal, requireRegisteredArtifactObject, ok_iff,
    TimestampText.parseTimestamp_eq_ok]
  refine ⟨not_not.mpr hpayload, _, usizeToU64_of_lt _ ?_, ?_, not_not.mpr hknown, ?_, _,
    hbaseline, ?_, createdAt, ⟨hcreatedAt, rfl⟩, rfl⟩
  · simp only [proposalRecord]
    omega
  · simp only [proposalRecord]
    omega
  · simp [proposalRecord, hinspected.live, hinspected.beforeHash,
      hinspected.afterHash, hinspected.payloadHash]
  · have hany : ((baselineRows prepared.baseline.entries).any
        fun entry => decide (entry.path = proposal.path) &&
          decide (entry.contentDigest = proposal.beforeHash)) = true := by
      rw [any_eq_true]
      refine ⟨row, hmem, ?_⟩
      simp [hpath, hdigest, hinspected.beforeHash]
    rintro (hartifact | hnone)
    · exact hartifact rfl
    · exact Bool.noConfusion (hany.symm.trans hnone)

end Loaded

theorem candidateManifestDigest_preparedRecord (h : Prepared sha256 system limits prepared)
    (hinspected : Inspected sha256 prepared.baseline proposal before artifacts)
    (runId : RunId) (createdAt : Timestamp) :
    candidateManifestDigest sha256 (preparedRecord sha256 prepared runId createdAt) proposal.path
        proposal.payload proposal.payloadHash = .ok proposal.candidateManifestDigest := by
  have hlength := (ArtifactStore.readVerified_eq_ok.mp hinspected.payload).2.1
  simp only [maxArtifactBytes] at hlength
  obtain ⟨row, -, hmem, hpath, -⟩ := row_of_inspected h hinspected
  rw [hinspected.payloadHash, h.candidateManifestDigest_eq hinspected,
    h.candidateFiles_manifest, ← rows_manifestEntry h]
  simp only [candidateManifestDigest, ok_iff, ne_eq, not_not, true_and]
  refine ⟨_, candidateStep_foldlM (by omega) (fun row hrow => (row_sound h hrow).path), ?_, rfl⟩
  simpa using ⟨row, hmem, hpath⟩

theorem verifyLoadedProposalArtifacts_proposalRecord (h : Prepared sha256 system limits prepared)
    (hinspected : Inspected sha256 prepared.baseline proposal before artifacts)
    (runId : RunId) (baselineAt createdAt : Timestamp) :
    verifyLoadedProposalArtifacts sha256 artifacts (preparedRecord sha256 prepared runId baselineAt)
      (proposalRecord prepared proposal runId createdAt) = .ok () := by
  have hpayload := hinspected.payload
  rw [← hinspected.payloadHash] at hpayload
  have hlength := (ArtifactStore.readVerified_eq_ok.mp hpayload).2.1
  simp only [maxArtifactBytes] at hlength
  have hlt : proposal.payload.length < 2 ^ 64 := by omega
  obtain ⟨envelope, -, henvelope, hid, hread⟩ :=
    validateExactReplacementProposal_of_inspected hinspected
  rw [← hid] at hread
  simp only [verifyLoadedProposalArtifacts, ok_iff]
  refine ⟨?_, _, hpayload, _, usizeToU64_of_lt _ hlt, ?_, _,
    candidateManifestDigest_preparedRecord h hinspected runId baselineAt, ?_,
    envelope, canonicalProposalEnvelope_of_staging henvelope, ?_, _, hread, ?_⟩
  · simp [preparedRecord, proposalRecord]
  · simp [proposalRecord, hinspected.payloadHash, hinspected.afterHash]
  · simp [proposalRecord]
  · simp [proposalRecord, hid]
  · simp

end Inspected

end CarlAgent.Subscription
