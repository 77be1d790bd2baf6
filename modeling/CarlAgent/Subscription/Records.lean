import CarlAgent.Access.Types
import CarlAgent.Staging.Proposal

/-!
# Baselines and proposals of a subscription run

What the store keeps of a sealed baseline and of an exact proposal, and the
checks it makes when it records and when it loads them.  The store spells the
manifests and the envelope itself.  Columns hold typed values.
-/

namespace CarlAgent.Subscription

open Foundation CarlAgent.Task Storage
open Staging hiding canonicalManifestBytes candidateManifestDigest
  canonicalProposalEnvelope
open Access (Timestamp TimestampText)

structure RunId where
  uuid : BitVec 128
  deriving DecidableEq, Repr

structure SubscriptionRunBaselineEntryRecord where
  ordinal : Nat
  path : String
  byteLength : Nat
  contentDigest : Sha256Digest
  contentArtifactId : ArtifactId
  identityPlatform : IdentityPlatform
  identityA : String
  identityB : String
  ownerId : String
  ownerMode : Option Nat
  deriving DecidableEq, Repr

structure SubscriptionRunBaselineRecord where
  runId : RunId
  manifestArtifactId : ArtifactId
  manifestDigest : Sha256Digest
  sourcePreconditionsArtifactId : ArtifactId
  sourcePreconditionsDigest : Sha256Digest
  entryCount : Nat
  totalBytes : Nat
  directoryCount : Nat
  directoryManifestDigest : Sha256Digest
  entries : List SubscriptionRunBaselineEntryRecord
  directories : List String
  createdAt : Timestamp
  deriving DecidableEq

structure SubscriptionRunProposalRecord where
  runId : RunId
  proposalArtifactId : ArtifactId
  payloadArtifactId : ArtifactId
  baselineManifestArtifactId : ArtifactId
  candidateManifestDigest : Sha256Digest
  path : String
  expectedLiveHash : Sha256Digest
  beforeHash : Sha256Digest
  afterHash : Sha256Digest
  payloadHash : Sha256Digest
  payloadBytes : Nat
  createdAt : Timestamp
  deriving DecidableEq

def artifactValidationError (detail : String) : CarlError :=
  .validation detail

def storageInvariant (detail : String) : CarlError :=
  .storage detail

def artifactErrorText : ArtifactErrorCode → String
  | .invalidRoot => "The artifact root is not private and trustworthy."
  | .limitExceeded => "The artifact exceeds Carl's storage limit."
  | .corrupt => "A content-addressed artifact failed verification."
  | .failedIo => "The artifact store is unavailable."

def artifactStorageError (code : ArtifactErrorCode) : CarlError :=
  .storage (artifactErrorText code)

def usizeToU64 (value : Nat) (kind : String) : Except CarlError Nat :=
  if value < 2 ^ 64 then .ok value
  else .error (storageInvariant (kind ++ " cannot be represented durably"))

/-- The lengths in the table `artifact_objects`. -/
abbrev ArtifactLengths := ArtifactId → Option Nat

def registerArtifactObject (lengths : ArtifactLengths) (id : ArtifactId) (byteLength : Nat) :
    Except CarlError ArtifactLengths := do
  revisionToSql byteLength
  let storedLength := (lengths id).getD byteLength
  rejectIf (storedLength ≠ byteLength)
    (storageInvariant "content-addressed artifact length is inconsistent")
  .ok (Function.update lengths id (some storedLength))

def requireRegisteredArtifactObject (lengths : ArtifactLengths) (id : ArtifactId)
    (byteLength : Nat) : Except CarlError Unit :=
  rejectIf (lengths id ≠ some byteLength)
    (storageInvariant "content-addressed artifact registration is missing or inconsistent")

def baselineDirectoriesDomain : String := "carl.baseline-directories.v1\x00"

def maxBaselineDirectoryPathBytes : Nat := 8 * 1024 * 1024

def canonicalBaselineDirectories : List String → Except CarlError (List UInt8) :=
  DirectoryRules.manifest
    { domain := baselineDirectoriesDomain
      maxPathBytes := maxBaselineDirectoryPathBytes
      rejects := fun path => relativePathRejected path ||
        startsWithSeparator path || endsWithSeparator path ||
        path.toList.contains '\x00'
      count := artifactValidationError "baseline directory count is invalid"
      invalid := fun _ => artifactValidationError "sealed baseline directory topology is invalid"
      orphan := fun _ => artifactValidationError "sealed baseline directory parent is missing"
      aggregate := fun _ => artifactValidationError "baseline directory paths exceed the limit"
      tooLong := fun _ => artifactValidationError "baseline directory path is too long" }

def fileRecord (pathLength : List UInt8) (path : String) (byteLength : Nat)
    (digest : Sha256Digest) : List UInt8 :=
  pathLength ++ asBytes path ++ bigEndian 8 byteLength ++ digest.asBytes

def manifestStep (bytes : List UInt8) (entry : SubscriptionRunBaselineEntryRecord) :
    Except CarlError (List UInt8) := do
  let pathLength ← lengthBytes entry.path.utf8ByteSize
    (storageInvariant "stored baseline path is too long")
  .ok (bytes ++ fileRecord pathLength entry.path entry.byteLength entry.contentDigest)

def canonicalManifestBytes (entries : List SubscriptionRunBaselineEntryRecord) :
    Except CarlError (List UInt8) :=
  entries.foldlM manifestStep []

def exactReplacementDomain : String := "carl.exact-replacement.v1\x00"

def canonicalProposalEnvelope (baseline : Sha256Digest) (path : String)
    (expectedLive before after payloadHash : Sha256Digest)
    (payload : List UInt8) : Except CarlError (List UInt8) := do
  let pathLength ← lengthBytes path.utf8ByteSize
    (artifactValidationError "proposal path is too long")
  let payloadLength ← usizeToU64 payload.length "proposal payload length"
  .ok (asBytes exactReplacementDomain ++ baseline.asBytes ++
    pathLength ++ asBytes path ++ expectedLive.asBytes ++ before.asBytes ++ after.asBytes ++
    payloadHash.asBytes ++ bigEndian 8 payloadLength ++ payload)

section Digests

variable (sha256 : Sha256)

/-- Whether the changed path was met, and the bytes so far. -/
def candidateStep (changedPath : String) (payload : List UInt8) (payloadDigest : Sha256Digest)
    (acc : Bool × List UInt8) (entry : SubscriptionRunBaselineEntryRecord) :
    Except CarlError (Bool × List UInt8) := do
  let pathLength ← lengthBytes entry.path.utf8ByteSize
    (artifactValidationError "candidate path is too long")
  if entry.path = changedPath then do
    let payloadLength ← usizeToU64 payload.length "candidate payload length"
    .ok (true, acc.2 ++ fileRecord pathLength entry.path payloadLength payloadDigest)
  else
    .ok (acc.1, acc.2 ++ fileRecord pathLength entry.path entry.byteLength entry.contentDigest)

def candidateManifestDigest (baseline : SubscriptionRunBaselineRecord) (changedPath : String)
    (payload : List UInt8) (payloadDigest : Sha256Digest) : Except CarlError Sha256Digest := do
  rejectIf (sha256 payload ≠ payloadDigest)
    (artifactValidationError "candidate payload digest is inconsistent")
  let (found, bytes) ← baseline.entries.foldlM
    (candidateStep changedPath payload payloadDigest) (false, [])
  rejectIf (found = false) (artifactValidationError
    "candidate path is absent from the sealed baseline")
  .ok (sha256 bytes)

def SubscriptionRunBaselineEntryRecord.precondition
    (entry : SubscriptionRunBaselineEntryRecord) : SourcePreconditionRef :=
  { path := entry.path, bytes := entry.byteLength, contentDigest := entry.contentDigest,
    platform := entry.identityPlatform, identityA := entry.identityA, identityB := entry.identityB,
    ownerId := entry.ownerId, ownerMode := entry.ownerMode }

def identityModeValid : IdentityPlatform → Option Nat → Bool
  | .unix, some mode => decide (mode ≤ 0o7777)
  | .windows, none => true
  | _, _ => false

/-! ## Recording a baseline -/

def sealedEntryStep (acc : Option String × Nat)
    (entries : StageManifestEntry × SealedBaselineEntry) :
    Except CarlError (Option String × Nat) := do
  let (manifestEntry, sealedEntry) := entries
  rejectIf (manifestEntry.path ≠ sealedEntry.path ∨
    manifestEntry.bytes ≠ sealedEntry.bytes ∨
    manifestEntry.contentDigest ≠ sealedEntry.contentDigest ∨
    sealedEntry.contentArtifactId ≠ sealedEntry.contentDigest ∨
    acc.1.any (sealedEntry.path ≤ ·))
    (artifactValidationError "sealed baseline entry metadata is inconsistent")
  let identity := sealedEntry.sourceIdentity
  rejectIf (identity.identityA = "" ∨ identity.identityB = "" ∨
    identity.ownerId = "" ∨
    identityModeValid identity.platform identity.ownerMode = false)
    (artifactValidationError "sealed baseline source identity is invalid")
  let totalBytes := acc.2 + sealedEntry.bytes
  rejectIf (totalBytes ≥ 2 ^ 64) (artifactValidationError "sealed baseline size overflows")
  .ok (some sealedEntry.path, totalBytes)

def validateSealedBaseline (baseline : SealedBaseline) :
    Except CarlError (List UInt8 × List UInt8) := do
  let manifest := baseline.manifest
  let manifestBytes ← manifest.canonicalBytes.mapError fun _ =>
    artifactValidationError "sealed baseline manifest is invalid"
  let manifestId := sha256 manifestBytes
  rejectIf (manifestId ≠ baseline.manifestArtifactId ∨
    manifestId ≠ manifest.digest ∨
    manifest.entries.length ≠ baseline.entries.length)
    (artifactValidationError "sealed baseline manifest and artifact disagree")
  let (_, totalBytes) ← (manifest.entries.zip baseline.entries).foldlM sealedEntryStep (none, 0)
  rejectIf (totalBytes ≠ manifest.totalBytes)
    (artifactValidationError "sealed baseline total size is inconsistent")
  let _ ← canonicalBaselineDirectories baseline.directories
  let sourcePreconditions ← (canonicalSourcePreconditions manifest.digest
      (baseline.entries.map SealedBaselineEntry.precondition)).mapError
        fun _ => artifactValidationError "source precondition evidence is invalid"
  let sourcePreconditionsId := sha256 sourcePreconditions
  rejectIf (sourcePreconditionsId ≠ baseline.sourcePreconditionsArtifactId ∨
    sourcePreconditionsId ≠ baseline.sourcePreconditionsDigest)
    (artifactValidationError "source precondition evidence and artifact disagree")
  .ok (manifestBytes, sourcePreconditions)

variable (artifacts : ArtifactStore)

def verifySealedBaselineArtifacts (baseline : SealedBaseline) : Except CarlError Unit := do
  let (canonicalManifest, canonicalPreconditions) ← validateSealedBaseline sha256 baseline
  let manifest ← (artifacts.readVerified sha256
    baseline.manifestArtifactId).mapError artifactStorageError
  rejectIf (manifest.bytes ≠ canonicalManifest) (artifactValidationError
    "sealed baseline manifest object is unavailable or inconsistent")
  let preconditions ← (artifacts.readVerified sha256
    baseline.sourcePreconditionsArtifactId).mapError artifactStorageError
  rejectIf (preconditions.bytes ≠ canonicalPreconditions)
    (artifactValidationError "source precondition evidence object is unavailable or inconsistent")
  baseline.entries.forM fun entry => do
    let content ← (artifacts.readVerified sha256
      entry.contentArtifactId).mapError artifactStorageError
    let length ← usizeToU64 content.bytes.length "baseline content length"
    rejectIf (length ≠ entry.bytes ∨ sha256 content.bytes ≠ entry.contentDigest)
      (artifactValidationError "sealed baseline content object is inconsistent")

def baselineEntryRow (entry : SealedBaselineEntry) (ordinal : Nat) :
    SubscriptionRunBaselineEntryRecord :=
  { ordinal, path := entry.path, byteLength := entry.bytes, contentDigest := entry.contentDigest,
    contentArtifactId := entry.contentArtifactId, identityPlatform := entry.sourceIdentity.platform,
    identityA := entry.sourceIdentity.identityA, identityB := entry.sourceIdentity.identityB,
    ownerId := entry.sourceIdentity.ownerId, ownerMode := entry.sourceIdentity.ownerMode }

/-- The rows that recording a baseline inserts for a run that matches. -/
def recordSubscriptionRunBaseline (lengths : ArtifactLengths) (runId : RunId)
    (baseline : SealedBaseline) (createdAt : Timestamp) :
    Except CarlError (SubscriptionRunBaselineRecord × ArtifactLengths) := do
  let (manifest, preconditions) ← validateSealedBaseline sha256 baseline
  let directoryManifest ← canonicalBaselineDirectories baseline.directories
  let manifestLength ← usizeToU64 manifest.length "baseline manifest length"
  let lengths ← registerArtifactObject lengths baseline.manifestArtifactId manifestLength
  let preconditionsLength ← usizeToU64 preconditions.length "source preconditions length"
  let lengths ← registerArtifactObject lengths baseline.sourcePreconditionsArtifactId
    preconditionsLength
  let lengths ← baseline.entries.foldlM (fun lengths entry =>
    registerArtifactObject lengths entry.contentArtifactId entry.bytes) lengths
  verifySealedBaselineArtifacts sha256 artifacts baseline
  .ok ({ runId
         manifestArtifactId := baseline.manifestArtifactId
         manifestDigest := baseline.manifest.digest
         sourcePreconditionsArtifactId := baseline.sourcePreconditionsArtifactId
         sourcePreconditionsDigest := baseline.sourcePreconditionsDigest
         entryCount := baseline.entries.length
         totalBytes := baseline.manifest.totalBytes
         directoryCount := baseline.directories.length
         directoryManifestDigest := sha256 directoryManifest
         entries := baseline.entries.mapIdx fun ordinal entry =>
           baselineEntryRow entry ordinal
         directories := baseline.directories
         createdAt }, lengths)

/-! ## Loading a baseline -/

def loadedEntryStep (lengths : ArtifactLengths) (acc : Nat × Nat × List UInt8)
    (entry : SubscriptionRunBaselineEntryRecord) : Except CarlError (Nat × Nat × List UInt8) := do
  rejectIf (acc.1 ≠ entry.ordinal) (storageInvariant "stored baseline entry order has a gap")
  rejectIf (entry.contentArtifactId ≠ entry.contentDigest)
    (storageInvariant "stored baseline content artifact and digest disagree")
  requireRegisteredArtifactObject lengths entry.contentArtifactId entry.byteLength
  rejectIf (identityModeValid entry.identityPlatform entry.ownerMode = false)
    (storageInvariant "stored baseline identity platform and mode disagree")
  let bytes ← manifestStep acc.2.2 entry
  let measuredTotal := acc.2.1 + entry.byteLength
  rejectIf (measuredTotal ≥ 2 ^ 64) (storageInvariant "stored baseline size overflows")
  .ok (acc.1 + 1, measuredTotal, bytes)

def loadSubscriptionRunBaseline (texts : TimestampText) (lengths : ArtifactLengths)
    (row : SubscriptionRunBaselineRecord) : Except CarlError SubscriptionRunBaselineRecord := do
  let unregistered := storageInvariant "stored baseline has no registered manifest object"
  let manifestLength ← requireSome (lengths row.manifestArtifactId) unregistered
  let preconditionsLength ← requireSome (lengths row.sourcePreconditionsArtifactId) unregistered
  rejectIf (row.manifestArtifactId ≠ row.manifestDigest)
    (storageInvariant "stored baseline artifact and digest disagree")
  rejectIf (row.sourcePreconditionsArtifactId ≠ row.sourcePreconditionsDigest)
    (storageInvariant "stored source preconditions artifact and digest disagree")
  let (_, measuredTotal, canonicalManifest) ← row.entries.foldlM (loadedEntryStep lengths)
    (0, 0, [])
  rejectIf (row.entries.length ≠ row.entryCount ∨
    measuredTotal ≠ row.totalBytes ∨ canonicalManifest.length ≠ manifestLength ∨
    sha256 canonicalManifest ≠ row.manifestDigest)
    (storageInvariant "stored baseline projection is internally inconsistent")
  let canonicalDirectories ←
    (canonicalBaselineDirectories row.directories).mapError fun _ =>
      storageInvariant "stored baseline directory topology is invalid"
  rejectIf (row.directories.length ≠ row.directoryCount ∨
    sha256 canonicalDirectories ≠ row.directoryManifestDigest)
    (storageInvariant "stored baseline directory topology is internally inconsistent")
  let canonicalPreconditions ← (canonicalSourcePreconditions row.manifestDigest
      (row.entries.map (·.precondition))).mapError fun _ =>
        storageInvariant "stored source precondition evidence is invalid"
  rejectIf (canonicalPreconditions.length ≠ preconditionsLength ∨
    sha256 canonicalPreconditions ≠ row.sourcePreconditionsDigest)
    (storageInvariant "stored source precondition evidence is internally inconsistent")
  let createdAt ← texts.parseTimestamp row.createdAt
  .ok { row with createdAt }

def verifyLoadedBaselineArtifacts
    (baseline : SubscriptionRunBaselineRecord) : Except CarlError Unit := do
  let canonicalDirectories ←
    (canonicalBaselineDirectories baseline.directories).mapError fun _ =>
      storageInvariant "stored baseline directory topology is invalid"
  rejectIf (baseline.directories.length ≠ baseline.directoryCount ∨
    sha256 canonicalDirectories ≠ baseline.directoryManifestDigest)
    (storageInvariant "stored baseline directory topology is inconsistent")
  let canonicalManifest ← canonicalManifestBytes baseline.entries
  rejectIf (sha256 canonicalManifest ≠ baseline.manifestDigest ∨
    sha256 canonicalManifest ≠ baseline.manifestArtifactId)
    (storageInvariant "stored baseline manifest metadata is inconsistent")
  let manifest ← (artifacts.readVerified sha256
    baseline.manifestArtifactId).mapError artifactStorageError
  rejectIf (manifest.bytes ≠ canonicalManifest)
    (storageInvariant "stored baseline manifest object is inconsistent")
  let canonicalPreconditions ← (canonicalSourcePreconditions baseline.manifestDigest
      (baseline.entries.map (·.precondition))).mapError fun _ =>
        storageInvariant "stored source precondition evidence is invalid"
  rejectIf (sha256 canonicalPreconditions ≠ baseline.sourcePreconditionsDigest ∨
    sha256 canonicalPreconditions ≠ baseline.sourcePreconditionsArtifactId)
    (storageInvariant "stored source precondition evidence metadata is inconsistent")
  let preconditions ← (artifacts.readVerified sha256
    baseline.sourcePreconditionsArtifactId).mapError artifactStorageError
  rejectIf (preconditions.bytes ≠ canonicalPreconditions)
    (storageInvariant "stored source precondition evidence object is inconsistent")
  baseline.entries.forM fun entry => do
    let content ← (artifacts.readVerified sha256
      entry.contentArtifactId).mapError artifactStorageError
    let length ← usizeToU64 content.bytes.length "stored baseline content length"
    rejectIf (length ≠ entry.byteLength ∨ sha256 content.bytes ≠ entry.contentDigest)
      (storageInvariant "stored baseline content object is inconsistent")

/-- The envelope of a proposal.  The staging module encoded the same fields
before; the code stops where they do not encode. -/
def validateExactReplacementProposal (proposal : ExactReplacementProposal) :
    Except CarlError (List UInt8) := do
  let envelope ← (Staging.canonicalProposalEnvelope
    proposal.baselineManifestDigest proposal.path proposal.expectedLiveHash
    proposal.beforeHash proposal.afterHash proposal.payloadHash proposal.payload).mapError fun _ =>
      .validation "validated proposal fields always encode"
  rejectIf (sha256 envelope ≠ proposal.artifactId ∨
    sha256 proposal.payload ≠ proposal.payloadArtifactId ∨
    sha256 proposal.payload ≠ proposal.payloadHash ∨
    proposal.expectedLiveHash ≠ proposal.beforeHash ∨
    proposal.afterHash ≠ proposal.payloadHash)
    (artifactValidationError "exact replacement proposal metadata is inconsistent")
  .ok envelope

def verifyExactProposalArtifacts (proposal : ExactReplacementProposal) : Except CarlError Unit := do
  let canonicalEnvelope ← validateExactReplacementProposal sha256 proposal
  let envelope ← (artifacts.readVerified sha256 proposal.artifactId).mapError artifactStorageError
  rejectIf (envelope.bytes ≠ canonicalEnvelope) (artifactValidationError
    "exact proposal envelope object is inconsistent")
  let payload ← (artifacts.readVerified sha256
    proposal.payloadArtifactId).mapError artifactStorageError
  rejectIf (payload.bytes ≠ proposal.payload) (artifactValidationError
    "exact proposal payload object is inconsistent")

end Digests

def validateProposalAgainstBaseline (proposal : ExactReplacementProposal)
    (baseline : SubscriptionRunBaselineRecord) : Except CarlError Unit := do
  rejectIf (proposal.baselineManifestDigest ≠ baseline.manifestDigest ∨
    proposal.baselineManifestDigest ≠ baseline.manifestArtifactId)
    (artifactValidationError "proposal references a different sealed baseline")
  let entry ← requireSome (baseline.entries.find? fun entry => decide (entry.path = proposal.path))
    (artifactValidationError "proposal path is absent from the sealed baseline")
  rejectIf (entry.contentDigest ≠ proposal.beforeHash ∨
    proposal.expectedLiveHash ≠ entry.contentDigest)
    (artifactValidationError "proposal before hash disagrees with the sealed baseline")

section Proposal

variable (sha256 : Sha256)

/-- The rows that recording a proposal inserts for a run that matches; the
candidate's digest is the one of the inspection. -/
def recordSubscriptionRunExactProposal (artifacts : ArtifactStore) (lengths : ArtifactLengths)
    (runId : RunId) (baseline : SubscriptionRunBaselineRecord)
    (proposal : ExactReplacementProposal) (createdAt : Timestamp) :
    Except CarlError (SubscriptionRunProposalRecord × ArtifactLengths) := do
  let envelope ← validateExactReplacementProposal sha256 proposal
  validateProposalAgainstBaseline proposal baseline
  let envelopeLength ← usizeToU64 envelope.length "proposal envelope length"
  let lengths ← registerArtifactObject lengths proposal.artifactId envelopeLength
  let payloadLength ← usizeToU64 proposal.payload.length "proposal payload length"
  let lengths ← registerArtifactObject lengths proposal.payloadArtifactId payloadLength
  verifyExactProposalArtifacts sha256 artifacts proposal
  .ok ({ runId, proposalArtifactId := proposal.artifactId,
         payloadArtifactId := proposal.payloadHash,
         baselineManifestArtifactId := baseline.manifestArtifactId,
         candidateManifestDigest := proposal.candidateManifestDigest, path := proposal.path,
         expectedLiveHash := proposal.expectedLiveHash, beforeHash := proposal.beforeHash,
         afterHash := proposal.afterHash, payloadHash := proposal.payloadHash,
         payloadBytes := proposal.payload.length, createdAt }, lengths)

def loadSubscriptionRunProposal (texts : TimestampText) (lengths : ArtifactLengths)
    (baselineRow : SubscriptionRunBaselineRecord) (row : SubscriptionRunProposalRecord) :
    Except CarlError SubscriptionRunProposalRecord := do
  requireRegisteredArtifactObject lengths row.payloadHash row.payloadBytes
  let metadataBytes ← usizeToU64 (exactReplacementDomain.utf8ByteSize + 32 + 4 +
    row.path.utf8ByteSize + 32 * 4 + 8) "proposal envelope metadata length"
  rejectIf (metadataBytes + row.payloadBytes ≥ 2 ^ 64)
    (storageInvariant "stored proposal envelope length overflows")
  requireRegisteredArtifactObject lengths row.proposalArtifactId (metadataBytes + row.payloadBytes)
  rejectIf (row.expectedLiveHash ≠ row.beforeHash ∨ row.afterHash ≠ row.payloadHash)
    (storageInvariant "stored proposal hash relationships are inconsistent")
  let baseline ← loadSubscriptionRunBaseline sha256 texts lengths baselineRow
  rejectIf (baseline.manifestArtifactId ≠ row.baselineManifestArtifactId ∨
    (baseline.entries.any fun entry =>
      decide (entry.path = row.path) && decide (entry.contentDigest = row.beforeHash)) = false)
    (storageInvariant "stored proposal disagrees with its sealed baseline")
  let createdAt ← texts.parseTimestamp row.createdAt
  .ok { row with createdAt, payloadArtifactId := row.payloadHash }

def verifyLoadedProposalArtifacts (artifacts : ArtifactStore)
    (baseline : SubscriptionRunBaselineRecord)
    (proposal : SubscriptionRunProposalRecord) : Except CarlError Unit := do
  rejectIf (proposal.baselineManifestArtifactId ≠ baseline.manifestArtifactId)
    (storageInvariant "stored proposal references a different baseline object")
  let payload ← (artifacts.readVerified sha256
    proposal.payloadArtifactId).mapError artifactStorageError
  let payloadLength ← usizeToU64 payload.bytes.length "stored proposal payload length"
  rejectIf (payloadLength ≠ proposal.payloadBytes ∨
    sha256 payload.bytes ≠ proposal.payloadHash ∨
    proposal.payloadArtifactId ≠ proposal.payloadHash ∨
    proposal.afterHash ≠ proposal.payloadHash)
    (storageInvariant "stored proposal payload object is inconsistent")
  let candidate ← candidateManifestDigest sha256 baseline proposal.path
    payload.bytes proposal.payloadHash
  rejectIf (candidate ≠ proposal.candidateManifestDigest)
    (storageInvariant "stored proposal candidate manifest digest is inconsistent")
  let canonicalEnvelope ← canonicalProposalEnvelope baseline.manifestDigest
    proposal.path proposal.expectedLiveHash proposal.beforeHash
    proposal.afterHash proposal.payloadHash payload.bytes
  rejectIf (sha256 canonicalEnvelope ≠ proposal.proposalArtifactId)
    (storageInvariant "stored proposal envelope ID is inconsistent")
  let envelope ← (artifacts.readVerified sha256
    proposal.proposalArtifactId).mapError artifactStorageError
  rejectIf (envelope.bytes ≠ canonicalEnvelope)
    (storageInvariant "stored proposal envelope object is inconsistent")

end Proposal

end CarlAgent.Subscription
