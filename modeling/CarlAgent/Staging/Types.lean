import CarlAgent.Foundation.Bytes
import CarlAgent.Foundation.FileTree
import CarlAgent.Security.SecretFilter
import CarlAgent.Task.Types

/-!
# Values of the sanitized stage

A stage is a private copy of a source tree.  Its manifest lists the copied
files with their sizes and digests, the sealed baseline adds the directories
and the identities of the source files, and a proposal names the one file of
the stage whose content changed.
-/

namespace CarlAgent.Task

open Foundation

def Sha256Digest.asBytes (digest : Sha256Digest) : List UInt8 :=
  bigEndian 32 digest.bits.toNat

end CarlAgent.Task

namespace CarlAgent.Staging

open Foundation Security CarlAgent.Task

structure FileMetadata where
  owner : Nat
  /-- The permission bits with the set-id and sticky bits above them. -/
  mode : Nat
  links : Nat
  device : Nat
  inode : Nat
  deriving DecidableEq, Repr

structure EntryIdentity where
  device : Nat
  inode : Nat
  deriving DecidableEq, Repr

def fileIdentity (metadata : FileMetadata) : EntryIdentity :=
  { device := metadata.device, inode := metadata.inode }

abbrev StageNode := Node FileMetadata
abbrev StageEntry := Entry FileMetadata
abbrev StageItem := Item FileMetadata
abbrev StageTree := FileTree FileMetadata

inductive StageErrorCode where
  | invalidRoot
  | invalidLimits
  | invalidEntry
  | limitExceeded
  | secretDetected
  | artifact
  | failedIo
  deriving DecidableEq, Repr

structure StageError where
  code : StageErrorCode
  path : Option String
  secretRule : Option SecretRule
  deriving DecidableEq, Repr

def StageError.new (code : StageErrorCode) : StageError :=
  { code, path := none, secretRule := none }

def StageError.at (code : StageErrorCode) (path : String) : StageError :=
  { code, path := some path, secretRule := none }

def StageError.secret (path : String) (rule : SecretRule) : StageError :=
  { code := .secretDetected, path := some path, secretRule := some rule }

inductive ProposalErrorCode where
  | invalidLimits
  | createdFile
  | deletedFile
  | renamedFile
  | multipleFiles
  | redirectedPath
  | hardLink
  | nonUtf8
  | protectedPath
  | limitExceeded
  | metadataChanged
  | secretDetected
  | entryChanged
  | artifactCorrupt
  | failedIo
  deriving DecidableEq, Repr

structure ProposalError where
  code : ProposalErrorCode
  path : Option String
  secretRule : Option SecretRule
  deriving DecidableEq, Repr

def ProposalError.new (code : ProposalErrorCode) : ProposalError :=
  { code, path := none, secretRule := none }

def ProposalError.at (code : ProposalErrorCode) (path : String) : ProposalError :=
  { code, path := some path, secretRule := none }

def ProposalError.secret (path : String) (rule : SecretRule) : ProposalError :=
  { code := .secretDetected, path := some path, secretRule := some rule }

def maxDepth : Nat := 64
def maxRelativePathBytes : Nat := 4096
def maxAggregatePathBytes : Nat := 8 * 1024 * 1024

def accountPathBytes (total : Nat) (path : String) : Except Unit Nat :=
  let next := total + path.utf8ByteSize
  if next > maxAggregatePathBytes then .error () else .ok next

def stageLimitsValid (maxFiles maxFileBytes maxTotalBytes : Nat) : Prop :=
  maxFiles ≠ 0 ∧ maxFileBytes ≠ 0 ∧ maxTotalBytes ≠ 0 ∧
    maxFiles ≤ 100000 ∧ maxFileBytes ≤ 1024 * 1024 ∧
    maxTotalBytes ≤ 100 * 1024 * 1024 ∧ maxFileBytes ≤ maxTotalBytes

instance (maxFiles maxFileBytes maxTotalBytes : Nat) :
    Decidable (stageLimitsValid maxFiles maxFileBytes maxTotalBytes) :=
  inferInstanceAs (Decidable (_ ∧ _))

structure StageLimits where
  maxFiles : Nat
  maxFileBytes : Nat
  maxTotalBytes : Nat
  valid : stageLimitsValid maxFiles maxFileBytes maxTotalBytes

structure ProposalLimits where
  maxFileBytes : Nat
  valid : maxFileBytes ≠ 0 ∧ maxFileBytes ≤ 1024 * 1024

def ProposalLimits.new (maxFileBytes : Nat) : Except ProposalError ProposalLimits :=
  if valid : maxFileBytes ≠ 0 ∧ maxFileBytes ≤ 1024 * 1024 then
    .ok { maxFileBytes, valid }
  else .error (.new .invalidLimits)

structure StageManifestEntry where
  path : String
  bytes : Nat
  contentDigest : Sha256Digest
  deriving DecidableEq, Repr

structure StageManifest where
  digest : Sha256Digest
  totalBytes : Nat
  entries : List StageManifestEntry
  deriving DecidableEq, Repr

inductive StageExclusionReason where
  | protectedPath
  | sensitiveFilename
  | compatibilityInstruction
  | nonUtf8
  | hardLink
  | symlink
  | specialFile
  deriving DecidableEq, Repr

structure StageExclusion where
  path : String
  reason : StageExclusionReason
  deriving DecidableEq, Repr

/-- The text of an artifact identifier is that of the digest of its bytes. -/
abbrev ArtifactId := Sha256Digest

inductive IdentityPlatform where
  | unix
  | windows
  deriving DecidableEq, Repr

structure SourceIdentity where
  platform : IdentityPlatform
  identityA : String
  identityB : String
  ownerId : String
  ownerMode : Option Nat
  deriving DecidableEq, Repr

structure SealedBaselineEntry where
  path : String
  bytes : Nat
  contentDigest : Sha256Digest
  contentArtifactId : ArtifactId
  sourceIdentity : SourceIdentity
  deriving DecidableEq, Repr

structure SealedBaseline where
  manifest : StageManifest
  manifestArtifactId : ArtifactId
  sourcePreconditionsArtifactId : ArtifactId
  sourcePreconditionsDigest : Sha256Digest
  entries : List SealedBaselineEntry
  directories : List String
  deriving DecidableEq, Repr

structure SanitizedStage where
  manifest : StageManifest
  baseline : SealedBaseline
  exclusions : List StageExclusion
  deriving DecidableEq, Repr

/-! ## Proposals -/

structure ExactReplacementProposal where
  artifactId : ArtifactId
  payloadArtifactId : ArtifactId
  baselineManifestDigest : Sha256Digest
  candidateManifestDigest : Sha256Digest
  path : String
  expectedLiveHash : Sha256Digest
  beforeHash : Sha256Digest
  afterHash : Sha256Digest
  payloadHash : Sha256Digest
  payload : List UInt8
  deriving DecidableEq, Repr

inductive ProposalOutcome where
  | noChanges
  | exactReplacement (proposal : ExactReplacementProposal)
  deriving DecidableEq, Repr

def asBytes (text : String) : List UInt8 :=
  Text.utf8 text.toList

/-- A component that is not a plain name, as a Unix path is split: the root, a
reference to the parent, or a leading reference to the directory itself. -/
def hasAbnormalComponent (path : String) : Bool :=
  path.toList.head? == some '/' ||
    (RelativePath.components path).any (· == ['.', '.']) ||
    (RelativePath.components path).head? == some ['.']

def manifestRecord (pathLength : List UInt8) (entry : StageManifestEntry) : List UInt8 :=
  pathLength ++ asBytes entry.path ++ bigEndian 8 entry.bytes ++ entry.contentDigest.asBytes

def canonicalManifestStep (acc : Nat × List UInt8)
    (entry : StageManifestEntry) : Except StageError (Nat × List UInt8) := do
  let total ← (accountPathBytes acc.1 entry.path).mapError fun _ =>
    .new .limitExceeded
  let pathLength ← lengthBytes entry.path.utf8ByteSize (.new .invalidEntry)
  rejectIf (hasAbnormalComponent entry.path) (.new .invalidEntry)
  .ok (total, acc.2 ++ manifestRecord pathLength entry)

def canonicalManifestBytes (entries : List StageManifestEntry) :
    Except StageError (List UInt8) := do
  let (_, bytes) ← entries.foldlM canonicalManifestStep (0, [])
  .ok bytes

def StageManifest.canonicalBytes (manifest : StageManifest) : Except StageError (List UInt8) :=
  canonicalManifestBytes manifest.entries

structure SourcePreconditionRef where
  path : String
  bytes : Nat
  contentDigest : Sha256Digest
  platform : IdentityPlatform
  identityA : String
  identityB : String
  ownerId : String
  ownerMode : Option Nat

def SealedBaselineEntry.precondition (entry : SealedBaselineEntry) : SourcePreconditionRef :=
  { path := entry.path, bytes := entry.bytes, contentDigest := entry.contentDigest,
    platform := entry.sourceIdentity.platform, identityA := entry.sourceIdentity.identityA,
    identityB := entry.sourceIdentity.identityB, ownerId := entry.sourceIdentity.ownerId,
    ownerMode := entry.sourceIdentity.ownerMode }

def sourcePreconditionsDomain : String := "carl.source-preconditions.v1\x00"

def appendText (bytes : List UInt8) (value : String) : Except StageError (List UInt8) := do
  let length ← lengthBytes value.utf8ByteSize (.new .invalidEntry)
  .ok (bytes ++ length ++ asBytes value)

def IdentityPlatform.byte : IdentityPlatform → UInt8
  | unix => 0
  | windows => 1

def ownerModeBytes : Option Nat → Except StageError (List UInt8)
  | some mode => do
    rejectIf (mode > 0o7777) (.new .invalidEntry)
    .ok (1 :: bigEndian 4 mode)
  | none => .ok [0]

def sourcePreconditionStep (acc : Nat × List UInt8) (entry : SourcePreconditionRef) :
    Except StageError (Nat × List UInt8) := do
  let total ← (accountPathBytes acc.1 entry.path).mapError fun _ =>
    .new .limitExceeded
  let bytes ← appendText acc.2 entry.path
  let bytes := bytes ++ bigEndian 8 entry.bytes ++
    entry.contentDigest.asBytes ++ [entry.platform.byte]
  let bytes ← appendText bytes entry.identityA
  let bytes ← appendText bytes entry.identityB
  let bytes ← appendText bytes entry.ownerId
  let mode ← ownerModeBytes entry.ownerMode
  .ok (total, bytes ++ mode)

def canonicalSourcePreconditions (manifestDigest : Sha256Digest)
    (entries : List SourcePreconditionRef) : Except StageError (List UInt8) := do
  let count ← lengthBytes entries.length (.new .limitExceeded)
  let (_, bytes) ← entries.foldlM sourcePreconditionStep
    (0, asBytes sourcePreconditionsDomain ++ manifestDigest.asBytes ++ count)
  .ok bytes

def proposalDomain : String := "carl.exact-replacement.v1\x00"

def canonicalProposalEnvelope (baseline : Sha256Digest) (path : String)
    (expectedLive before after payloadHash : Sha256Digest)
    (payload : List UInt8) : Except ProposalError (List UInt8) := do
  let pathLength ← lengthBytes path.utf8ByteSize (.at .limitExceeded path)
  rejectIf (payload.length ≥ 2 ^ 64) (.at .limitExceeded path)
  .ok (asBytes proposalDomain ++ baseline.asBytes ++
    pathLength ++ asBytes path ++ expectedLive.asBytes ++ before.asBytes ++ after.asBytes ++
    payloadHash.asBytes ++ bigEndian 8 payload.length ++ payload)

section Digests

variable (sha256 : Sha256)

def buildManifest (totalBytes : Nat) (entries : List StageManifestEntry) :
    Except StageError StageManifest := do
  let canonical ← canonicalManifestBytes entries
  .ok { digest := sha256 canonical, totalBytes, entries }

end Digests

def toAsciiLowercase (text : String) : String :=
  String.ofList (text.toList.map Text.toAsciiLowercase)

def protectedDirectory (name : String) : Bool :=
  [".git", ".carl", ".codex", ".grok", ".xai", ".openai", ".claude",
    ".cursor", "hooks", "plugins", "skills", "commands"].contains (toAsciiLowercase name)

def compatibilityInstruction (relative name : String) : Bool :=
  ["agents.md", "claude.md", "gemini.md", ".cursorrules"].contains (toAsciiLowercase name) ||
    toAsciiLowercase relative == ".github/copilot-instructions.md"

def excludedFile (relative name : String) : Option StageExclusionReason :=
  if relative = ".mcp.json" then some .protectedPath
  else if compatibilityInstruction relative name then
    some .compatibilityInstruction
  else
    let lower := (toAsciiLowercase name).toList
    if lower == ".env".toList || Text.startsWith ".env.".toList lower ||
        [".pem", ".key", ".p12", ".pfx", ".crt", ".cer"].any fun extension =>
          Text.endsWith extension.toList lower then
      some .sensitiveFilename
    else none

end CarlAgent.Staging

/-!
## The artifact store

Objects are addressed by the digest of their bytes.  What was put can be read
back, and a later put changes no object that was there.
-/

namespace CarlAgent.Staging

open Foundation CarlAgent.Task

inductive ArtifactErrorCode where
  | invalidRoot
  | limitExceeded
  | corrupt
  | failedIo
  deriving DecidableEq, Repr

def maxArtifactBytes : Nat := 128 * 1024 * 1024
def maxArtifactStoreBytes : Nat := 1024 * 1024 * 1024
def maxArtifactObjects : Nat := 200000

structure ArtifactStore where
  objects : List (List UInt8)
  deriving DecidableEq, Repr

structure StoredArtifact where
  id : ArtifactId
  bytes : List UInt8
  deriving DecidableEq, Repr

namespace ArtifactStore

section Access

variable (sha256 : Sha256)

def readVerified (store : ArtifactStore) (id : ArtifactId) :
    Except ArtifactErrorCode StoredArtifact := do
  let bytes ← requireSome (store.objects.find? fun bytes => decide (sha256 bytes = id)) .corrupt
  rejectIf (bytes.length > maxArtifactBytes) .limitExceeded
  .ok { id, bytes }

def ensureCanAdd (store : ArtifactStore) (byteLength : Nat) : Except ArtifactErrorCode Unit :=
  rejectIf (store.objects.length + 1 > maxArtifactObjects ∨
    (store.objects.map List.length).sum + byteLength > maxArtifactStoreBytes) .limitExceeded

def put (store : ArtifactStore) (bytes : List UInt8) :
    Except ArtifactErrorCode (StoredArtifact × ArtifactStore) := do
  rejectIf (bytes.length > maxArtifactBytes) .limitExceeded
  let id := sha256 bytes
  if store.objects.any fun object => decide (sha256 object = id) then do
    let stored ← store.readVerified sha256 id
    rejectIf (stored.bytes ≠ bytes) .corrupt
    .ok (stored, store)
  else do
    store.ensureCanAdd bytes.length
    .ok ({ id, bytes }, { objects := store.objects ++ [bytes] })

/-- Every object that can be read in the first store can be read in the
second. -/
def Keeps (first second : ArtifactStore) : Prop :=
  ∀ id stored, first.readVerified sha256 id = .ok stored →
    second.readVerified sha256 id = .ok stored

end Access

section Facts

variable {sha256 : Sha256} {store later : ArtifactStore}

theorem readVerified_eq_ok {id : ArtifactId} {stored : StoredArtifact} :
    store.readVerified sha256 id = .ok stored ↔
      store.objects.find? (fun bytes => decide (sha256 bytes = id)) = some stored.bytes ∧
        stored.bytes.length ≤ maxArtifactBytes ∧ stored.id = id := by
  simp only [readVerified, ok_iff, not_lt]
  constructor
  · rintro ⟨bytes, hfind, hlength, rfl⟩
    exact ⟨hfind, hlength, rfl⟩
  · rintro ⟨hfind, hlength, hid⟩
    exact ⟨stored.bytes, hfind, hlength, by rw [← hid]⟩

theorem Keeps.refl (store : ArtifactStore) : Keeps sha256 store store :=
  fun _ _ h => h

theorem Keeps.trans {middle : ArtifactStore} (h₁ : Keeps sha256 store middle)
    (h₂ : Keeps sha256 middle later) : Keeps sha256 store later :=
  fun id stored h => h₂ id stored (h₁ id stored h)

theorem put_eq_ok {bytes : List UInt8} {stored : StoredArtifact}
    (h : store.put sha256 bytes = .ok (stored, later)) :
    stored = { id := sha256 bytes, bytes } ∧
      later.readVerified sha256 (sha256 bytes) = .ok stored ∧
      Keeps sha256 store later := by
  simp only [put, ok_iff, not_lt] at h
  obtain ⟨hlength, h⟩ := h
  split at h
  · simp only [ok_iff, ne_eq, not_not, Prod.mk.injEq] at h
    obtain ⟨found, hread, hbytes, rfl, rfl⟩ := h
    refine ⟨?_, hread, Keeps.refl store⟩
    have hid := (readVerified_eq_ok.mp hread).2.2
    cases found
    simp_all
  · rename_i hnew
    simp only [ok_iff, Prod.mk.injEq] at h
    obtain ⟨-, -, rfl, rfl⟩ := h
    have habsent : store.objects.find?
        (fun object => decide (sha256 object = sha256 bytes)) = none := by
      simpa using hnew
    refine ⟨rfl, ?_, ?_⟩
    · rw [readVerified_eq_ok]
      refine ⟨?_, hlength, rfl⟩
      simp [List.find?_append, habsent]
    · intro id kept hkept
      obtain ⟨hfind, hkeptLength, hid⟩ := readVerified_eq_ok.mp hkept
      refine readVerified_eq_ok.mpr ⟨?_, hkeptLength, hid⟩
      simp [List.find?_append, hfind]

end Facts

end ArtifactStore

end CarlAgent.Staging
