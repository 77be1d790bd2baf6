import CarlAgent.Staging.Builder
import CarlAgent.Foundation.Creation
import CarlAgent.Foundation.Search
import Mathlib.Data.Prod.Lex

/-!
# Inspecting a stage

An inspection scans the directory of the stage and compares what it finds with
the sealed baseline.  The stage does not change during one inspection, so the
two scans that the code compares read the same tree.
-/

namespace CarlAgent.Staging

open Foundation Security CarlAgent.Task RelativePath

def maxEntries : Nat := 100000
def maxTotalBytes : Nat := 100 * 1024 * 1024

structure ScannedFile where
  bytes : List UInt8
  digest : Sha256Digest
  identity : EntryIdentity
  metadataValid : Bool
  deriving DecidableEq

structure ScannedDirectory where
  identity : EntryIdentity
  metadataValid : Bool
  deriving DecidableEq

structure StageSnapshot where
  files : OrderedMap String ScannedFile
  directories : OrderedMap String ScannedDirectory
  entryCount : Nat
  pathBytes : Nat
  totalBytes : Nat
  deriving DecidableEq

def StageSnapshot.empty : StageSnapshot :=
  { files := OrderedMap.empty, directories := OrderedMap.empty, entryCount := 0, pathBytes := 0,
    totalBytes := 0 }

def workDirectoryMetadataValid (euid : Nat) (metadata : FileMetadata) : Bool :=
  metadata.owner == euid && metadata.mode &&& 0o777 == 0o700

def workFileMetadataValid (euid : Nat) (metadata : FileMetadata) : Bool :=
  metadata.owner == euid && metadata.mode &&& 0o777 == 0o600

def verifyWorkDirectory (euid : Nat) (metadata : FileMetadata)
    (path : String) : Except ProposalError Unit :=
  rejectIf (workDirectoryMetadataValid euid metadata = false) (.at .metadataChanged path)

section Scan

variable (sha256 : Sha256) (euid : Nat) (limits : ProposalLimits)

def readWorkFile (metadata : FileMetadata) (bytes : List UInt8)
    (relative : String) : Except ProposalError ScannedFile := do
  rejectIf (metadata.links ≠ 1) (.at .hardLink relative)
  rejectIf (bytes.length > limits.maxFileBytes) (.at .limitExceeded relative)
  rejectIf (isUtf8 bytes = false) (.at .nonUtf8 relative)
  match inspectBytes bytes with
  | .error .nonUtf8 => .error (.at .nonUtf8 relative)
  | .error (.rule rule) => .error (.secret relative rule)
  | .ok () =>
    .ok { bytes, digest := sha256 bytes, identity := fileIdentity metadata,
          metadataValid := workFileMetadataValid euid metadata }

def scannedDirectory (metadata : FileMetadata) : ScannedDirectory :=
  { identity := fileIdentity metadata, metadataValid := workDirectoryMetadataValid euid metadata }

/-- One entry of the stage; `scanChild` descends into a directory. -/
def scanEntry
    (scanChild : String → List StageEntry → StageSnapshot → Except ProposalError StageSnapshot)
    (parent : String) (snapshot : StageSnapshot) (entry : StageEntry) :
    Except ProposalError StageSnapshot := do
  let name ← requireSome entry.1.toStr (.at .entryChanged parent)
  rejectIf (isSafeName name = false) (.at .entryChanged parent)
  let relative := join parent name
  rejectIf (relative.utf8ByteSize > maxRelativePathBytes) (.at .limitExceeded relative)
  let pathBytes ← (accountPathBytes snapshot.pathBytes relative).mapError
    fun _ => .at .limitExceeded relative
  let snapshot := { snapshot with pathBytes }
  match entry.2 with
  | .symlink => .error (.at .redirectedPath relative)
  | .directory metadata children => do
    rejectIf (protectedDirectory name) (.at .protectedPath relative)
    scanChild relative children
      { snapshot with
        directories := snapshot.directories.insert relative (scannedDirectory euid metadata) }
  | .special => do
    rejectIf (protectedDirectory name) (.at .protectedPath relative)
    .error (.at .redirectedPath relative)
  | .file metadata bytes => do
    rejectIf (protectedDirectory name) (.at .protectedPath relative)
    rejectIf ((excludedFile relative name).isSome) (.at .protectedPath relative)
    let file ← readWorkFile sha256 euid limits metadata bytes relative
    let totalBytes := snapshot.totalBytes + file.bytes.length
    rejectIf (totalBytes > maxTotalBytes) (.at .limitExceeded relative)
    .ok { snapshot with totalBytes, files := snapshot.files.insert relative file }

def scanDirectory : Nat → String → List StageEntry → StageSnapshot →
    Except ProposalError StageSnapshot
  | 0, parent, _, _ => .error (.at .limitExceeded parent)
  | levels + 1, parent, entries, snapshot => do
    let remainingEntries := maxEntries - snapshot.entryCount
    rejectIf (entries.length > remainingEntries) (.at .limitExceeded parent)
    (sortByKey (fun entry => entry.1.order) entries).foldlM
      (scanEntry sha256 euid limits (scanDirectory levels) parent)
      { snapshot with entryCount := snapshot.entryCount + entries.length }

def scanStage (tree : StageTree) : Except ProposalError StageSnapshot :=
  scanDirectory sha256 euid limits (maxDepth + 1) "" tree.entries .empty

end Scan

def ensureStableScan (first second : StageSnapshot) : Except ProposalError Unit :=
  if first = second then .ok ()
  else
    let paths := sortDedup id (first.files.keys ++ second.files.keys ++
      first.directories.keys ++ second.directories.keys)
    let changed := (paths.find? fun path =>
      first.files.find? path != second.files.find? path ||
        first.directories.find? path != second.directories.find? path).getD ""
    .error (.at .entryChanged changed)

/-! ## Comparison with the baseline -/

section Inspect

variable (sha256 : Sha256) (artifacts : ArtifactStore) (baseline : SealedBaseline)

def verifyBaseline :
    Except ProposalError Unit := do
  let manifest ← (artifacts.readVerified sha256
    baseline.manifestArtifactId).mapError fun _ => .new .artifactCorrupt
  let expectedManifest ← baseline.manifest.canonicalBytes.mapError fun _ =>
    .new .artifactCorrupt
  rejectIf (manifest.bytes ≠ expectedManifest) (.new .artifactCorrupt)
  baseline.entries.forM fun entry => do
    let artifact ← (artifacts.readVerified sha256
      entry.contentArtifactId).mapError fun _ =>
        .at .artifactCorrupt entry.path
    rejectIf (artifact.bytes.length ≠ entry.bytes ∨
      sha256 artifact.bytes ≠ entry.contentDigest) (.at .artifactCorrupt entry.path)

def replaceFirst (path : String) (replacement : StageManifestEntry) :
    List StageManifestEntry → Option (List StageManifestEntry)
  | [] => none
  | entry :: rest =>
    if entry.path = path then some (replacement :: rest)
    else (replaceFirst path replacement rest).map (entry :: ·)

def candidateManifestDigest (changedPath : String)
    (after : ScannedFile) : Except ProposalError Sha256Digest := do
  let entries ← requireSome (replaceFirst changedPath
      { path := changedPath, bytes := after.bytes.length,
        contentDigest := after.digest } baseline.manifest.entries)
    (.at .entryChanged changedPath)
  let before ← requireSome (baseline.entries.find? fun entry => decide (entry.path = changedPath))
    (.at .entryChanged changedPath)
  let totalBytes ← requireSome (if before.bytes ≤ baseline.manifest.totalBytes ∧
        baseline.manifest.totalBytes - before.bytes + after.bytes.length < 2 ^ 64 then
      some (baseline.manifest.totalBytes - before.bytes + after.bytes.length)
    else none) (.at .limitExceeded changedPath)
  let manifest ← (buildManifest sha256 totalBytes entries).mapError fun _ =>
    .at .entryChanged changedPath
  .ok manifest.digest

def proposeReplacement
    (beforeEntry : SealedBaselineEntry) (path : String) (after : ScannedFile) :
    Except ProposalError (ProposalOutcome × ArtifactStore) := do
  let before ← (artifacts.readVerified sha256
    beforeEntry.contentArtifactId).mapError fun _ =>
      .at .artifactCorrupt path
  let (payloadArtifact, artifacts) ←
    (artifacts.put sha256 after.bytes).mapError fun _ =>
      .at .artifactCorrupt path
  rejectIf (payloadArtifact.id ≠ after.digest) (.at .artifactCorrupt path)
  let candidate ← candidateManifestDigest sha256 baseline path after
  let envelope ← canonicalProposalEnvelope baseline.manifest.digest path
    beforeEntry.contentDigest beforeEntry.contentDigest after.digest
    after.digest after.bytes
  let (proposalArtifact, artifacts) ←
    (artifacts.put sha256 envelope).mapError fun _ =>
      .at .artifactCorrupt path
  let proposal : ExactReplacementProposal :=
    { artifactId := proposalArtifact.id, payloadArtifactId := payloadArtifact.id,
      baselineManifestDigest := baseline.manifest.digest, candidateManifestDigest := candidate,
      path, expectedLiveHash := beforeEntry.contentDigest, beforeHash := sha256 before.bytes,
      afterHash := after.digest, payloadHash := sha256 payloadArtifact.bytes,
      payload := payloadArtifact.bytes }
  let sealed ← canonicalProposalEnvelope proposal.baselineManifestDigest
    proposal.path proposal.expectedLiveHash proposal.beforeHash
    proposal.afterHash proposal.payloadHash proposal.payload
  rejectIf (proposal.beforeHash ≠ beforeEntry.contentDigest ∨
    proposal.afterHash ≠ proposal.payloadHash ∨ sealed ≠ envelope) (.at .artifactCorrupt path)
  .ok (.exactReplacement proposal, artifacts)

def changedFiles (baselineEntries : OrderedMap String SealedBaselineEntry)
    (snapshot : StageSnapshot) : List (SealedBaselineEntry × ScannedFile) :=
  baselineEntries.entries.filterMap fun entry =>
    match snapshot.files.find? entry.1 with
    | some current =>
      if current.digest ≠ entry.2.contentDigest then
        some (entry.2, current)
      else none
    | none => none

def sealedEntries : OrderedMap String SealedBaselineEntry :=
  OrderedMap.ofList (baseline.entries.map fun entry => (entry.path, entry))

def inspectSnapshot
    (snapshot : StageSnapshot) : Except ProposalError (ProposalOutcome × ArtifactStore) := do
  let baselineDirectories := sortDedup id baseline.directories
  let currentDirectories := snapshot.directories.keys
  match currentDirectories.find? fun path =>
      !baselineDirectories.contains path with
  | some created => .error (.at .createdFile created)
  | none => do
  match baselineDirectories.find? fun path =>
      !currentDirectories.contains path with
  | some deleted => .error (.at .deletedFile deleted)
  | none => do
  match snapshot.directories.entries.find? fun entry =>
      baselineDirectories.contains entry.1 && !entry.2.metadataValid with
  | some entry => .error (.at .metadataChanged entry.1)
  | none => do
  let baselineEntries := sealedEntries baseline
  let currentPaths := snapshot.files.keys
  let baselinePaths := baselineEntries.keys
  let created := currentPaths.filter fun path => !baselinePaths.contains path
  let deleted := baselinePaths.filter fun path => !currentPaths.contains path
  match created, deleted with
  | [createdPath], [deletedPath] => do
    if (snapshot.files.find? createdPath).map ScannedFile.digest =
        (baselineEntries.find? deletedPath).map SealedBaselineEntry.contentDigest then
      .error (.at .renamedFile deletedPath)
    else .error (.at .createdFile createdPath)
  | createdPath :: _, _ => .error (.at .createdFile createdPath)
  | [], deletedPath :: _ => .error (.at .deletedFile deletedPath)
  | [], [] => do
  match snapshot.files.entries.find? fun entry =>
      baselinePaths.contains entry.1 && !entry.2.metadataValid with
  | some entry => .error (.at .metadataChanged entry.1)
  | none => do
  match changedFiles baselineEntries snapshot with
  | [] => .ok (.noChanges, artifacts)
  | [(beforeEntry, after)] =>
    proposeReplacement sha256 artifacts baseline beforeEntry beforeEntry.path after
  | _ :: (second, _) :: _ => .error (.at .multipleFiles second.path)

def inspectProposal (euid : Nat) (limits : ProposalLimits) (stage : SanitizedStage)
    (tree : StageTree) (artifacts : ArtifactStore) :
    Except ProposalError (ProposalOutcome × ArtifactStore) := do
  verifyBaseline sha256 artifacts stage.baseline
  verifyWorkDirectory euid tree.metadata ""
  let first ← scanStage sha256 euid limits tree
  let second ← scanStage sha256 euid limits tree
  ensureStableScan first second
  inspectSnapshot sha256 artifacts stage.baseline first

end Inspect

/-!
## Candidates of a verification

A candidate is rebuilt from the directories of a baseline and the files of a
proposal, after a check of its topology.  It is sealed by a scan that must find
exactly these directories and files.
-/

open Foundation CarlAgent.Task

structure CandidateFile where
  path : String
  bytes : List UInt8
  deriving DecidableEq, Repr

def improperComponent (component : List Char) : Bool :=
  component == [] || component == ['.'] || component == ['.', '.']

def relativePathRejected (path : String) : Bool :=
  path == "" || decide (path.utf8ByteSize > maxRelativePathBytes) ||
    path.toList.contains '\\' ||
    (components path).any improperComponent

def startsWithSeparator (path : String) : Bool :=
  path.toList.head? == some '/'

def endsWithSeparator (path : String) : Bool :=
  path.toList.getLast? == some '/'

def validateRelativePath (relative : String) : Except StageError Unit :=
  rejectIf (relativePathRejected relative || startsWithSeparator relative)
    (.at .invalidEntry relative)

def splitRelativePath (relative : String) : Except StageError (String × String) := do
  validateRelativePath relative
  .ok ((split? relative).getD ("", relative))

def pathDepth (relative : String) : Nat :=
  separators relative

def maxCleanupEntries : Nat := 100000

def topologyDirectory (acc : Nat × List String) (directory : String) :
    Except StageError (Nat × List String) := do
  validateRelativePath directory
  let pathBytes ← (accountPathBytes acc.1 directory).mapError fun _ =>
    .new .limitExceeded
  rejectIf (directory ∈ acc.2) (.at .invalidEntry directory)
  let directorySet := directory :: acc.2
  let (parent, _) ← splitRelativePath directory
  rejectIf (parent ≠ "" ∧ parent ∉ directorySet) (.at .invalidEntry directory)
  .ok (pathBytes, directorySet)

structure TopologyFiles where
  pathBytes : Nat
  fileSet : List String
  totalBytes : Nat

def topologyFile (directorySet : List String) (acc : TopologyFiles)
    (file : CandidateFile) : Except StageError TopologyFiles := do
  validateRelativePath file.path
  let pathBytes ← (accountPathBytes acc.pathBytes file.path).mapError fun _ =>
    .new .limitExceeded
  rejectIf (file.path ∈ acc.fileSet ∨ file.path ∈ directorySet) (.at .invalidEntry file.path)
  let (parent, _) ← splitRelativePath file.path
  rejectIf (parent ≠ "" ∧ parent ∉ directorySet) (.at .invalidEntry file.path)
  rejectIf (file.bytes.length > 1024 * 1024) (.at .limitExceeded file.path)
  let totalBytes := acc.totalBytes + file.bytes.length
  rejectIf (totalBytes > 100 * 1024 * 1024) (.new .limitExceeded)
  .ok { pathBytes, fileSet := file.path :: acc.fileSet, totalBytes }

def validateCandidateTopology (directories : List String)
    (files : List CandidateFile) : Except StageError Unit := do
  rejectIf (directories.length + files.length > maxCleanupEntries) (.new .limitExceeded)
  let (pathBytes, directorySet) ← directories.foldlM topologyDirectory (0, [])
  let _ ← files.foldlM (topologyFile directorySet) { pathBytes, fileSet := [], totalBytes := 0 }
  .ok ()

def createAt (tree : StageTree) (relative : String)
    (entry : NewEntry FileMetadata) : Except StageError StageTree := do
  let (parentRelative, name) ← splitRelativePath relative
  (tree.create (names parentRelative) name entry).mapError
    fun error => match error with
      | .missingDirectory => .at .invalidEntry parentRelative
      | .refused => .at .failedIo relative

section Reconstruct

variable (system : FileSystem)

def newDirectory (relative : String) : NewEntry FileMetadata :=
  .directory (system.createPrivateDirectory relative)

def newFile (file : CandidateFile) : NewEntry FileMetadata :=
  .file (system.createPrivateFile file.path) file.bytes

def emptyWorkRoot : StageTree :=
  { metadata := system.createPrivateDirectory "", entries := [], wellFormed := .nil }

def orderedDirectories (directories : List String) : List String :=
  sortByKey (fun path => toLex (pathDepth path, path)) directories

def reconstruct (directories : List String) (files : List CandidateFile) :
    Except StageError StageTree := do
  validateCandidateTopology directories files
  let tree ← (orderedDirectories directories).foldlM
    (fun tree relative => createAt tree relative (newDirectory system relative))
    (emptyWorkRoot system)
  files.foldlM (fun tree file => createAt tree file.path (newFile system file)) tree

end Reconstruct

/-- What the modules that spell a list of directories differ in. -/
structure DirectoryRules (ε : Type) where
  domain : String
  maxPathBytes : Nat
  rejects : String → Bool
  count : ε
  invalid : String → ε
  orphan : String → ε
  aggregate : String → ε
  tooLong : String → ε

namespace DirectoryRules

variable {ε : Type} (rules : DirectoryRules ε) (directories : List String)

def checkParent (directory : String) : Except ε Unit :=
  match split? directory with
  | some (parent, _) =>
    rejectIf (binarySearch id parent directories = none) (rules.orphan directory)
  | none => .ok ()

/-- The last directory, the bytes of the paths and the bytes of the manifest. -/
def step (acc : Option String × Nat × List UInt8) (directory : String) :
    Except ε (Option String × Nat × List UInt8) := do
  rejectIf (rules.rejects directory || acc.1.any (directory ≤ ·)) (rules.invalid directory)
  rules.checkParent directories directory
  let pathBytes := acc.2.1 + directory.utf8ByteSize
  rejectIf (pathBytes > rules.maxPathBytes) (rules.aggregate directory)
  let length ← lengthBytes directory.utf8ByteSize (rules.tooLong directory)
  .ok (some directory, pathBytes, acc.2.2 ++ length ++ asBytes directory)

def manifest : Except ε (List UInt8) := do
  let count ← lengthBytes directories.length rules.count
  let (_, _, bytes) ← directories.foldlM (rules.step directories)
    (none, 0, asBytes rules.domain ++ count)
  .ok bytes

end DirectoryRules

def directoryManifestDomain : String := "carl.baseline-directories.v1\x00"

def canonicalDirectoryManifest : List String → Except ProposalError (List UInt8) :=
  DirectoryRules.manifest
    { domain := directoryManifestDomain
      maxPathBytes := maxAggregatePathBytes
      rejects := fun directory => relativePathRejected directory ||
        startsWithSeparator directory || endsWithSeparator directory
      count := .new .limitExceeded
      invalid := .at .entryChanged
      orphan := .at .entryChanged
      aggregate := .at .limitExceeded
      tooLong := .at .limitExceeded }

/-! ## The seal of a candidate -/

structure CandidateSnapshotSeal where
  snapshot : StageSnapshot
  manifestDigest : Sha256Digest
  directoryManifestDigest : Sha256Digest
  deriving DecidableEq

def CandidateSnapshotSeal.matchesExpectedManifest (sealed : CandidateSnapshotSeal)
    (manifestDigest directoryManifestDigest : Sha256Digest) : Bool :=
  sealed.manifestDigest == manifestDigest &&
    sealed.directoryManifestDigest == directoryManifestDigest

/-- The last path and the bytes of the expected files so far. -/
def sealEntry (snapshot : StageSnapshot) (acc : Option String × Nat)
    (expected : StageManifestEntry) :
    Except ProposalError (Option String × Nat) := do
  rejectIf (acc.1.any (expected.path ≤ ·)) (.new .entryChanged)
  let scanned ← requireSome (snapshot.files.find? expected.path) (.at .entryChanged expected.path)
  rejectIf (scanned.metadataValid = false ∨
    scanned.bytes.length ≠ expected.bytes ∨
    scanned.digest ≠ expected.contentDigest) (.at .entryChanged expected.path)
  let expectedTotal := acc.2 + expected.bytes
  rejectIf (expectedTotal ≥ 2 ^ 64) (.new .limitExceeded)
  .ok (some expected.path, expectedTotal)

def unexpectedFile (snapshot : StageSnapshot)
    (expectedEntries : List StageManifestEntry) : String :=
  (snapshot.files.keys.find? fun path =>
    (binarySearch StageManifestEntry.path path expectedEntries).isNone).getD ""

def unexpectedDirectory (snapshot : StageSnapshot) (expectedDirectories : List String) : String :=
  (snapshot.directories.keys.find? fun path =>
    !expectedDirectories.contains path).getD ""

section Seal

variable (sha256 : Sha256)

def sealExpectedSnapshot (snapshot : StageSnapshot) (expectedEntries : List StageManifestEntry)
    (expectedDirectories : List String) : Except ProposalError CandidateSnapshotSeal := do
  let (_, expectedTotal) ← expectedEntries.foldlM (sealEntry snapshot) (none, 0)
  rejectIf (snapshot.files.keys.length ≠ expectedEntries.length ∨
    snapshot.totalBytes ≠ expectedTotal)
    (.at .entryChanged (unexpectedFile snapshot expectedEntries))
  let expectedDirectorySet := sortDedup id expectedDirectories
  rejectIf (expectedDirectorySet.length ≠ expectedDirectories.length ∨
    snapshot.directories.keys.length ≠ expectedDirectories.length ∨
    (snapshot.directories.entries.any fun entry =>
      !entry.2.metadataValid || !expectedDirectorySet.contains entry.1))
    (.at .entryChanged (unexpectedDirectory snapshot expectedDirectories))
  let directoryManifest ← canonicalDirectoryManifest expectedDirectories
  let manifest ← (buildManifest sha256 expectedTotal expectedEntries).mapError
    fun _ => .new .entryChanged
  .ok { snapshot, manifestDigest := manifest.digest,
        directoryManifestDigest := sha256 directoryManifest }

def inspectVerificationCandidate (euid : Nat) (limits : ProposalLimits) (root : StageTree)
    (expectedEntries : List StageManifestEntry) (expectedDirectories : List String) :
    Except ProposalError CandidateSnapshotSeal := do
  verifyWorkDirectory euid root.metadata ""
  let first ← scanStage sha256 euid limits root
  let second ← scanStage sha256 euid limits root
  ensureStableScan first second
  sealExpectedSnapshot sha256 first expectedEntries expectedDirectories

end Seal

end CarlAgent.Staging
