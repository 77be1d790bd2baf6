import CarlAgent.Foundation.HardLinks
import CarlAgent.Foundation.Program
import CarlAgent.Staging.Types
import CarlAgent.Task.Context

/-!
# The artifact store on disk

Publication goes through a temporary file that is written, sealed, linked
under its canonical name and unlinked.  Every change of the directory is a step
at which the process may stop, in the middle of a write too; a stop loses the
usage kept in memory.  The directory belongs to one process at a time and has
no other writer, so a second look at a name finds the file of the first.
-/

namespace CarlAgent.Artifacts

open Foundation CarlAgent.Task Staging

/-- The names the store gives: the text of a digest, or `.tmp-` and an
identifier. -/
inductive ObjectName where
  | canonical (id : ArtifactId)
  | temporary (identifier : String)
  deriving DecidableEq, Repr

def maxArtifactDirectoryEntries : Nat := 400000

structure ArtifactUsage where
  objects : Nat
  bytes : Nat
  deriving DecidableEq, Repr

namespace ArtifactUsage

variable (usage : ArtifactUsage) (byteLength : Nat)

def ensureCanAdd : Except ArtifactErrorCode Unit :=
  rejectIf (usage.objects + 1 > maxArtifactObjects ∨
    usage.bytes + byteLength > maxArtifactStoreBytes) .limitExceeded

def includeExisting :
    Except ArtifactErrorCode ArtifactUsage := do
  rejectIf (usage.objects + 1 > maxU64) .limitExceeded
  rejectIf (usage.bytes + byteLength > maxU64) .limitExceeded
  .ok ⟨usage.objects + 1, usage.bytes + byteLength⟩

def add : Except ArtifactErrorCode ArtifactUsage := do
  usage.ensureCanAdd byteLength
  usage.includeExisting byteLength

def remove : Except ArtifactErrorCode ArtifactUsage := do
  rejectIf (usage.objects < 1) .corrupt
  rejectIf (usage.bytes < byteLength) .corrupt
  .ok ⟨usage.objects - 1, usage.bytes - byteLength⟩

end ArtifactUsage

abbrev Objects := Directory ObjectName

/-- The directory, and the process that has it open while it runs.  `stop`
counts the changes of the directory until the process stops, if it does. -/
structure Machine where
  disk : Objects
  usage : ArtifactUsage
  running : Bool
  stop : Option Nat

abbrev Call (α : Type) := Program Unit Machine ArtifactErrorCode α

namespace Call

def check {α : Type} : Except ArtifactErrorCode α → Call α
  | .ok a => pure a
  | .error error => Program.fail error

/-- One step of the file system, unless the process stops before it. -/
def change (f : Objects → Option Objects) : Call Unit :=
  ⟨fun _ machine =>
    match machine.stop with
    | some 0 => (.stopped, { machine with running := false })
    | stop =>
      match f machine.disk with
      | some disk =>
        (.returned (), { machine with disk, stop := stop.map (· - 1) })
      | none => (.failed .failedIo, machine)⟩

def pause : Call Unit := change some

def disk : Call Objects := Program.read (·.disk)

def usage : Call ArtifactUsage := Program.read (·.usage)

def setUsage (usage : ArtifactUsage) : Call Unit :=
  Program.update fun machine => { machine with usage }

end Call

def verifySealedFile (disk : Objects) (number : Nat) : Except ArtifactErrorCode Unit :=
  rejectIf (¬ (disk.links number = 1 ∧
    (disk.files number).mode &&& 0o077 = 0 ∧
    (disk.files number).mode &&& 0o222 = 0)) .corrupt

def verifyPrivateTemporary (disk : Objects) (number : Nat) : Except ArtifactErrorCode Unit :=
  rejectIf (¬ (disk.links number = 1 ∧ (disk.files number).mode &&& 0o077 = 0)) .corrupt

def verifyRecoverablePublication (disk : Objects) (number : Nat) : Except ArtifactErrorCode Unit :=
  rejectIf (¬ (disk.links number = 2 ∧
    (disk.files number).mode &&& 0o077 = 0 ∧
    (disk.files number).mode &&& 0o222 = 0)) .corrupt

section Operations

open Call (change check pause setUsage)

variable (sha256 : Sha256) (disk : Objects)

def readNamedVerified (name : ObjectName) (id : ArtifactId) :
    Except ArtifactErrorCode StoredArtifact := do
  let number ← requireSome (disk.lookup name) .corrupt
  verifySealedFile disk number
  let bytes := (disk.files number).bytes
  rejectIf (bytes.length > maxArtifactBytes) .limitExceeded
  rejectIf (sha256 bytes ≠ id) .corrupt
  .ok { id, bytes }

def readVerified (id : ArtifactId) : Except ArtifactErrorCode StoredArtifact :=
  readNamedVerified sha256 disk (.canonical id) id

def createPrivateFile (name : ObjectName) : Call Unit :=
  change (·.create name 0o600)

def writeAll (name : ObjectName) : List UInt8 → Call Unit
  | [] => pure ()
  | byte :: bytes => do
    change fun disk =>
      (disk.lookup name).map fun number =>
        disk.modify number fun file =>
          { file with bytes := file.bytes ++ [byte] }
    writeAll name bytes

def sealCreatedFile (name : ObjectName) : Call Unit := do
  change fun disk =>
    (disk.lookup name).map fun number =>
      disk.modify number fun file => { file with mode := 0o400 }
  let disk ← Call.disk
  let number ← check (requireSome (disk.lookup name) .failedIo)
  check (verifySealedFile disk number)

def removeTemporaryObject (name : ObjectName) : Call Unit :=
  change fun disk =>
    (disk.lookup name).map fun _ => disk.unlink name

def prepare (name : ObjectName) (id : ArtifactId) (bytes : List UInt8) : Call Unit := do
  writeAll name bytes
  sealCreatedFile name
  let disk ← Call.disk
  let prepared ← check (readNamedVerified sha256 disk name id)
  check (rejectIf (prepared.bytes ≠ bytes) .corrupt)

/-- Take a refused publication back, and report why it was refused. -/
def withdraw (name : ObjectName) (error : ArtifactErrorCode) : Call Unit := do
  removeTemporaryObject name
  Program.fail error

def settle (name : ObjectName) : Except ArtifactErrorCode Unit → Call Unit
  | .error error => withdraw name error
  | .ok () => pure ()

def hardLink (name : ObjectName) (id : ArtifactId) (byteLength : Nat) :
    Call Unit := do
  let disk ← Call.disk
  match disk.lookup (.canonical id) with
  | some _ => withdraw name .corrupt
  | none => do
    change fun disk =>
      (disk.lookup name).bind (disk.link (.canonical id))
    let usage ← Call.usage
    let added ← check (usage.add byteLength)
    setUsage added

def publish (name : ObjectName) (id : ArtifactId) (bytes : List UInt8) : Call StoredArtifact := do
  createPrivateFile name
  let prepared ← Program.attempt (prepare sha256 name id bytes)
  settle name prepared
  hardLink name id bytes.length
  removeTemporaryObject name
  let disk ← Call.disk
  let stored ← check (readVerified sha256 disk id)
  check (rejectIf (stored.bytes ≠ bytes) .corrupt)
  pause
  pure stored

def put (bytes : List UInt8) (identifier : String) : Call StoredArtifact := do
  check (rejectIf (bytes.length > maxArtifactBytes) .limitExceeded)
  let id := sha256 bytes
  let disk ← Call.disk
  match disk.lookup (.canonical id) with
  | some _ => do
    -- No other thread publishes, so reading again would not help.
    let stored ← check (readVerified sha256 disk id)
    check (rejectIf (stored.bytes ≠ bytes) .corrupt)
    pure stored
  | none => do
    let usage ← Call.usage
    check (usage.ensureCanAdd bytes.length)
    publish sha256 (.temporary identifier) id bytes

/-! ## Inventory and removal -/

structure ArtifactInventory where
  usage : ArtifactUsage
  canonical : List (ArtifactId × Nat)

def inspectEntry (state : Nat × ArtifactInventory) (entry : ObjectName × Nat) :
    Except ArtifactErrorCode (Nat × ArtifactInventory) := do
  let (entriesSeen, inventory) := state
  rejectIf (entriesSeen + 1 > maxArtifactDirectoryEntries) .limitExceeded
  let byteLength := (disk.files entry.2).bytes.length
  let canonical ← match entry.1 with
    | .canonical id => do
      verifySealedFile disk entry.2
      rejectIf (byteLength > maxArtifactBytes) .limitExceeded
      .ok (inventory.canonical ++ [(id, byteLength)])
    | .temporary _ => do
      verifyPrivateTemporary disk entry.2
      .ok inventory.canonical
  let usage ← inventory.usage.includeExisting byteLength
  .ok (entriesSeen + 1, { usage, canonical })

def inspectArtifactDirectory : Except ArtifactErrorCode ArtifactInventory := do
  let (_, inventory) ← disk.entries.foldlM (inspectEntry disk) (0, ⟨⟨0, 0⟩, []⟩)
  .ok inventory

def scanArtifactUsage : Except ArtifactErrorCode ArtifactUsage := do
  let inventory ← inspectArtifactDirectory disk
  .ok inventory.usage

def removeVerifiedCanonicalObject (id : ArtifactId) (expectedLength : Nat) : Call Unit := do
  let disk ← Call.disk
  let number ← check (requireSome (disk.lookup (.canonical id)) .corrupt)
  check (verifySealedFile disk number)
  check (rejectIf ((disk.files number).bytes.length ≠ expectedLength) .corrupt)
  removeTemporaryObject (.canonical id)

def removeUnreferenced (referenced : List ArtifactId) : List (ArtifactId × Nat) → Call Unit
  | [] => pause
  | (id, byteLength) :: rest => do
    if id ∈ referenced then removeUnreferenced referenced rest
    else do
      removeVerifiedCanonicalObject id byteLength
      let usage ← Call.usage
      let removed ← check (usage.remove byteLength)
      setUsage removed
      removeUnreferenced referenced rest

def retainOnly (referenced : List ArtifactId) : Call Unit := do
  let disk ← Call.disk
  let inventory ← check (inspectArtifactDirectory disk)
  removeUnreferenced referenced inventory.canonical

/-- The file has its canonical name too, and only the temporary one goes. -/
def recoverLinked (name : ObjectName) (disk : Objects) (number : Nat) : Call Unit := do
  check (verifyRecoverablePublication disk number)
  let bytes := (disk.files number).bytes
  check (rejectIf (bytes.length > maxArtifactBytes) .limitExceeded)
  let id := sha256 bytes
  let canonical ← check (requireSome (disk.lookup (.canonical id)) .corrupt)
  check (verifyRecoverablePublication disk canonical)
  check (rejectIf (canonical ≠ number) .corrupt)
  removeTemporaryObject name
  let disk ← Call.disk
  let canonical ← check (requireSome (disk.lookup (.canonical id)) .corrupt)
  check (verifySealedFile disk canonical)
  check (rejectIf (canonical ≠ number) .corrupt)

def recoverPublication (identifier : String) : Call Unit := do
  let name := ObjectName.temporary identifier
  let disk ← Call.disk
  let number ← check (requireSome (disk.lookup name) .corrupt)
  if disk.links number = 1 then do
    check (verifyPrivateTemporary disk number)
    removeTemporaryObject name
  else do
    check (rejectIf (disk.links number ≠ 2) .corrupt)
    recoverLinked sha256 name disk number

def recoverEntry : ObjectName → Call Unit
  | .canonical _ => pure ()
  | .temporary identifier => recoverPublication sha256 identifier

def recoverInterruptedPublications (entriesSeen : Nat) : List ObjectName → Call Unit
  | [] => pure ()
  | name :: rest => do
    check (rejectIf (entriesSeen + 1 > maxArtifactDirectoryEntries) .limitExceeded)
    recoverEntry sha256 name
    recoverInterruptedPublications (entriesSeen + 1) rest

def openStore : Call Unit := do
  Program.update fun machine => { machine with running := false }
  let disk ← Call.disk
  recoverInterruptedPublications sha256 0 (disk.entries.map Prod.fst)
  let disk ← Call.disk
  let usage ← check (scanArtifactUsage disk)
  pause
  Program.update fun machine => { machine with usage, running := true }

end Operations

/-- The store of one process after another: a call that may be stopped, or a
directory that is listed in another order. -/
inductive Event where
  | put (bytes : List UInt8) (identifier : String) (stop : Option Nat)
  | retainOnly (referenced : List ArtifactId) (stop : Option Nat)
  | openStore (stop : Option Nat)
  | relist (entries : List (ObjectName × Nat))

/-- `kept` lists the contents that a put has returned and that no later removal
has taken away. -/
structure World where
  machine : Machine
  kept : List (List UInt8)

namespace World

def initial : World :=
  { machine :=
      { disk := Directory.empty, usage := ⟨0, 0⟩, running := false, stop := none }
    kept := [] }

variable (sha256 : Sha256)

def step (world : World) : Event → World
  | .put bytes identifier stop =>
    if world.machine.running then
      match (put sha256 bytes identifier).run ()
          { world.machine with stop } with
      | (.returned _, machine) =>
        { machine, kept := bytes :: world.kept }
      | (_, machine) => { world with machine }
    else world
  | .retainOnly referenced stop =>
    if world.machine.running then
      let machine := ((retainOnly referenced).run () { world.machine with stop }).2
      { machine
        kept := world.kept.filter fun bytes =>
          sha256 bytes ∈ referenced ∨ (machine.disk.lookup (.canonical (sha256 bytes))).isSome }
    else world
  | .openStore stop =>
    { world with
      machine := ((openStore sha256).run () { world.machine with stop }).2 }
  | .relist entries =>
    { world with
      machine := { world.machine with disk := world.machine.disk.relist entries } }

def run (world : World) (events : List Event) : World :=
  events.foldl (step sha256) world

end World

end CarlAgent.Artifacts
