import CarlAgent.Engine.Runtime

/-!
# Native tools

The five tools that a native agent may call.  A call is first prepared, which
checks its arguments against the workspace, and executed later.  A workspace is
given by what its paths hold at one moment; what a tool reads or starts while
it executes is an input, except for a patch, whose checks and output depend on
the files alone.
-/

namespace CarlAgent.Native

open Foundation CarlAgent.Task

def maxArgumentBytes : Nat := 1024 * 1024
def maxFileBytes : Nat := 1024 * 1024
def maxPatchChanges : Nat := 128
def maxQueryBytes : Nat := 4096
def maxCommandArguments : Nat := 128
def maxCommandArgumentBytes : Nat := 8 * 1024
def maxTimeoutSeconds : Nat := 120

inductive ToolEffectKind where
  | read
  | write
  | command
  deriving DecidableEq, Repr

def ToolEffectKind.byte : ToolEffectKind → UInt8
  | read => 0
  | write => 1
  | command => 2

inductive NativeToolErrorCode where
  | unknownTool
  | invalidArguments
  | unsafePath
  | permissionDenied
  | workspaceChanged
  | secretDetected
  | outputTooLarge
  | commandFailed
  | timedOut
  | cancelled
  | failedIo
  deriving DecidableEq, Repr

def NativeToolErrorCode.debugName : NativeToolErrorCode → String
  | unknownTool => "UnknownTool"
  | invalidArguments => "InvalidArguments"
  | unsafePath => "UnsafePath"
  | permissionDenied => "PermissionDenied"
  | workspaceChanged => "WorkspaceChanged"
  | secretDetected => "SecretDetected"
  | outputTooLarge => "OutputTooLarge"
  | commandFailed => "CommandFailed"
  | timedOut => "TimedOut"
  | cancelled => "Cancelled"
  | failedIo => "Io"

structure ReadArguments where
  path : String
  startLine : Option Nat
  endLine : Option Nat

structure ListArguments where
  path : String

structure SearchArguments where
  query : String
  path : String
  regex : Bool

structure PatchChange where
  path : String
  find : String
  replace : String

structure PatchArguments where
  changes : List PatchChange

structure CommandArguments where
  argv : List String
  timeoutSeconds : Nat

/-- The libraries that the tools are built on: the hash, the decoders of the
arguments and the compiler of regular expressions. -/
class ToolHost where
  sha256 : Sha256
  decodeRead : Json → Option ReadArguments
  decodeList : Json → Option ListArguments
  decodeSearch : Json → Option SearchArguments
  decodePatch : Json → Option PatchArguments
  decodeCommand : Json → Option CommandArguments
  regexCompiles : String → Bool

inductive Entry where
  | file (content : List UInt8) (links : Nat)
  | directory
  | symlink
  | special

/-- What a call sees when it is prepared: the entries of the workspace by the
names along their paths, and the file names behind the executables that resolve
to a regular file. -/
structure Surroundings where
  entry : List String → Option Entry
  executable : String → Option String

inductive Component where
  | rootDir
  | curDir
  | parentDir
  | normal (name : String)
  deriving DecidableEq, Repr

/-- The components of a path as the standard library gives them: a dot counts
only at the start, and repeated separators count once. -/
def components (path : String) : List Component :=
  let pieces := path.toList.splitOn '/'
  let first :=
    if path.toList.head? = some '/' then [Component.rootDir]
    else if pieces.head? = some ['.'] then [Component.curDir] else []
  first ++ pieces.filterMap fun piece =>
    if piece = [] ∨ piece = ['.'] then none
    else if piece = ['.', '.'] then some .parentDir
    else some (.normal (String.ofList piece))

def plainName : Component → Except NativeToolErrorCode String
  | .normal name => do
    rejectIf (name = ".git" ∨ Text.hasControl name) .unsafePath
    .ok name
  | _ => .error .unsafePath

/-- The names along a relative path; none for the workspace itself. -/
def validateRelative (value : String) : Except NativeToolErrorCode (List String) :=
  if value = "." then .ok []
  else do
    rejectIf (value.isEmpty ∨ value.toList.head? = some '/' ∨ '\x00' ∈ value.toList) .unsafePath
    let parts ← (components value).mapM plainName
    rejectIf (parts = []) .unsafePath
    .ok parts

def relativeText (names : List String) : String :=
  if names = [] then "." else String.intercalate "/" names

variable (world : Surroundings)

def rejectSymlinkComponents (names : List String) :
    Except NativeToolErrorCode Unit :=
  names.inits.tail.forM fun part =>
    match world.entry part with
    | none => .error .failedIo
    | some .symlink => .error .unsafePath
    | some _ => .ok ()

def existing (relative : String) :
    Except NativeToolErrorCode (List String × Entry) := do
  let names ← validateRelative relative
  rejectSymlinkComponents world names
  let entry ← requireSome (world.entry names) .failedIo
  .ok (names, entry)

def regularFile (relative : String) :
    Except NativeToolErrorCode (List String × List UInt8) := do
  let (names, entry) ← existing world relative
  match entry with
  | .file content links => do
    rejectIf (links ≠ 1) .unsafePath
    .ok (names, content)
  | _ => .error .unsafePath

def directory (relative : String) :
    Except NativeToolErrorCode (List String) := do
  let (names, entry) ← existing world relative
  match entry with
  | .directory => .ok names
  | _ => .error .unsafePath

def boundedRead (content : Option (List UInt8)) : Except NativeToolErrorCode (List UInt8) := do
  let bytes ← requireSome content .failedIo
  rejectIf (bytes.length > maxFileBytes) .outputTooLarge
  .ok bytes

/-! ## Actions -/

structure ReadAction where
  names : List String
  digest : Sha256Digest
  startLine : Option Nat
  endLine : Option Nat

structure SearchAction where
  names : List String
  query : String
  regex : Bool

structure PreparedChange where
  names : List String
  beforeDigest : Sha256Digest
  after : List UInt8

def PreparedChange.relative (change : PreparedChange) : String :=
  relativeText change.names

structure CommandAction where
  executable : String
  arguments : List String
  timeoutSeconds : Nat

inductive PreparedAction where
  | read (action : ReadAction)
  | list (names : List String)
  | search (action : SearchAction)
  | patch (changes : List PreparedChange)
  | command (action : CommandAction)

def PreparedAction.effectKind : PreparedAction → ToolEffectKind
  | read _ | list _ | search _ => .read
  | patch _ => .write
  | command _ => .command

def PreparedAction.summary : PreparedAction → String
  | read action => "read " ++ relativeText action.names
  | list names => "list " ++ relativeText names
  | search action => "search " ++ relativeText action.names
  | patch changes =>
    "edit " ++ String.ofList (Text.decimal changes.length) ++ " file(s)"
  | command action => "run " ++ action.executable ++ " with " ++
    String.ofList (Text.decimal action.arguments.length) ++ " argument(s)"

section

variable [ToolHost]

def ReadAction.prepare (world : Surroundings) (args : ReadArguments) :
    Except NativeToolErrorCode ReadAction := do
  rejectIf (args.startLine = some 0 ∨ args.endLine = some 0 ∨
    ∃ start ∈ args.startLine, ∃ last ∈ args.endLine, start > last) .invalidArguments
  let (names, content) ← regularFile world args.path
  let bytes ← boundedRead (some content)
  .ok ⟨names, ToolHost.sha256 bytes, args.startLine, args.endLine⟩

def SearchAction.prepare (world : Surroundings) (args : SearchArguments) :
    Except NativeToolErrorCode SearchAction := do
  rejectIf (args.query.isEmpty ∨ args.query.utf8ByteSize > maxQueryBytes) .invalidArguments
  let (names, _) ← existing world args.path
  rejectIf (args.regex ∧ ¬ ToolHost.regexCompiles args.query) .invalidArguments
  .ok ⟨names, args.query, args.regex⟩

/-- One change of a patch; `seen` holds the paths of the changes before it. -/
def prepareChange (world : Surroundings) (seen : List String)
    (change : PatchChange) : Except NativeToolErrorCode PreparedChange := do
  rejectIf (change.find.isEmpty ∨ change.path ∈ seen) .invalidArguments
  let (names, content) ← regularFile world change.path
  let before ← boundedRead (some content)
  let text ← requireSome (String.fromUTF8? ⟨before.toArray⟩) .invalidArguments
  rejectIf (Text.countSub change.find.toList 0 text.toList ≠ 1) .invalidArguments
  let after := Text.utf8 (Text.replaceFirst change.find.toList change.replace.toList text.toList)
  rejectIf (after.length > maxFileBytes) .secretDetected
  (Security.inspectBytes after).mapError fun _ => .secretDetected
  .ok ⟨names, ToolHost.sha256 before, after⟩

def prepareChanges (world : Surroundings) (seen : List String) :
    List PatchChange → Except NativeToolErrorCode (List PreparedChange)
  | [] => .ok []
  | change :: rest => do
    let prepared ← prepareChange world seen change
    let others ← prepareChanges world (seen ++ [change.path]) rest
    .ok (prepared :: others)

def PatchAction.prepare (world : Surroundings) (args : PatchArguments) :
    Except NativeToolErrorCode (List PreparedChange) := do
  rejectIf (args.changes = [] ∨ args.changes.length > maxPatchChanges) .invalidArguments
  prepareChanges world [] args.changes

end

def isPlainArgument (value : String) : Bool :=
  decide (value.utf8ByteSize ≤ maxCommandArgumentBytes) &&
    !value.toList.any fun c => c == '\x00' || c == '\n' || c == '\r'

def shells : List String :=
  ["sh", "bash", "zsh", "fish", "dash", "cmd", "cmd.exe", "powershell", "pwsh"]

def CommandAction.prepare (args : CommandArguments) :
    Except NativeToolErrorCode CommandAction :=
  match args.argv with
  | [] => .error .invalidArguments
  | program :: arguments => do
    rejectIf (args.argv.length > maxCommandArguments ∨
      args.timeoutSeconds < 1 ∨ maxTimeoutSeconds < args.timeoutSeconds ∨
      args.argv.any fun value => !isPlainArgument value) .invalidArguments
    rejectIf (program.toList.head? ≠ some '/') .invalidArguments
    let name ← requireSome (world.executable program) .invalidArguments
    rejectIf (name ∈ shells) .invalidArguments
    .ok ⟨name, arguments, args.timeoutSeconds⟩

structure NativeToolRuntime where
  permission : PermissionMode

structure PreparedNativeTool where
  name : String
  digest : Sha256Digest
  summary : String
  action : PreparedAction

def PreparedNativeTool.effectKind (tool : PreparedNativeTool) : ToolEffectKind :=
  tool.action.effectKind

namespace NativeToolRuntime

def requirePermission (runtime : NativeToolRuntime) : Except NativeToolErrorCode Unit :=
  rejectIf (runtime.permission = .plan ∨ runtime.permission = .dontAsk) .permissionDenied

def requireMutationPermission (runtime : NativeToolRuntime) : Except NativeToolErrorCode Unit :=
  runtime.requirePermission

def requireCommandPermission (runtime : NativeToolRuntime) : Except NativeToolErrorCode Unit :=
  runtime.requirePermission

def decode {α : Type} (decoder : Json → Option α) (arguments : Json) :
    Except NativeToolErrorCode α :=
  requireSome (decoder arguments) .invalidArguments

variable [ToolHost]

def prepareAction (runtime : NativeToolRuntime) (world : Surroundings) (name : String)
    (arguments : Json) : Except NativeToolErrorCode PreparedAction :=
  if name = "read_file" then do
    let args ← decode ToolHost.decodeRead arguments
    let action ← ReadAction.prepare world args
    .ok (.read action)
  else if name = "list_directory" then do
    let args ← decode ToolHost.decodeList arguments
    let names ← directory world args.path
    .ok (.list names)
  else if name = "search_text" then do
    let args ← decode ToolHost.decodeSearch arguments
    let action ← SearchAction.prepare world args
    .ok (.search action)
  else if name = "apply_patch" then do
    runtime.requireMutationPermission
    let args ← decode ToolHost.decodePatch arguments
    let changes ← PatchAction.prepare world args
    .ok (.patch changes)
  else if name = "run_command" then do
    runtime.requireCommandPermission
    let args ← decode ToolHost.decodeCommand arguments
    let action ← CommandAction.prepare world args
    .ok (.command action)
  else .error .unknownTool

def prepare (runtime : NativeToolRuntime) (world : Surroundings) (name : String)
    (arguments : Json) :
    Except NativeToolErrorCode PreparedNativeTool := do
  let encoded := Text.utf8 arguments.render
  rejectIf (encoded.length > maxArgumentBytes) .invalidArguments
  let action ← runtime.prepareAction world name arguments
  .ok ⟨name, ToolHost.sha256 (Text.utf8 name.toList ++ [0] ++ encoded ++
    [action.effectKind.byte]), action.summary, action⟩

end NativeToolRuntime

/-! ## Execution -/

/-- What the outside world does while a tool executes: the result of a tool
that reads or starts something, and for a patch the files that it finds and
whether they could be written. -/
structure ToolRun where
  result : Except NativeToolErrorCode Json
  read : List String → Option (List UInt8)
  written : Except NativeToolErrorCode Unit

section

variable [ToolHost]

def unchanged (run : ToolRun) (change : PreparedChange) : Except NativeToolErrorCode Unit := do
  let current ← boundedRead (run.read change.names)
  rejectIf (ToolHost.sha256 current ≠ change.beforeDigest) .workspaceChanged

def patchOutput (changes : List PreparedChange) : Json :=
  .obj [("changed_files", .nat changes.length),
    ("paths", .list (fun change => .str change.relative) changes)]

def executePatch (changes : List PreparedChange) (run : ToolRun) :
    Except NativeToolErrorCode Json := do
  changes.forM (unchanged run)
  run.written
  .ok (patchOutput changes)

def PreparedNativeTool.execute (tool : PreparedNativeTool) (cancelled : Bool)
    (run : ToolRun) : Except NativeToolErrorCode Json := do
  rejectIf (cancelled = true) .cancelled
  match tool.action with
  | .patch changes => executePatch changes run
  | _ => run.result

end

/-!
## Items of native tools

How the native port shows a tool to the engine: the item with which a call
starts, the item with which it ends, and what the engine can read from both
about the files of a patch.
-/

open Foundation CarlAgent.Task Engine

variable {changes : List PreparedChange} {tool : PreparedNativeTool}

def itemFor (itemId : String) (tool : PreparedNativeTool) (cwd : String) : AgentItem :=
  match tool.effectKind with
  | .command => .command itemId tool.summary cwd "in_progress" none none none
  | .write => .fileChange itemId "in_progress" (.arr [])
  | .read => .other itemId tool.name

def exitCode (output : Json) : Option Int := do
  let value ← output.get "exit_code"
  let code ← value.asI64
  if -2 ^ 31 ≤ code ∧ code < 2 ^ 31 then some code else none

def completedStatus (success : Bool) : String :=
  if success then "completed" else "failed"

def completeItem (item : AgentItem) (success : Bool) (output : Option Json) : AgentItem :=
  match item with
  | .command itemId command cwd _ _ _ _ =>
    .command itemId command cwd (completedStatus success) (output.bind exitCode)
      (output.map fun value => String.ofList value.render) none
  | .fileChange itemId _ _ =>
    .fileChange itemId (completedStatus success)
      (match output with
      | none => .arr []
      | some value => .arr [value])
  | .other itemId itemType => .other itemId itemType
  | .contextCompaction itemId => .contextCompaction itemId

def errorOutput (text : String) : Json :=
  .obj [("error", .str text)]

/-- What a resolved effect puts into the history, and whether the tool
succeeded. -/
def effectOutput (decision : EffectDecision)
    (executed : Except NativeToolErrorCode Json) : Json × Bool :=
  match decision with
  | .allow =>
    match executed with
    | .ok output => (output, true)
    | .error code => (errorOutput code.debugName, false)
  | .deny => (errorOutput "permission_denied", false)

def PreparedNativeTool.changedFiles (tool : PreparedNativeTool) : List String :=
  match tool.action with
  | .patch changes => changes.map PreparedChange.relative
  | _ => []

/-- The engine reads exactly these files from an item. -/
def ReadsPaths (item : AgentItem) (workspace : PathBuf) (files : List String) : Prop :=
  ∃ normalized paths, trustedPaths item workspace = .ok (normalized, paths) ∧
    ∀ path, path ∈ paths ↔ path ∈ files

theorem prepare_patch [ToolHost] {runtime : NativeToolRuntime} {world : Surroundings}
    {arguments : Json} (h : runtime.prepare world "apply_patch" arguments = .ok tool) :
    ∃ changes, tool.action = .patch changes := by
  simp only [NativeToolRuntime.prepare, NativeToolRuntime.prepareAction, ok_iff, String.reduceEq,
    if_false, if_true] at h
  obtain ⟨-, action, ⟨-, -, args, -, changes, -, rfl⟩, rfl⟩ := h
  exact ⟨changes, rfl⟩

theorem itemFor_patch (h : tool.action = .patch changes) (itemId cwd : String) :
    itemFor itemId tool cwd = .fileChange itemId "in_progress" (.arr []) := by
  simp [itemFor, PreparedNativeTool.effectKind, h, PreparedAction.effectKind]

theorem changedPath_effectOutput [ToolHost] (h : tool.action = .patch changes)
    (decision : EffectDecision) (cancelled : Bool) (run : ToolRun) :
    changedPath (effectOutput decision (tool.execute cancelled run)).1 = none := by
  have herror : ∀ text, changedPath (errorOutput text) = none := by
    intro text
    rfl
  cases decision with
  | deny => exact herror _
  | allow =>
    simp only [effectOutput]
    cases hrun : tool.execute cancelled run with
    | error code => exact herror _
    | ok output =>
      simp only [PreparedNativeTool.execute, h, executePatch, ok_iff] at hrun
      obtain ⟨-, -, -, -, -, -, rfl⟩ := hrun
      rfl

theorem trustedPaths_empty (itemId status : String) (workspace : PathBuf) :
    trustedPaths (.fileChange itemId status (.arr [])) workspace = .error .verification := rfl

theorem trustedPaths_of_noPath {output : Json} (h : changedPath output = none)
    (itemId status : String) (workspace : PathBuf) :
    trustedPaths (.fileChange itemId status (.arr [output])) workspace = .error .verification := by
  have hchanges : changesOf (.fileChange itemId status (.arr [output])) = .ok [output] := rfl
  simp [trustedPaths, normalizeFileChangeItemPaths, hchanges, h, requireSome,
    Bind.bind, Except.bind]

/-- No item of a patch can be read: the one it starts with lists no change,
and the one it ends with lists the output of the tool instead. -/
theorem patch_paths_unreadable [ToolHost] {runtime : NativeToolRuntime}
    {world : Surroundings} {arguments : Json} {tool : PreparedNativeTool}
    (hprepared : runtime.prepare world "apply_patch" arguments = .ok tool) (itemId cwd : String)
    (workspace : PathBuf) :
    ¬ ReadsPaths (itemFor itemId tool cwd) workspace tool.changedFiles ∧ ∀ decision cancelled run,
        ¬ ReadsPaths (completeItem (itemFor itemId tool cwd) (effectOutput decision (tool.execute
          cancelled run)).2 (some (effectOutput decision (tool.execute cancelled run)).1))
          workspace tool.changedFiles := by
  obtain ⟨changes, hpatch⟩ := prepare_patch hprepared
  rw [itemFor_patch hpatch]
  constructor
  · rintro ⟨normalized, paths, hread, -⟩
    rw [trustedPaths_empty] at hread
    cases hread
  · rintro decision cancelled run ⟨normalized, paths, hread, -⟩
    have hnone := changedPath_effectOutput hpatch decision cancelled run
    simp only [completeItem] at hread
    rw [trustedPaths_of_noPath hnone] at hread
    cases hread

/-! ## A patch of one file -/

def decodeChange (change : Json) : Option PatchChange := do
  let path ← (← change.get "path").asStr
  let find ← (← change.get "find").asStr
  let replace ← (← change.get "replace").asStr
  some ⟨path, find, replace⟩

@[reducible] def sampleTools : ToolHost where
  sha256 bytes :=
    if bytes = [120] then
      ⟨0x2d711642b726b04401627ca9fbac32f5c8530fb1903cc4db02258717921a4881⟩
    else if bytes.getLast? = some 2 then
      ⟨0x4120efdb39eacd6abea61f4e805a405d40416982ff2124516a15383b54ebc76e⟩
    else ⟨0x7d9f945c452558ceb3fd6b2baf0940698d3a908344c53b958c56a467bec12b8f⟩
  decodeRead _ := none
  decodeList _ := none
  decodeSearch _ := none
  decodePatch json := do
    let changes ← (← json.get "changes").asArray
    let changes ← changes.mapM decodeChange
    some ⟨changes⟩
  decodeCommand json := do
    let argv ← (← json.get "argv").asArray
    let argv ← argv.mapM Json.asStr
    some ⟨argv, 120⟩
  regexCompiles _ := false

def sampleWorkspace : Surroundings where
  entry names := if names = ["a"] then some (.file [120] 1) else none
  executable path := if path = "/bin/ls" then some "ls" else none

def samplePatch : Json :=
  .obj [("changes", .arr [.obj [("find", .str "x"), ("path", .str "a"), ("replace", .str "y")]])]

def sampleRun : ToolRun where
  result := .error .failedIo
  read names := if names = ["a"] then some [120] else none
  written := .ok ()

def samplePatchTool : PreparedNativeTool :=
  ⟨"apply_patch", ⟨0x7d9f945c452558ceb3fd6b2baf0940698d3a908344c53b958c56a467bec12b8f⟩,
    "edit 1 file(s)", .patch [⟨["a"],
      ⟨0x2d711642b726b04401627ca9fbac32f5c8530fb1903cc4db02258717921a4881⟩, [121]⟩]⟩

theorem prepare_samplePatch : @NativeToolRuntime.prepare sampleTools ⟨.acceptEdits⟩ sampleWorkspace
      "apply_patch" samplePatch = .ok samplePatchTool := by
  rfl

theorem patch_paths_unreadable_one :
    @NativeToolRuntime.prepare sampleTools ⟨.acceptEdits⟩ sampleWorkspace
        "apply_patch" samplePatch = .ok samplePatchTool ∧
      ¬ ReadsPaths (itemFor "native-tool-1" samplePatchTool "/w")
        (.utf8 "/w") samplePatchTool.changedFiles :=
  ⟨prepare_samplePatch, (@patch_paths_unreadable sampleTools _ _ _ _
      prepare_samplePatch "native-tool-1" "/w" (.utf8 "/w")).1⟩

/-- An allowed edit of one file is refused when it is asked for, and would be
refused again when it has succeeded. -/
theorem allowed_patch_refused :
    @NativeToolRuntime.prepare sampleTools ⟨.acceptEdits⟩ sampleWorkspace
        "apply_patch" samplePatch = .ok samplePatchTool ∧
      samplePatchTool.changedFiles = ["a"] ∧
      isRelativePath "a" = true ∧
      @PreparedNativeTool.execute sampleTools samplePatchTool false sampleRun =
        .ok (.obj [("changed_files", .nat 1), ("paths", .arr [.str "a"])]) ∧
      normalizeFileChangeItemPaths
        (itemFor "native-tool-1" samplePatchTool "/w") (.utf8 "/w") = .error .verification ∧
      normalizeFileChangeItemPaths
        (completeItem (itemFor "native-tool-1" samplePatchTool "/w") true
          (some (.obj [("changed_files", .nat 1), ("paths", .arr [.str "a"])]))) (.utf8 "/w") =
          .error .verification := by
  refine ⟨prepare_samplePatch, rfl, by decide, rfl, rfl, rfl⟩

/-! ## Selected lines -/

section Lines

open List Text

variable {text : List Char} {segment : List (List Char)}

/-- The bound `usize::MAX` of an open end is no bound. -/
def inRange (start : Nat) (last : Option Nat) (index : Nat) : Bool :=
  decide (index + 1 ≥ start) && last.all fun last => decide (index + 1 ≤ last)

def selectLines (text : List Char) (start last : Option Nat) : List Char :=
  if start.isNone && last.isNone then text
  else
    let chosen := (lines text).zipIdx.filter fun entry => inRange (start.getD 1) last entry.2
    let output := intercalate ['\n'] (chosen.map Prod.fst)
    if !output.isEmpty && endsWith ['\n'] text then output ++ ['\n'] else output

theorem filter_zipIdx_le (last i : Nat) :
    (segment.zipIdx i).filter (fun entry => entry.2 + 1 ≤ last) =
      (segment.take (last - i)).zipIdx i := by
  induction segment generalizing i with
  | nil => simp
  | cons line rest ih =>
    have hrest : last - (i + 1) = last - i - 1 := by omega
    by_cases hlast : i + 1 ≤ last <;> rcases hm : last - i with _ | m <;> first
      | omega
      | simp only [zipIdx_cons, filter_cons, hlast, ih, hrest, hm, decide_true, decide_false,
          if_true, if_false, Bool.false_eq_true, take_succ_cons, take_zero, Nat.add_sub_cancel,
          Nat.zero_sub, zipIdx_nil]

theorem filter_zipIdx_ge (start i : Nat) :
    ((segment.zipIdx i).filter fun entry => start ≤ entry.2 + 1).map Prod.fst =
      segment.drop (start - 1 - i) := by
  induction segment generalizing i with
  | nil => simp
  | cons line rest ih =>
    have hrest : start - 1 - (i + 1) = start - 1 - i - 1 := by omega
    by_cases hstart : start ≤ i + 1 <;> rcases hm : start - 1 - i with _ | m <;> first
      | omega
      | simp only [zipIdx_cons, filter_cons, hstart, ih, hrest, hm, decide_true, decide_false,
          if_true, if_false, Bool.false_eq_true, map_cons, drop_succ_cons, drop_zero,
          Nat.add_sub_cancel, Nat.zero_sub]

/-- The text of lines that each end with a plain newline. -/
def ended (segment : List (List Char)) : List Char :=
  segment.flatMap (· ++ ['\n'])

/-- The lines chosen of a text that ends with a newline or not, put back together. -/
def rejoined (closed : Bool) (segment : List (List Char)) : List Char :=
  if segment = [[]] then [] else if closed then ended segment else intercalate ['\n'] segment

theorem ended_nil : ended [] = [] := rfl

theorem ended_cons (line : List Char) (rest : List (List Char)) :
    ended (line :: rest) = intercalate ['\n'] (line :: rest) ++ ['\n'] := by
  induction rest generalizing line with
  | nil => simp [ended]
  | cons next others ih =>
    have hrest := ih next
    simp only [ended, flatMap_cons] at hrest
    simp [ended, intercalate_cons_cons, hrest]

theorem selectLines_eq (start last : Option Nat) (h : ¬(start.isNone && last.isNone)) :
    selectLines text start last = rejoined (endsWith ['\n'] text)
      ((last.elim (lines text) fun last => (lines text).take last).drop (start.getD 1 - 1)) := by
  have hchosen : ((lines text).zipIdx.filter fun entry =>
        inRange (start.getD 1) last entry.2).map Prod.fst =
      (last.elim (lines text) fun last => (lines text).take last).drop (start.getD 1 - 1) := by
    simp only [inRange, ← filter_filter, ge_iff_le]
    cases last <;> simp only [Option.all_none, Option.all_some, filter_true, filter_zipIdx_le,
      filter_zipIdx_ge, Nat.sub_zero, Option.elim]
  simp only [selectLines, if_neg h, hchosen, rejoined]
  generalize (last.elim (lines text) fun last => (lines text).take last).drop _ = chosen
  rcases chosen with _ | ⟨_ | ⟨c, line⟩, _ | ⟨next, others⟩⟩ <;>
    simp [ended_cons, intercalate_cons_cons, ended_nil]

theorem selectLines_split (k : Nat) :
    selectLines text (some 1) (some k) ++ selectLines text (some (k + 1)) none =
      rejoined (endsWith ['\n'] text) ((lines text).take k) ++
        rejoined (endsWith ['\n'] text) ((lines text).drop k) := by
  simp [selectLines_eq]

theorem selectLines_part
    (h : ∀ segment, segment <:+: lines text → rejoined (endsWith ['\n'] text) segment <:+: text)
    (start last : Option Nat) : selectLines text start last <:+: text := by
  by_cases hopen : start.isNone && last.isNone
  · have hall : selectLines text start last = text := if_pos hopen
    simp only [hall, infix_rfl]
  · rw [selectLines_eq start last hopen]
    refine h _ ((drop_suffix _ _).isInfix.trans ?_)
    cases last with
    | none => exact infix_rfl
    | some last => exact (List.take_prefix last _).isInfix

theorem lines_of_notMem (h : '\n' ∉ text) : text = [] ∧ lines text = [] ∨ lines text = [text] := by
  fun_induction lines text <;> grind

theorem lines_newline (rest : List Char) : lines ('\n' :: rest) = [] :: lines rest := by
  simp [lines]

theorem newline_notMem_lines : ∀ line ∈ lines text, '\n' ∉ line := by
  fun_induction lines text <;> grind [lines_newline]

theorem rejoined_length_le (segment : List (List Char)) :
    (rejoined true segment).length ≤ (ended segment).length := by
  unfold rejoined
  split <;> simp

theorem rejoined_closed (h : segment ≠ [[]]) : rejoined true segment = ended segment := by
  simp [rejoined, h]

theorem rejoined_unclosed (segment : List (List Char)) :
    rejoined false segment = intercalate ['\n'] segment := by
  by_cases h : segment = [[]] <;> simp [rejoined, h]

/-- A text without a newline has one line at most. -/
theorem selectLines_of_notMem (h : '\n' ∉ text) :
    (∀ start last, selectLines text start last <:+: text) ∧
      ∀ k, selectLines text (some 1) (some k) ++ selectLines text (some (k + 1)) none = text := by
  have hclosed : endsWith ['\n'] text = false := by
    rw [Bool.eq_false_iff, endsWith, ne_eq, isSuffixOf_iff_suffix]
    exact fun hsuffix => h (hsuffix.subset (mem_singleton_self _))
  refine ⟨selectLines_part fun segment hsegment => ?_, fun k => ?_⟩ <;>
    rcases lines_of_notMem h with ⟨htext, hlines⟩ | hlines
  · rw [hlines, infix_nil] at hsegment
    simp [hsegment, hclosed, rejoined]
  · rw [hlines] at hsegment
    rcases sublist_singleton.mp hsegment.sublist with hnone | hone <;> simp [*, rejoined_unclosed]
  · rw [selectLines_split, hlines, hclosed, htext]
    simp [rejoined]
  · cases k <;> simp [selectLines_split, hlines, hclosed, rejoined_unclosed]

theorem unclosed_split (hnewline : '\n' ∈ text)
    (hsplit : ∀ k, rejoined false ((lines text).take k) ++ rejoined false ((lines text).drop k) =
      text) : False := by
  simp only [rejoined_unclosed] at hsplit
  have hall := hsplit 0
  rcases hlines : lines text with _ | ⟨line, _ | ⟨next, others⟩⟩
  · simp only [hlines, take_nil, drop_nil] at hall
    exact not_mem_nil (hall ▸ hnewline)
  · have htext : line = text := by simpa [hlines] using hall
    exact @newline_notMem_lines text line (by simp [hlines]) (htext ▸ hnewline)
  · have hlength := congrArg length ((hsplit 1).trans hall.symm)
    simp [hlines, intercalate_cons_cons] at hlength

theorem closed_split (hnewline : '\n' ∈ text)
    (hsplit : ∀ k, rejoined true ((lines text).take k) ++ rejoined true ((lines text).drop k) =
      text) :
    text = ended (lines text) ∧ (lines text).head? ≠ some [] ∧ (lines text).getLast? ≠ some [] := by
  have hended : text = ended (lines text) := by
    have hall := hsplit 0
    by_cases h : lines text = [[]]
    · have htext : text = [] := by simpa [h, rejoined, ended] using hall.symm
      simp [htext] at hnewline
    · simpa [rejoined_closed h, @rejoined_closed [], ended] using hall.symm
  -- an empty line alone is chosen as the empty text, without its newline
  refine ⟨hended, fun hhead => ?_, fun hlast => ?_⟩
  · obtain ⟨rest, hlines⟩ := head?_eq_some_iff.mp hhead
    have hlength := congrArg length ((hsplit 1).trans hended)
    have hle := rejoined_length_le rest
    simp [hlines, rejoined, ended] at hlength hle
    omega
  · obtain ⟨init, hlines⟩ := getLast?_eq_some_iff.mp hlast
    have hlength := congrArg length ((hsplit init.length).trans hended)
    have hle := rejoined_length_le init
    simp [hlines, rejoined, ended] at hlength hle
    omega

/-- The chosen lines are put back together with plain newlines, and the newline
after the last one is written when the text ends with one and something was
chosen. So a text of several lines is given back only if each of its lines ends
with a plain newline and neither its first nor its last line is empty. -/
theorem selectLines_sound_iff (text : List Char) :
    ((∀ start last, selectLines text start last <:+: text) ∧
        ∀ k, selectLines text (some 1) (some k) ++ selectLines text (some (k + 1)) none = text) ↔
      '\n' ∉ text ∨
        text = ended (lines text) ∧ (lines text).head? ≠ some [] ∧
          (lines text).getLast? ≠ some [] := by
  by_cases hnewline : '\n' ∈ text
  · rw [or_iff_right (not_not.mpr hnewline)]
    constructor
    · rintro ⟨-, hsplit⟩
      simp only [selectLines_split] at hsplit
      cases hclosed : endsWith ['\n'] text <;> rw [hclosed] at hsplit
      · exact (unclosed_split hnewline hsplit).elim
      · exact closed_split hnewline hsplit
    · rintro ⟨hended, hhead, hlast⟩
      have hclosed : endsWith ['\n'] text = true := by
        rcases hlines : lines text with _ | ⟨line, rest⟩ <;> rw [hlines] at hended
        · simp [hended, ended] at hnewline
        · rw [hended, ended_cons, endsWith, isSuffixOf_iff_suffix]
          exact suffix_append _ _
      refine ⟨selectLines_part fun segment ⟨before, after, hlines⟩ => ?_, fun k => ?_⟩
      · by_cases hempty : segment = [[]]
        · simp [hempty, rejoined]
        · refine ⟨ended before, ended after, ?_⟩
          conv_rhs => rw [hended, ← hlines]
          simp [ended, hclosed, rejoined_closed hempty]
      · have hjoin := take_append_drop k (lines text)
        rw [selectLines_split, hclosed, rejoined_closed, rejoined_closed]
        · conv_rhs => rw [hended, ← hjoin]
          exact flatMap_append.symm
        · intro hdrop
          rw [← hjoin, hdrop] at hlast
          simp at hlast
        · intro htake
          rw [← hjoin, htake] at hhead
          simp at hhead
  · exact iff_of_true (selectLines_of_notMem hnewline) (.inl hnewline)

/-- Without a newline at the end the newline between the two parts is lost. -/
theorem selectLines_loses_newline :
    selectLines "a\nb".toList (some 1) (some 1) ++ selectLines "a\nb".toList (some 2) none =
        "ab".toList ∧
      selectLines "a\r\nb\n".toList (some 1) (some 2) = "a\nb\n".toList := by
  decide

end Lines

end CarlAgent.Native
