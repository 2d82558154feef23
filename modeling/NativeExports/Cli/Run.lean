import NativeExports.Cli.Tool
import NativeExports.Cli.Completion
import NativeExports.Cli.CompletionScript
import NativeExports.Cli.Invocation
import NativeExports.Session
import NativeExports.Settings
import NativeExports.Description
import NativeExports.Glob
import NativeExports.Text.Table
/-!
Running the export tool on a command line.

A run sees a workspace of files and a host: the directories searched for programs, the
directory for temporary files, the per-user cache directory, and the programs it can start.
It writes to an output and an error stream, changes files, and ends with a status: 0, the
assembler's own status when the assembler ran and failed, or the status of the kind of the
fault that stopped it, which is then reported on the error stream as `error[ID]: message`.

Findings are reported as the scan meets them, as `warning[ID]: message`; findings beyond the
limit are counted in a closing note.  The settings file is the one `--config` names, or
`exportgen.toml` in the working directory, or none.  Input arguments holding `*`, `?`, `[` or
`{` are patterns, replaced by the files they match in sorted order.
-/

namespace NativeExports.Cli

/-- What a run can reach besides its files. -/
structure Host where
  /-- Directories searched, in order, for a program named without a directory. -/
  searchPath : List String
  /-- Where temporary files go when no directory is named. -/
  tempDir : String
  /-- The directory of per-user caches, when one is known. -/
  cacheHome : Option String
  /-- Whether a file can be started as a program. -/
  canRun : String → Bool
  /-- Runs a program with arguments over the files: its exit status and what it wrote to the
  output and error streams. -/
  launch : String → List String → Workspace → Nat × String × String
  /-- The error the file system gives writing a new file at a path, when it refuses. -/
  writeError : String → Option String
  /-- The error the file system gives closing a new file at a path once written, when it
  refuses. -/
  closeError : String → Option String
  /-- The error the file system gives removing the file at a path, when it refuses. -/
  removeError : String → Option String
  /-- The error writing to the output stream gives, when the stream refuses writes. -/
  printError : Option String

/-- The streams and files of a run in progress. -/
structure Console where
  out : String
  err : String
  files : Workspace
  /-- Whether a fault is reported with its whole chain of causes. -/
  detail : Bool

/-- Why a run stopped early. -/
inductive Halt where
  /-- A fault, reported at the end. -/
  | fault (f : Fault)
  /-- The assembler's failing status, which becomes the run's. -/
  | status (n : Nat)

/-- A step of a run. -/
abbrev Run := ExceptT Halt (StateM Console)

/-- How a run ended: its status, its two streams and its files. -/
structure Outcome where
  status : Nat
  out : String
  err : String
  files : Workspace

/-- Writes to the output stream. -/
def say (s : String) : Run Unit := modify fun c => { c with out := c.out ++ s }

/-- Writes to the error stream. -/
def complain (s : String) : Run Unit := modify fun c => { c with err := c.err ++ s }

/-- The files as they are now. -/
def currentFiles : Run Workspace := do pure (← get).files

/-- Replaces the files. -/
def setFiles (w : Workspace) : Run Unit := modify fun c => { c with files := w }

/-- Stops with a fault. -/
def fail {α : Type} (f : Fault) : Run α := throw (.fault f)

/-- The value of a result, or a stop with its fault. -/
def orFail {α : Type} : Except Fault α → Run α
  | .ok a => pure a
  | .error f => fail f

/-- Runs a step and gives its result, keeping what it wrote either way. -/
def attempt {α : Type} (r : Run α) : Run (Except Halt α) :=
  tryCatch (do pure (.ok (← r))) fun h => pure (.error h)

/-! Reports -/

/-- The label of a report: its kind, with the code when there is one. -/
def label (kind : String) (code : Code) : String :=
  if code == Code.unknown then kind else kind ++ "[" ++ code.id ++ "]"

/-- The report line of a finding. -/
def findingLine (f : Finding) : String :=
  label f.severity.name f.code ++ ": " ++ f.message ++ "\n"

/-- Text without a prefix, when it has it. -/
def dropPrefix (s pre : String) : String :=
  if s.startsWith pre then (s.drop pre.length).toString else s

/-- The report of the fault that stopped a run. -/
def errorReport (f : Fault) (detail : Bool) : String :=
  let msg := if detail then dropPrefix f.detail (f.code.id ++ ": ") else f.reportText
  label "error" f.code ++ ": " ++ msg ++ "\n"

/-- Reports how many findings the limit left out, if any. -/
def reportDropped (s : Session) : Run Unit :=
  if s.findings.dropped > 0 then
    complain (findingLine ⟨Code.unknown, .note, toString s.findings.dropped ++ " more warnings not shown"⟩)
  else pure ()

/-! Settings, inputs and the session -/

/-- The name of the settings file looked for in the working directory. -/
def settingsFileName : String := "exportgen.toml"

/-- The settings of a run: the file `--config` names, or the one in the working directory, or
the defaults. -/
def loadSettings (flags : FlagSettings) : Run Settings := do
  let w ← currentFiles
  let explicit := flags.text "config"
  if explicit != "" then orFail (Settings.ofFile explicit (w.readText explicit))
  else match w.find? settingsFileName with
    | some _ => orFail (Settings.ofFile settingsFileName (w.readText settingsFileName))
    | none => pure Settings.defaults

/-- The module cache: the one the settings name, or the tool's directory among the per-user
caches. -/
def cacheOf (host : Host) (cfg : Settings) : Option ModuleCache :=
  if cfg.cacheDir != "" then some ⟨cfg.cacheDir⟩
  else host.cacheHome.map fun h => ⟨Path.join [h, "exportgen"]⟩

/-- The longest leading directory of a pattern without pattern characters. -/
def staticRoot (pattern : String) : String :=
  let keep := (pattern.splitOn "/").dropLast.takeWhile fun p => !Glob.hasMeta p
  if keep.isEmpty then "."
  else
    let root := String.intercalate "/" keep
    if root.isEmpty then "/" else root

/-- The files an input argument stands for: itself, or the sorted files a pattern matches. -/
def expandInput (w : Workspace) (arg : String) : Except Fault (List String) := do
  if !Glob.hasMeta arg then return [arg]
  let pattern := Path.clean arg
  let g ← (Glob.compile pattern).mapError fun e =>
    Fault.wrap Code.badOption (.reason e) ("invalid input pattern " ++ Text.quote pattern)
  let root := staticRoot pattern
  if w.wayProblem? root == some "not a directory" then
    throw (.wrap Code.readFailed (systemFault "lstat" root "not a directory")
      ("expanding " ++ Text.quote pattern))
  let found := ((w.filesUnder root).filter g.matches).mergeSort fun a b => decide (a ≤ b)
  if found.isEmpty then
    throw (.error Code.missingInput ("pattern " ++ Text.quote arg ++ " matches no files"))
  pure found

/-- The files input arguments stand for, in order. -/
def expandInputs (w : Workspace) (args : List String) : Except Fault (List String) := do
  pure (← args.mapM (expandInput w)).flatten

/-- What a session is prepared from, for inputs and references given on a command line. -/
def sessionRequest (host : Host) (flags : FlagSettings) (cfg : Settings)
    (patterns refs : List String) : Run SessionRequest := do
  let inputs ← orFail (expandInputs (← currentFiles) patterns)
  let base ← orFail cfg.baseIdentity
  pure ⟨inputs, referenceMap refs, ⟨cacheOf host cfg, cfg.registryDirs⟩, base, cfg.attributes,
    flags.number "max-warnings"⟩

/-- Prepares a session, reporting its findings as they come. -/
def prepareSession (req : SessionRequest) : Run Session := do
  let (reported, result) := Session.prepare (← currentFiles) req
  for f in reported do complain (findingLine f)
  orFail result

/-! Programs -/

/-- The first file named `name` in the search directories that can be started. -/
def lookPath (host : Host) (w : Workspace) (name : String) : Except Fault String :=
  match host.searchPath.findSome? fun d =>
      let p := Path.join [d, name]
      if w.isFile p && host.canRun p then some p else none with
  | some p => .ok p
  | none => .error (.context ("exec: " ++ Text.quote name) (.reason "executable file not found in $PATH"))

/-- The file a program named `name` is started from: the name itself when it has a slash, else
the first match in the search directories.  It must be a file that can be started. -/
def startPath (host : Host) (w : Workspace) (name : String) : Except Fault String := do
  let path ← if name.contains '/' then pure name else lookPath host w name
  if !(w.isFile path || w.isDirectory path) then
    throw (systemFault "fork/exec" path "no such file or directory")
  if !(w.isFile path && host.canRun path) then
    throw (systemFault "fork/exec" path "permission denied")
  pure path

/-- The stream the output stream writes to, as its write errors name it. -/
def outputStreamPath : String := "/dev/stdout"

/-- Starts a program and passes its output on; gives its exit status.  When asked, the command
line is printed first, and a refusal of the output stream stops the step before the program
starts. -/
def runProgram (host : Host) (echo : Bool) (name : String) (args : List String) : Run Nat := do
  if echo then
    match host.printError with
    | some e => fail (.wrap Code.writeFailed (systemFault "write" outputStreamPath e)
        "failed to print command")
    | none => say (name ++ " " ++ String.intercalate " " args ++ "\n")
  let w ← currentFiles
  let path ← orFail ((startPath host w name).mapError fun f =>
    .wrap Code.assemblerStartFailed f ("failed to run " ++ name))
  let (status, out, err) := host.launch path args w
  say out
  complain err
  pure status

/-! Commands -/

/-- What a build works from: its settings, its command line read, and the session prepared
from its inputs.  Fails when there are no inputs or no output. -/
def prepareBuild (host : Host) (r : Reading) : Run (Settings × Invocation × Session) := do
  if r.args.isEmpty then
    complain (tool.usage [])
    fail (.error Code.missingInput "no input modules given")
  let flags := r.settings
  let cfg ← loadSettings flags
  let inv ← orFail (Invocation.read r.args r.dashAt)
  let req ← sessionRequest host flags cfg inv.inputs inv.refs
  if req.inputs.isEmpty then fail (.error Code.missingInput "no input modules given")
  if inv.output == "" then fail (.error Code.missingOutput "no output module given (use /OUT:<file>)")
  let sess ← prepareSession req
  pure (cfg, inv, sess)

/-- Removes a file as the system does: a missing file needs nothing, and otherwise the file
system may refuse, leaving the file.  Gives the refusal. -/
def removeFile (host : Host) (path : String) : Run (Option Fault) := do
  let w ← currentFiles
  if !w.isFile path then pure none
  else match host.removeError path with
    | some e => pure (some (systemFault "remove" path e))
    | none => do
      setFiles (w.remove path)
      pure none

/-- The failure writing a new program file at a path meets, if any: the write's, else the
close's. -/
def programWriteFault (host : Host) (path : String) : Option Fault :=
  match host.writeError path, host.closeError path with
  | some e, _ => some (systemFault "write" path e)
  | none, some e => some (systemFault "close" path e)
  | none, none => none

/-- Writes the program to a new temporary file in a directory and gives its path.  The file is
created, then written and closed; when writing or closing fails the file is removed again,
whether or not the file system allows it, and the failure stops the run. -/
def writeProgram (host : Host) (dir text : String) : Run String := do
  let w ← currentFiles
  let path := w.tempName dir "exportgen-" ".il"
  -- a write that fails leaves the file as created, empty
  let bytes := if (host.writeError path).isSome then [] else Text.toBytes text
  let (w', _) ← orFail ((w.writeTemp dir "exportgen-" ".il" bytes).mapError
    fun f => Fault.wrap Code.writeFailed f "failed to create program file")
  setFiles w'
  match programWriteFault host path with
  | some cause => do
    let _ ← removeFile host path
    fail (.wrap Code.writeFailed cause ("failed to write " ++ path))
  | none => pure path

/-- Emits the program of a session, finds the assembler for the runtime it needs and writes
the program to a temporary file: the assembler and the file's path. -/
def stageProgram (host : Host) (flags : FlagSettings) (cfg : Settings) (output : String)
    (sess : Session) : Run (String × String) := do
  let text ← orFail (sess.emit output).1
  let search : AssemblerSearch := ⟨cfg.assemblerLines, "", lookPath host (← currentFiles)⟩
  let assembler ← orFail (search.resolve sess.requirement)
  let dir := if flags.text "temp-dir" == "" then host.tempDir else flags.text "temp-dir"
  let path ← writeProgram host dir text
  pure (assembler, path)

/-- The end of a build once its program's removal gave `refusal`: a refusal replaces only an
end without a fault. -/
def removalEnd (path : String) : Option Fault → Except Halt Nat → Except Halt Nat
  | some cause, .ok _ => .error (.fault (.wrap Code.writeFailed cause ("failed to remove " ++ path)))
  | _, ran => ran

/-- The end of a build once the assembler step is over, with the program removed unless it is
kept. -/
def afterAssembler (host : Host) (keep : Bool) (path : String) (ran : Except Halt Nat) :
    Run (Except Halt Nat) := do
  if keep then pure ran
  else pure (removalEnd path (← removeFile host path) ran)

/-- Builds the export module: prepares the session, writes the program to a temporary file,
runs the assembler on it and removes the file unless it is to be kept. -/
def runBuild (host : Host) (r : Reading) : Run Unit := do
  let (cfg, inv, sess) ← prepareBuild host r
  let flags := r.settings
  let keep := flags.switch "keep-il"
  let staged ← attempt (stageProgram host flags cfg inv.output sess)
  match staged with
  | .error h =>
    reportDropped sess
    throw h
  | .ok (assembler, path) =>
    let ran ← attempt (runProgram host (flags.switch "print-commands") assembler
      (inv.assemblerArgs ++ ["/OUTPUT=" ++ inv.output, path]))
    let ran ← afterAssembler host keep path ran
    reportDropped sess
    if keep then complain ("program kept at " ++ path ++ "\n")
    match ran with
    | .error h => throw h
    | .ok 0 => pure ()
    | .ok n => throw (.status n)

/-- Shows the export table, or the program with `--il`. -/
def runInspect (host : Host) (r : Reading) : Run Unit := do
  let flags := r.settings
  let cfg ← loadSettings flags
  let inv ← orFail (Invocation.read r.args r.dashAt)
  if let some opt := inv.forward.head? then
    fail (.error Code.badOption ("inspect does not accept assembler option " ++ opt))
  let req ← sessionRequest host flags cfg inv.inputs inv.refs
  let sess ← prepareSession req
  reportDropped sess
  if flags.switch "il" then
    let output := if inv.output != "" then inv.output
      else ((sess.modules.head?.map (·.name)).getD "") ++ ".Exports.dll"
    say (← orFail (sess.emit output).1)
  else
    let rows := sess.table.entries.map fun e =>
      let owner := declaringName e.candidate.owners
      [toString e.ordinal, e.name, (if owner.isEmpty then "<module>" else owner) ++ "::" ++
        e.candidate.method.name, e.candidate.module.name]
    let t : Text.Table := ⟨toString sess.table.size ++ " exports, runtime " ++ sess.requirement.render,
      ["ORDINAL", "EXPORT", "METHOD", "MODULE"], rows, flags.number "width"⟩
    say t.render

/-- The file name of an image: the module name, with the extension added unless the name
already ends in it. -/
def imageFileName (name ext : String) : String :=
  if Text.equalFold (Path.ext name) ext then name else name ++ ext

/-- Packs descriptions into images. -/
def runPack (r : Reading) : Run Unit := do
  let flags := r.settings
  let cfg ← loadSettings flags
  let output := flags.text "output"
  let outDir := flags.text "out-dir"
  let ext := if flags.switch "exe" then ".exe" else ".dll"
  let inputs ← orFail (expandInputs (← currentFiles) r.args)
  if output != "" && inputs.length > 1 then
    fail (.error Code.badOption ("-o needs exactly one description, got " ++ toString inputs.length))
  let marker := cfg.attributes.head?.getD ""
  for input in inputs do
    let img ← orFail (packDescription input ((← currentFiles).readText input) marker)
    let dest := if output != "" then output
      else Path.join [if outDir != "" then outDir else Path.dir input, imageFileName img.identity.name ext]
    let w ← orFail (((← currentFiles).writeImage dest img).mapError fun f =>
      Fault.wrap Code.writeFailed f ("cannot write image " ++ dest))
    setFiles w
    say ("packed " ++ input ++ " -> " ++ dest ++ "\n")

/-- Installs images into the cache. -/
def runCacheAdd (host : Host) (r : Reading) : Run Unit := do
  let cfg ← loadSettings r.settings
  let some cache := cacheOf host cfg
    | fail (.error Code.badConfig "no cache directory configured and no home directory to default to")
  let paths ← orFail (expandInputs (← currentFiles) r.args)
  for p in paths do
    let img ← orFail (((← currentFiles).readImage p).mapError fun f =>
      Fault.wrap Code.unreadableImage f ("cannot read module image " ++ p))
    let (w, dest) ← orFail ((cache.put (← currentFiles) img).mapError fun f =>
      Fault.wrap Code.writeFailed f ("cannot install " ++ p))
    setFiles w
    say ("installed " ++ img.identity.name ++ " -> " ++ dest ++ "\n")

/-- Lists the cached modules. -/
def runCacheList (host : Host) (r : Reading) : Run Unit := do
  let cfg ← loadSettings r.settings
  let cache := cacheOf host cfg
  let dir := (cache.map (·.dir)).getD ""
  let entries ← match cache with
    | none => pure []
    | some c => orFail ((c.readIndex (← currentFiles)).map (·.entries) |>.mapError fun f =>
        Fault.wrap Code.readFailed f ("cannot read cache index in " ++ dir))
  let rows := entries.map fun e =>
    let token := if e.identity.token.isEmpty then "null" else Text.hexOfBytes e.identity.token
    [e.identity.name, e.identity.version.render, token, e.identity.culture]
  let t : Text.Table := ⟨toString entries.length ++ " cached modules in " ++ dir,
    ["NAME", "VERSION", "TOKEN", "CULTURE"], rows, 0⟩
  say t.render

/-- Prints the cache directory. -/
def runCacheDir (host : Host) (r : Reading) : Run Unit := do
  let cfg ← loadSettings r.settings
  say (((cacheOf host cfg).map (·.dir)).getD "" ++ "\n")

/-- Tells the tool's version, plainly or as a JSON object. -/
def runVersion (r : Reading) : Run Unit := do
  let flags := r.settings
  let format := Text.lower (flags.text "format")
  let full := flags.switch "full"
  let withHash := flags.switch "hash" || full
  let withDate := flags.switch "date" || full
  if format != "pretty" && format != "json" then
    fail (.error Code.badOption ("unsupported format " ++ Text.quote (flags.text "format") ++
      " (must be pretty or json)"))
  if format == "json" then
    say ("\x7b\n  \"tool\": \"exportgen\",\n  \"version\": \"" ++ toolVersion ++ "\"" ++
      (if withHash then ",\n  \"git_commit\": \"unknown\"" else "") ++
      (if withDate then ",\n  \"build_date\": \"unknown\"" else "") ++ "\n\x7d\n")
  else
    say ("exportgen " ++ toolVersion ++ "\n" ++ (if withHash then "commit: unknown\n" else "") ++
      (if withDate then "built:  unknown\n" else ""))

/-- Checks the settings every command shares: the colour mode and the trace options. -/
def checkShared (flags : FlagSettings) : Run Unit := do
  let color := flags.text "color"
  if color != "on" && color != "off" && color != "auto" then
    fail (.error Code.badOption ("unsupported --color value " ++ Text.quote color ++
      " (must be auto, on or off)"))
  let level := flags.text "trace-level"
  let levels := ["off", "error", "phase", "detail", "debug"]
  if !levels.contains (Text.lower level) then
    fail (.wrap Code.badOption (.reason ("invalid trace level: " ++ Text.quote level ++
      " (expected: off|error|phase|detail|debug)")) "invalid trace level")
  let format := flags.text "trace-format"
  let formats := ["", "auto", "text", "ndjson", "json"]
  if (Text.lower level != "off" || flags.text "trace" != "") &&
      !formats.contains (Text.lower format) then
    fail (.wrap Code.badOption (.reason ("invalid trace format: " ++ Text.quote format ++
      " (expected: auto|text|ndjson)")) "invalid trace format")

/-- Does what the selected command does. -/
def act (host : Host) (path : List String) (r : Reading) : Run Unit :=
  match path with
  | [] => runBuild host r
  | ["inspect"] => runInspect host r
  | ["pack"] => runPack r
  | ["cache", "add"] => runCacheAdd host r
  | ["cache", "list"] => runCacheList host r
  | ["cache", "dir"] => runCacheDir host r
  | ["version"] => runVersion r
  | ["help"] => say (tool.help (tool.locate r.args).1)
  | ["completion", shell] =>
    match Shell.ofName? shell with
    | some sh => say (completionScript sh tool.name !(r.settings.switch "no-descriptions"))
    | none => pure ()
  | _ => pure ()

/-- Answers a completion request: the choices, one a line, then the directive's number after a
colon; the directive's name, and the error if there is one, go to the error stream. -/
def runRequest (t : Tool) (descriptions : Bool) (r : Reading) : Run Unit := do
  let o := t.complete r.args
  if let some e := o.error then complain ("[Debug] [Error] " ++ e ++ "\n")
  for c in o.choices do say (Offer.shown descriptions c ++ "\n")
  say (":" ++ toString o.directive.code ++ "\n")
  complain ("Completion ended with directive: " ++ o.directive.name ++ "\n")

/-- Selects the command of a command line, reads its flags and runs it.  Help, the version
switch and commands that only group others print their text instead.  A command that does
not read flags takes its words as they are. -/
def execute (host : Host) (args : List String) : Run Unit := do
  let t := toolFor args
  let (path, words) := t.locate args
  let c := t.commandAt path
  let r ← if !c.readsFlags then pure ⟨FlagSettings.initial (t.lineFlags path), words, none, []⟩
    else match readLine (t.lineFlags path) words with
    | .ok r => pure r
    | .error e =>
      modify fun c => { c with detail := e.settings.switch "detail" }
      fail e.fault
  modify fun c => { c with detail := r.settings.switch "detail" }
  if r.settings.switch "help" then
    say (t.help path)
  else if path.isEmpty && r.settings.switch "version" then
    say t.versionLine
  else if !c.runnable then
    say (t.help path)
  else
    match t.checkArgs path r.args with
    | .error e => fail (.reason e)
    | .ok () =>
      checkShared r.settings
      if path == requestCommand.path then
        let called := (Tool.plainWords (t.declaredFlags []) args).headD ""
        runRequest t (!requestCommand.aliases.contains called) r
      else act host path r

/-- Runs the tool on a command line over a workspace. -/
def run (host : Host) (w : Workspace) (args : List String) : Outcome :=
  let (result, c) := (execute host args).run.run ⟨"", "", w, false⟩
  match result with
  | .ok () => ⟨0, c.out, c.err, c.files⟩
  | .error (.status n) => ⟨n, c.out, c.err, c.files⟩
  -- A crash is not reported as a finding: the run ends with status 2 and the crash's text.
  | .error (.fault (.crash t)) => ⟨2, c.out, c.err ++ "panic: " ++ t ++ "\n", c.files⟩
  | .error (.fault f) => ⟨f.code.exitStatus, c.out, c.err ++ errorReport f c.detail, c.files⟩

end NativeExports.Cli
