import NativeExports.Cli.Reach
/-!
The command line of the export tool.

The files a run may read are fetched from the working directory into a workspace (round by
round, as `Cli.wantedPaths` says), the run is made over that workspace, its two streams are
printed, and the files it made or changed are written back.  Only paths below the working
directory are reached.  This layer cannot start programs, so a build ends where it would call
the assembler, as when none is found.
-/

namespace NativeExports.Cli

/-- The entry a path holds on disk: a file with its bytes, a directory, or nothing. -/
def fetchEntry (p : String) : IO (Option Entry) := do
  try
    return some (.file (← IO.FS.readBinFile p).toList)
  catch e =>
    match e with
    | .inappropriateType _ 21 _ => return some .directory
    | _ => return none

/-- Adds what paths hold on disk to a workspace, with the directories above each of them. -/
def fetchInto (w : Workspace) (paths : List String) : IO Workspace := do
  let mut w := w
  for p in paths do
    if let some k := Workspace.key? p then
      if (w.entries.lookup k).isNone && k != "." then
        if let some e ← fetchEntry p then
          for d in Workspace.parentKeys k do
            if (w.entries.lookup d).isNone then w := w.setEntry d .directory
          w := w.setEntry k e
  return w

/-- Fetches rounds of wanted paths until a round wants nothing new, or the rounds run out. -/
def fetchRounds (host : Host) (args : List String) : Nat → List String → Workspace → IO Workspace
  | 0, _, w => pure w
  | rounds + 1, asked, w => do
    let wanted := wantedPaths host w args
    let fresh := wanted.filter fun p => !asked.contains p
    if fresh.isEmpty then pure w
    else fetchRounds host args rounds (asked ++ fresh) (← fetchInto w fresh)

/-- Writes back what a run made or changed, and removes the files it removed. -/
def writeBack (before after : Workspace) : IO Unit := do
  for (k, e) in after.entries do
    match e, before.entries.lookup k with
    | .directory, some .directory => pure ()
    | .directory, _ => IO.FS.createDirAll k
    | .file b, old =>
      if old != some (.file b) then
        IO.FS.createDirAll (Path.dir k)
        IO.FS.writeBinFile k ⟨b.toArray⟩
  for (k, e) in before.entries do
    if (after.entries.lookup k).isNone then
      match e with
      | .file _ => IO.FS.removeFile k
      | .directory => pure ()

/-- The host as the environment describes it.  No file can be started as a program, and the
file system and the output stream accept every write and removal. -/
def hostFromEnvironment : IO Host := do
  let searchPath := ((← IO.getEnv "PATH").getD "").splitOn ":" |>.map fun d => if d.isEmpty then "." else d
  let tmp := (← IO.getEnv "TMPDIR").getD ""
  let xdg := (← IO.getEnv "XDG_CACHE_HOME").getD ""
  let home := (← IO.getEnv "HOME").getD ""
  let cacheHome := if !xdg.isEmpty then some xdg
    else if !home.isEmpty then some (Path.join [home, ".cache"]) else none
  pure ⟨searchPath, if tmp.isEmpty then "/tmp" else tmp, cacheHome, fun _ => false,
    fun _ _ _ => (127, "", ""), fun _ => none, fun _ => none, fun _ => none, none⟩

end NativeExports.Cli

/-- Runs the export tool on the command line's arguments in the working directory. -/
def main (args : List String) : IO UInt32 := do
  let host ← NativeExports.Cli.hostFromEnvironment
  let w ← NativeExports.Cli.fetchRounds host args 64 [] NativeExports.Workspace.empty
  let o := NativeExports.Cli.run host w args
  IO.print o.out
  IO.eprint o.err
  NativeExports.Cli.writeBack w o.files
  return o.status.toUInt32
