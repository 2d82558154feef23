import NativeExports.Cli.Run
/-!
The files a command line may read, for a host that has to fetch files before a run.

A run reads the files its arguments name, the settings file, the module cache's index and
the files the index lists, and, for every module image it reads, the files a reference of
that image may be found in: the image's own directory and the registry directories, with
each module extension.  Starting from the arguments, each round adds what the files fetched
so far point to; a host fetches until a round adds nothing.
-/

namespace NativeExports.Cli

/-- The paths an argument may name: itself, and the value of an option or flag it carries. -/
def argumentPaths (arg : String) : List String :=
  let value := match arg.toList.dropWhile fun c => c != ':' && c != '=' with
    | _ :: v => [String.ofList v]
    | [] => []
  (arg :: value).filter fun p => !p.isEmpty

/-- The settings a command line would run with, over the files fetched so far. -/
def settingsFor (w : Workspace) (args : List String) : Settings :=
  let (path, words) := tool.locate args
  let explicit := match readLine (tool.lineFlags path) words with
    | .ok r => r.settings.text "config"
    | .error _ => ""
  let file := if explicit != "" then explicit else settingsFileName
  match w.find? file with
  | some (.file _) => (Settings.ofFile file (w.readText file)).toOption.getD Settings.defaults
  | _ => Settings.defaults

/-- The paths a run of a command line may read, given the files fetched so far. -/
def wantedPaths (host : Host) (w : Workspace) (args : List String) : List String :=
  let cfg := settingsFor w args
  let cacheFiles := match cacheOf host cfg with
    | some c =>
      c.indexPath :: match c.readIndex w with
        | .ok idx => idx.entries.map fun e => Path.join [c.dir, e.file]
        | .error _ => []
    | none => []
  let images := w.files.filterMap fun p => (w.readImage p).toOption.map (p, ·)
  let referenced := images.flatMap fun (p, img) => img.references.flatMap fun ref =>
    (Path.dir p :: cfg.registryDirs).flatMap fun dir =>
      moduleExtensions.map fun ext => Path.join [dir, ref.name ++ ext]
  (args.flatMap argumentPaths ++ [settingsFileName] ++ cacheFiles ++ referenced).eraseDups

end NativeExports.Cli
