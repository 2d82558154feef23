import NativeExports.Fault
import NativeExports.Path
import NativeExports.Text.Bytes
/-!
A workspace: the files and directories a run can see, as a tree of cleaned relative paths
below the working directory (which always exists).  Paths are given as the caller wrote
them; they are cleaned to find entries, and messages show them as written.

Reading a file fails when a directory on its path is missing or is a file, when it is
missing, or when it is a directory.  Writing a file needs its directory to exist.  Making a
directory makes its missing parents and fails at the first part of its path that is a file.
Nothing outside the working directory exists.
-/

namespace NativeExports

/-- An entry of a workspace. -/
inductive Entry where
  | file (bytes : List UInt8)
  | directory
  deriving Repr, DecidableEq, Inhabited

/-- A tree of files and directories, by cleaned relative path. -/
structure Workspace where
  entries : List (String × Entry)
  /-- How many temporary files were made so far; names new ones. -/
  madeTemps : Nat
  deriving Repr, Inhabited

/-- The fault the system reports for an operation on a path. -/
def systemFault (op path reason : String) : Fault := .context (op ++ " " ++ path) (.reason reason)

namespace Workspace

/-- The workspace with nothing but its root. -/
def empty : Workspace := ⟨[], 0⟩

/-- The key of a path in the tree, none for a path outside the working directory. -/
def key? (p : String) : Option String :=
  let c := Path.clean p
  if Path.isAbs c || c = ".." || c.startsWith "../" then none else some c

/-- The entry at a path. -/
def find? (w : Workspace) (p : String) : Option Entry :=
  match key? p with
  | none => none
  | some "." => some .directory
  | some k => (w.entries.find? (·.1 == k)).map (·.2)

/-- The proper prefixes of a key, shortest first. -/
def parentKeys (k : String) : List String :=
  let parts := Path.parts k
  (List.range (parts.length - 1)).map fun i => String.intercalate "/" (parts.take (i + 1))

/-- What stops a path from being reached: a directory on the way that is missing or is a
file. -/
def wayProblem? (w : Workspace) (p : String) : Option String :=
  match key? p with
  | none => some "no such file or directory"
  | some k => (parentKeys k).findSome? fun parent =>
    match w.find? parent with
    | none => some "no such file or directory"
    | some (.file _) => some "not a directory"
    | some .directory => none

/-- Whether a path names a file. -/
def isFile (w : Workspace) (p : String) : Bool :=
  match w.find? p with
  | some (.file _) => true
  | _ => false

/-- Whether a path names a directory. -/
def isDirectory (w : Workspace) (p : String) : Bool :=
  match w.find? p with
  | some .directory => true
  | _ => false

/-- The bytes of a file. -/
def readFile (w : Workspace) (p : String) : Except Fault (List UInt8) :=
  match w.wayProblem? p with
  | some r => .error (systemFault "open" p r)
  | none => match w.find? p with
    | none => .error (systemFault "open" p "no such file or directory")
    | some .directory => .error (systemFault "read" p "is a directory")
    | some (.file b) => .ok b

/-- The text of a file, read as UTF-8 with its stray bytes kept. -/
def readText (w : Workspace) (p : String) : Except Fault String :=
  (w.readFile p).map Text.ofBytes

/-- Sets the entry at a key, keeping the order of the others. -/
def setEntry (w : Workspace) (k : String) (e : Entry) : Workspace :=
  if w.entries.any (·.1 == k) then
    { w with entries := w.entries.map fun (k', x) => if k' == k then (k', e) else (k', x) }
  else { w with entries := w.entries ++ [(k, e)] }

/-- Writes a file, replacing one that is there; its directory must exist. -/
def writeFile (w : Workspace) (p : String) (bytes : List UInt8) : Except Fault Workspace :=
  match w.wayProblem? p, key? p with
  | some r, _ => .error (systemFault "open" p r)
  | none, none => .error (systemFault "open" p "no such file or directory")
  | none, some k => match w.find? p with
    | some .directory => .error (systemFault "open" p "is a directory")
    | _ => .ok (w.setEntry k (.file bytes))

/-- The path without its last part, as written, when it has a slash. -/
def writtenParent? (p : String) : Option String :=
  let trimmed := (p.toList.reverse.dropWhile (· = '/')).reverse
  let before := (trimmed.reverse.dropWhile (· ≠ '/')).reverse
  if before.isEmpty then none
  else
    let parent := (before.reverse.dropWhile (· = '/')).reverse
    if parent.isEmpty then some "/" else some (String.ofList parent)

/-- Makes a directory and its missing parents; fails at the first part of the path that is
a file, naming the path up to it as written. -/
def mkdirAll (w : Workspace) (p : String) : Nat → Except Fault Workspace
  | 0 => .ok w
  | fuel + 1 =>
    match w.find? p with
    | some .directory => .ok w
    | some (.file _) => .error (systemFault "mkdir" p "not a directory")
    | none => do
      let w ← match writtenParent? p with
        | some parent => w.mkdirAll parent fuel
        | none => pure w
      match key? p with
      | none => .error (systemFault "mkdir" p "no such file or directory")
      | some k => pure (w.setEntry k .directory)

/-- Makes a directory and its missing parents. -/
def makeDirs (w : Workspace) (p : String) : Except Fault Workspace := w.mkdirAll p (p.length + 1)

/-- Writes a file, making its directory and the missing parents first. -/
def putFile (w : Workspace) (p : String) (bytes : List UInt8) : Except Fault Workspace := do
  let w ← w.makeDirs (Path.dir p)
  w.writeFile p bytes

/-- Removes a file or an empty directory; nothing happens when it is missing. -/
def remove (w : Workspace) (p : String) : Workspace :=
  match key? p with
  | none => w
  | some k => { w with entries := w.entries.filter (·.1 != k) }

/-- Moves a file to another path, replacing a file that is there; a directory there is not
replaced. -/
def rename (w : Workspace) (src dst : String) : Except Fault Workspace := do
  let bytes ← (w.readFile src).mapError fun _ =>
    .context ("rename " ++ src ++ " " ++ dst) (.reason "no such file or directory")
  if w.isDirectory dst then
    throw (.context ("rename " ++ src ++ " " ++ dst) (.reason "file exists"))
  let w' ← (w.writeFile dst bytes).mapError fun _ =>
    .context ("rename " ++ src ++ " " ++ dst) (.reason "no such file or directory")
  pure (w'.remove src)

/-- The fresh name the next temporary file in a directory gets: `prefix`, a number, `suffix`. -/
def tempName (w : Workspace) (dir pre suf : String) : String :=
  Path.join [dir, pre ++ toString (w.madeTemps + 1) ++ suf]

/-- Writes a file under a fresh name in a directory. -/
def writeTemp (w : Workspace) (dir pre suf : String) (bytes : List UInt8) :
    Except Fault (Workspace × String) := do
  let name := w.tempName dir pre suf
  let w' ← w.writeFile name bytes
  pure ({ w' with madeTemps := w.madeTemps + 1 }, name)

/-- The names in a directory, sorted. -/
def listDir (w : Workspace) (p : String) : Except Fault (List String) :=
  match w.wayProblem? p, w.find? p, key? p with
  | some r, _, _ => .error (systemFault "open" p r)
  | none, none, _ => .error (systemFault "open" p "no such file or directory")
  | none, some (.file _), _ => .error (systemFault "readdirent" p "not a directory")
  | none, some .directory, some k =>
    let inside (e : String) : Option String :=
      if k = "." then (if e.contains '/' then none else some e)
      else if e.startsWith (k ++ "/") then
        let rest := e.drop (k.length + 1) |>.toString
        if rest.contains '/' then none else some rest
      else none
    .ok ((w.entries.filterMap fun (e, _) => inside e).mergeSort fun a b => decide (a ≤ b))
  | none, some .directory, none => .ok []

/-- The paths of every file, sorted. -/
def files (w : Workspace) : List String :=
  (w.entries.filterMap fun (k, e) => match e with
    | .file _ => some k
    | .directory => none).mergeSort fun a b => decide (a ≤ b)

/-- The files at or below a path, by key: the path itself when it is a file, every file below
it when it is a directory, and none when it is missing. -/
def filesUnder (w : Workspace) (root : String) : List String :=
  match w.find? root, key? root with
  | some (.file _), some k => [k]
  | some .directory, some k => w.files.filter fun f => k == "." || f.startsWith (k ++ "/")
  | _, _ => []

end Workspace

end NativeExports
