import NativeExports.Cli.Flag
/-!
A tool's commands and how a command line picks one.

A tool has a name, a version and commands; each command is named by the path of words that
leads to it (the tool itself has the empty path).  A command has flags of its own and flags it
passes on to every command below it; every command also takes `-h, --help`, and the tool
itself `-v, --version`.

The command of a command line is found word by word: among the words that are not flags (a
flag that takes a value hides the word after it, and an unknown flag is taken to take one),
the first one that names a command below the current one selects it and is removed, and the
search goes on from there.  `--` stops the search.
-/

namespace NativeExports.Cli

/-- What a command accepts as arguments. -/
inductive ArgRule where
  /-- Any arguments. -/
  | any
  /-- No arguments; the first one is reported as an unknown command. -/
  | none
  /-- At least this many arguments. -/
  | atLeast (n : Nat)
  deriving Repr, DecidableEq, Inhabited

/-- What a command offers when the word being completed is one of its arguments. -/
inductive ArgCompletion where
  /-- Nothing of its own; the shell may offer file names. -/
  | files
  /-- Nothing, and no file names either. -/
  | noFiles
  /-- The names of the commands below the command that its arguments lead to. -/
  | commandNames
  deriving Repr, DecidableEq, Inhabited

/-- A command of a tool. -/
structure Command where
  /-- The words that lead to it from the tool; empty for the tool itself. -/
  path : List String
  /-- Its name followed by a sketch of its arguments. -/
  use : String
  short : String
  long : String := ""
  flags : List Flag := []
  /-- Flags it passes on to the commands below it, and takes itself. -/
  passedOn : List Flag := []
  args : ArgRule := .any
  /-- Whether it does something of its own, rather than only grouping commands. -/
  runnable : Bool := true
  /-- Whether it is the help command, which is listed though it does not count as a command
  to run. -/
  isHelp : Bool := false
  /-- Whether its usage line ends in a mark that flags may follow. -/
  flagsInUse : Bool := true
  /-- Other words that select it. -/
  aliases : List String := []
  /-- Whether it is left out of listings and completions. -/
  hidden : Bool := false
  /-- Whether its words are read for flags; a command that does not read them takes all its
  words as arguments. -/
  readsFlags : Bool := true
  /-- What it offers for the argument being completed. -/
  completes : ArgCompletion := .files
  deriving Repr, Inhabited

/-- A tool with its commands. -/
structure Tool where
  name : String
  version : String
  commands : List Command
  deriving Repr, Inhabited

namespace Tool

/-- The command at a path. -/
def command? (t : Tool) (path : List String) : Option Command := t.commands.find? (·.path == path)

/-- The command at a path, or the tool's own command. -/
def commandAt (t : Tool) (path : List String) : Command :=
  (t.command? path).getD ((t.command? []).getD default)

/-- A command's name: the last word of its path, or the tool's name. -/
def nameOf (t : Tool) (path : List String) : String := path.getLast?.getD t.name

/-- The words that name a command on a command line, starting with the tool's name. -/
def commandPath (t : Tool) (path : List String) : String := String.intercalate " " (t.name :: path)

/-- The commands right below a path, sorted by name. -/
def children (t : Tool) (path : List String) : List Command :=
  (t.commands.filter fun c => c.path.length == path.length + 1 && c.path.take path.length == path)
    |>.mergeSort fun a b => decide (a.path.getLast?.getD "" ≤ b.path.getLast?.getD "")

/-- The flags passed on to a command from the commands above it. -/
def inheritedFlags (t : Tool) (path : List String) : List Flag :=
  (List.range path.length).flatMap fun i => (t.commandAt (path.take i)).passedOn

/-- The help switch of a command. -/
def helpFlag (t : Tool) (path : List String) : Flag :=
  Flag.switch "help" ("help for " ++ t.nameOf path) (some 'h')

/-- The version switch of the tool. -/
def versionFlag (t : Tool) : Flag := Flag.switch "version" ("version for " ++ t.name) (some 'v')

/-- The flags a command declares itself, before help and version are added. -/
def declaredFlags (t : Tool) (path : List String) : List Flag :=
  let c := t.commandAt path
  c.flags ++ c.passedOn ++ t.inheritedFlags path

/-- The flags a command's own line is read with. -/
def lineFlags (t : Tool) (path : List String) : List Flag :=
  let c := t.commandAt path
  c.flags ++ c.passedOn ++ [t.helpFlag path] ++ (if path.isEmpty then [t.versionFlag] else []) ++
    t.inheritedFlags path

/-- The flags a command shows as its own: all it takes but those passed on from above. -/
def localFlags (t : Tool) (path : List String) : List Flag :=
  let c := t.commandAt path
  c.flags ++ c.passedOn ++ [t.helpFlag path] ++ (if path.isEmpty then [t.versionFlag] else [])

/-! Finding the command of a command line -/

/-- Whether a long flag is a switch, which takes no following word. -/
def switchNamed (flags : List Flag) (name : String) : Bool :=
  match findLong flags name with
  | some f => f.valueOptional
  | none => false

/-- Whether a short flag is a switch. -/
def shortSwitch (flags : List Flag) (name : String) : Bool :=
  match name.toList.head? with
  | some c => match findShort flags c with
    | some f => f.valueOptional
    | none => false
  | none => false

/-- Whether a word is a flag that takes the next word as its value. -/
def takesNext (flags : List Flag) (w : String) : Bool :=
  (w.startsWith "--" && !w.contains '=' && !switchNamed flags (w.drop 2).toString) ||
    (w.startsWith "-" && !w.contains '=' && w.utf8ByteSize == 2 &&
      !shortSwitch flags (w.drop 1).toString)

/-- The words of a command line that are not flags or their values, up to `--`. -/
def plainWords (flags : List Flag) : List String → List String
  | [] => []
  | w :: rest =>
    if w == "--" then []
    else if takesNext flags w then plainWords flags (rest.drop 1)
    else if w != "" && !w.startsWith "-" then w :: plainWords flags rest
    else plainWords flags rest
termination_by ws => ws.length
decreasing_by
  all_goals simp only [List.length_drop, List.length_cons]
  all_goals omega

/-- The command line without the first plain word equal to `x`. -/
def withoutWord (flags : List Flag) (x : String) : List String → List String
  | [] => []
  | w :: rest =>
    if w == "--" then w :: rest
    else if takesNext flags w then w :: rest.take 1 ++ withoutWord flags x (rest.drop 1)
    else if !w.startsWith "-" && w == x then rest
    else w :: withoutWord flags x rest
termination_by ws => ws.length
decreasing_by
  all_goals simp only [List.length_drop, List.length_cons]
  all_goals omega

/-- The command right below a path that a word selects, by its name or one of its aliases. -/
def childNamed? (t : Tool) (path : List String) (word : String) : Option Command :=
  (t.children path).find? fun c => c.path == path ++ [word] || c.aliases.contains word

/-- The command a command line selects below a path, with the words left for it. -/
def locateFrom (t : Tool) : Nat → List String → List String → List String × List String
  | 0, path, words => (path, words)
  | fuel + 1, path, words =>
    let flags := t.declaredFlags path
    match plainWords flags words with
    | [] => (path, words)
    | next :: _ =>
      match t.childNamed? path next with
      | some c => t.locateFrom fuel c.path (withoutWord flags next words)
      | none => (path, words)

/-- The command a command line selects, with the words left for it. -/
def locate (t : Tool) (words : List String) : List String × List String :=
  t.locateFrom (words.length + 1) [] words

/-! Arguments -/

/-- Checks a command's arguments against its rule. -/
def checkArgs (t : Tool) (path : List String) (args : List String) : Except String Unit :=
  match (t.commandAt path).args, args with
  | .none, a :: _ => .error ("unknown command " ++ Text.quote a ++ " for " ++ Text.quote (t.commandPath path))
  | .atLeast n, _ =>
    if args.length < n then
      .error ("requires at least " ++ toString n ++ " arg(s), only received " ++ toString args.length)
    else .ok ()
  | _, _ => .ok ()

end Tool

end NativeExports.Cli
