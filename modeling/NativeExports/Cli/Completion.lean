import NativeExports.Cli.Help
import NativeExports.Text.Blank
import NativeExports.Text.Bytes
/-!
Completing command lines.

A shell asks the tool what may stand in place of the word being completed, given the words
before it.  The words before it select a command the way a command line does.  Then:

* a word after a flag that takes a value (`--name word`, or `--name=word` with the word
  after the `=`) is that flag's value, for which the tool offers nothing; a flag that the
  command does not take is an error, unless `--` came before;
* a word starting with `-` (and without `=`) is a flag name: the command offers the flags
  passed on to it and then its own, each sorted by name and each not yet set, by long name
  and by short name where these start with the word;
* any other word is a command name when no argument and no flag of the command's own came
  before it: the command offers the commands below it that start with the word;
* last, the command adds what it offers for its arguments: command names for `help`, and a
  request to offer no file names for the commands that make completion scripts.

When the line does not read, or already asks for help or the version, nothing is offered.
The shell is told how to go on: as it likes, or without offering file names.
-/

namespace NativeExports.Cli

/-- How the shell is to go on with what is offered. -/
inductive Directive where
  /-- As it likes: it may offer file names as well. -/
  | filesToo
  /-- Without offering file names. -/
  | noFiles
  deriving Repr, DecidableEq, Inhabited

namespace Directive

/-- The number that tells the shell the directive. -/
def code : Directive → Nat
  | .filesToo => 0
  | .noFiles => 4

/-- The name of the directive, for people. -/
def name : Directive → String
  | .filesToo => "ShellCompDirectiveDefault"
  | .noFiles => "ShellCompDirectiveNoFileComp"

end Directive

/-- What a request gives: the choices (a word, then perhaps a tab and a description), how the
shell is to go on, and the error that is reported beside them. -/
structure Offer where
  choices : List String
  directive : Directive
  error : Option String := none
  deriving Repr, Inhabited

/-- Whether a word is a flag with a name, long (`--x`) or short (`-x`). -/
def isFlagWord (w : String) : Bool :=
  (w.utf8ByteSize ≥ 3 && w.startsWith "--") || (w.utf8ByteSize ≥ 2 && w.startsWith "-" && !w.startsWith "--")

/-- The last byte of a word, as a text of its own. -/
def lastByte (w : String) : String := Text.ofBytes (Text.toBytes w).getLast?.toList

/-- A flag of a list by the name a line gives it: a one-byte name is a short name, any other
is a long name. -/
def flagByName? (flags : List Flag) (name : String) : Option Flag :=
  if name.utf8ByteSize == 1 then
    match name.toList with
    | [c] => findShort flags c
    | _ => none
  else findLong flags name

/-- What the flags tell about the word being completed. -/
structure FlagView where
  /-- The flag whose value the word is. -/
  flag : Option Flag
  /-- The words before it, without that flag. -/
  before : List String
  /-- The word being completed, without a flag attached to it by `=`. -/
  current : String
  /-- The name of a flag that the command does not take. -/
  unknown : Option String

/-- Looks at the word being completed, and at the word before it, for a flag whose value is
being completed.  A switch named by the word before takes no value, so it is not one. -/
def viewFlags (flags : List Flag) (before : List String) (word : String) : FlagView :=
  let attached : Option (String × String) :=
    if word.startsWith "-" && word.contains '=' then
      match word.splitOn "=" with
      | head :: rest =>
        some (if head.startsWith "--" then (head.drop 2).toString else lastByte head,
          String.intercalate "=" rest)
      | [] => none
    else none
  if word.startsWith "-" && attached.isNone then ⟨none, before, word, none⟩ else
  let current := (attached.map (·.2)).getD word
  let named := (attached.map (·.1)).getD ""
  let (name, trimmed) :=
    if !named.isEmpty then (named, before)
    else match before.getLast? with
      | some prev =>
        if isFlagWord prev && !prev.contains '=' then
          (if prev.startsWith "--" then (prev.drop 2).toString else lastByte prev, before.dropLast)
        else ("", before)
      | none => ("", before)
  if name.isEmpty then ⟨none, trimmed, current, none⟩ else
  match flagByName? flags name with
  | none => ⟨none, before, word, some name⟩
  | some f =>
    if attached.isNone && f.valueOptional then ⟨none, before, current, none⟩
    else ⟨some f, trimmed, current, none⟩

/-- A choice of a word with its description. -/
def choice (word description : String) : String := word ++ "\t" ++ description

/-- The choices a flag gives for a word: its long name and its short name, where they start
with the word. -/
def flagChoices (word : String) (f : Flag) : List String :=
  (if ("--" ++ f.name).startsWith word then [choice ("--" ++ f.name) f.usage] else []) ++
    match f.short with
    | some c => if ("-" ++ String.singleton c).startsWith word then
        [choice ("-" ++ String.singleton c) f.usage] else []
    | none => []

/-- Flags sorted by name. -/
def sortFlags (flags : List Flag) : List Flag := flags.mergeSort fun a b => decide (a.name ≤ b.name)

/-- The list of words as error messages show it. -/
def showWords (ws : List String) : String := "[" ++ String.intercalate " " ws ++ "]"

namespace Tool

/-- The commands below a path that completion offers: those listed, and the help command. -/
def offeredChildren (t : Tool) (path : List String) : List Command :=
  (t.children path).filter fun k => k.isHelp || t.listed (t.commands.length + 1) k

/-- The choices of command names below a path that start with a word. -/
def commandChoices (t : Tool) (path : List String) (word : String) : List String :=
  (t.offeredChildren path).filterMap fun k =>
    let name := t.nameOf k.path
    if name.startsWith word then some (choice name k.short) else none

/-- What a command offers for the argument being completed, after the arguments before it,
added to the choices so far. -/
def argChoices (t : Tool) (c : Command) (args : List String) (word : String)
    (so : List String × Directive) : List String × Directive :=
  match c.completes with
  | .files => so
  | .noFiles => (so.1, .noFiles)
  | .commandNames => (so.1 ++ t.commandChoices (t.locate args).1 word, .noFiles)

/-- What to offer once the words before the last have read: `r` is their reading, `view` what
the flags tell about the last word, `flagsOpen` whether flags may still come. -/
def completeRead (t : Tool) (path : List String) (c : Command) (r : Reading) (view : FlagView)
    (flagsOpen : Bool) : Offer :=
  if r.changed.contains "help" || (path.isEmpty && r.changed.contains "version") then
    ⟨[], .noFiles, none⟩
  else
  let args := if c.readsFlags then r.args else view.before
  let word := view.current
  let fresh (f : Flag) : Bool := !r.changed.contains f.name
  let asFlagName := view.flag.isNone && word.startsWith "-" && !word.contains '=' && flagsOpen
  let so : List String × Directive :=
    if asFlagName then
      ((sortFlags (t.inheritedFlags path) ++ sortFlags (t.localFlags path)).filter fresh
        |>.flatMap (flagChoices word), .noFiles)
    else if view.flag.isNone then
      let ownSet := (c.flags ++ [t.helpFlag path] ++ (if path.isEmpty then [t.versionFlag] else []))
        |>.any fun f => !fresh f
      if args.isEmpty && !ownSet && !(t.offeredChildren path).isEmpty then
        (t.commandChoices path word, .noFiles)
      else ([], .filesToo)
    else ([], .filesToo)
  if asFlagName && c.readsFlags then ⟨so.1, so.2, none⟩
  else
    let (choices, directive) :=
      if view.flag.isSome && flagsOpen then so else t.argChoices c args word so
    ⟨choices, directive, none⟩

/-- What to offer in place of the last word of a line, given the words before it. -/
def complete (t : Tool) (words : List String) : Offer :=
  let word := words.getLastD ""
  let (path, rest) := t.locate words.dropLast
  let c := t.commandAt path
  let flags := t.lineFlags path
  let view : FlagView :=
    if c.readsFlags then viewFlags flags rest word else ⟨none, rest, word, none⟩
  let read (ws : List String) : Except LineFault Reading :=
    if c.readsFlags then readLine flags ws else .ok ⟨FlagSettings.initial flags, [], none, []⟩
  let extra := match read (view.before ++ ["--"]) with
    | .ok r => r.args.length
    | .error _ => 0
  match read view.before with
  | .error e =>
    ⟨[], .filesToo, some ("error while parsing flags from args " ++ showWords view.before ++
      ": " ++ e.fault.text)⟩
  | .ok r =>
  let flagsOpen := !(extra > r.args.length)
  match view.unknown with
  | some name =>
    if flagsOpen then
      ⟨[], .filesToo, some ("Subcommand \x27" ++ t.nameOf path ++ "\x27 does not support flag \x27" ++
        name ++ "\x27")⟩
    else t.completeRead path c r { view with unknown := none } flagsOpen
  | none => t.completeRead path c r view flagsOpen

end Tool

/-- A choice as the shell is given it: without its description when descriptions are left
out, its first line only, without blanks at either end. -/
def Offer.shown (descriptions : Bool) (c : String) : String :=
  let c := if descriptions then c else (c.splitOn "\t").headD ""
  Text.trimBlank ((c.splitOn "\n").headD "")

end NativeExports.Cli
