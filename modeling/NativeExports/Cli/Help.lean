import NativeExports.Cli.Command
/-!
Usage and help texts of a tool's commands.

The usage of a command shows how to call it (its usage line, when it runs, and a line for its
subcommands, when it has some), its subcommands with their short descriptions in a padded
column, its own flags and the flags passed on to it, each as an aligned table, and a pointer
to the help of subcommands.  The help of a command is its long description (or its short
one) followed by its usage.

A flag's line shows its names, the kind of value it takes (`int`, `string`, nothing for a
switch), its help and its default when that is not the zero value.  The help column starts
two places after the longest name column of the table.
-/

namespace NativeExports.Cli

/-- The word that names the kind of value a flag takes. -/
def FlagKind.word : FlagKind → String
  | .switch => ""
  | .number => "int"
  | .text => "string"

namespace Flag

/-- The names and value word of a flag, as its help line starts. -/
def namesColumn (f : Flag) : String :=
  (match f.short with
    | some c => "  -" ++ String.singleton c ++ ", --" ++ f.name
    | none => "      --" ++ f.name) ++
  (if f.kind.word.isEmpty then "" else " " ++ f.kind.word)

/-- Whether the default is the zero value of the flag's kind, which the help leaves out. -/
def defaultIsZero (f : Flag) : Bool :=
  match f.kind with
  | .switch => f.default == "false"
  | .number => f.default == "0"
  | .text => f.default == ""

/-- The help of a flag with its default. -/
def helpColumn (f : Flag) : String :=
  f.usage ++
    if f.defaultIsZero then ""
    else if f.kind == .text then " (default " ++ Text.quote f.default ++ ")"
    else " (default " ++ f.default ++ ")"

end Flag

/-- Spaces. -/
def spaces (n : Nat) : String := String.ofList (List.replicate n ' ')

/-- The help table of flags, sorted by name, one line each. -/
def flagTable (flags : List Flag) : String :=
  let sorted := flags.mergeSort fun a b => decide (a.name ≤ b.name)
  let width := sorted.foldl (fun m f => max m (f.namesColumn.utf8ByteSize + 1)) 0
  String.join (sorted.map fun f =>
    f.namesColumn ++ " " ++ spaces (width - f.namesColumn.utf8ByteSize) ++ " " ++ f.helpColumn ++ "\n")

/-- Text without its trailing blanks. -/
def trimEnd (s : String) : String :=
  String.ofList (s.toList.reverse.dropWhile Char.isWhitespace).reverse

/-- Text padded with spaces on the right to a width. -/
def padRight (s : String) (width : Nat) : String := s ++ spaces (width - s.length)

namespace Tool

/-- The narrowest column of command names. -/
def minNameColumn : Nat := 11

/-- Whether a command is listed as one to call: it runs or groups commands that are listed,
and it is neither hidden nor the help command.  Grouping is followed to the depth of the
command tree. -/
def listed (t : Tool) : Nat → Command → Bool
  | 0, _ => false
  | fuel + 1, c =>
    !c.hidden && !c.isHelp && (c.runnable || (t.children c.path).any (t.listed fuel))

/-- Whether a command has subcommands listed as ones to call. -/
def hasListedChildren (t : Tool) (path : List String) : Bool :=
  (t.children path).any (t.listed (t.commands.length + 1))

/-- The usage line of a command: the command path with its argument sketch, and `[flags]`
unless the command leaves that mark out. -/
def useLine (t : Tool) (path : List String) : String :=
  let c := t.commandAt path
  let line := match path with
    | [] => c.use
    | _ => t.commandPath path.dropLast ++ " " ++ c.use
  if !c.flagsInUse || (line.splitOn "[flags]").length > 1 then line else line ++ " [flags]"

/-- The usage text of a command. -/
def usage (t : Tool) (path : List String) : String :=
  let c := t.commandAt path
  let subs := t.hasListedChildren path
  let kids := t.children path
  let column := kids.foldl (fun m k => max m (t.nameOf k.path).length) 0 |> max minNameColumn
  let shown := kids.filter fun k => k.isHelp || t.listed (t.commands.length + 1) k
  let inherited := t.inheritedFlags path
  "Usage:" ++
    (if c.runnable then "\n  " ++ t.useLine path else "") ++
    (if subs then "\n  " ++ t.commandPath path ++ " [command]" else "") ++
    (if subs then
      "\n\nAvailable Commands:" ++ String.join (shown.map fun k =>
        "\n  " ++ padRight (t.nameOf k.path) column ++ " " ++ k.short)
    else "") ++
    "\n\nFlags:\n" ++ trimEnd (flagTable (t.localFlags path)) ++
    (if inherited.isEmpty then "" else "\n\nGlobal Flags:\n" ++ trimEnd (flagTable inherited)) ++
    (if subs then
      "\n\nUse \"" ++ t.commandPath path ++ " [command] --help\" for more information about a command."
    else "") ++ "\n"

/-- The help text of a command: its description, then its usage. -/
def help (t : Tool) (path : List String) : String :=
  let c := t.commandAt path
  let about := if c.long.isEmpty then c.short else c.long
  (if about.isEmpty then "" else trimEnd about ++ "\n\n") ++
    (if c.runnable || !(t.children path).isEmpty then t.usage path else "")

/-- The line the version switch prints. -/
def versionLine (t : Tool) : String := t.name ++ " version " ++ t.version ++ "\n"

end Tool

end NativeExports.Cli
