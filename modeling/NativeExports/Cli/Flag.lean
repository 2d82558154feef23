import NativeExports.Fault
import NativeExports.Text.Integer
import NativeExports.Text.Quote
/-!
Command-line flags and the reading of a command line into flag settings and arguments.

A flag has a long name, perhaps a one-letter short name, a kind (switch, number or text), a
default and a line of help.  A command line is read from the left:

* `--` ends the flags; everything after it is an argument, and its position among the
  arguments is remembered;
* `-` alone, and anything not starting with `-`, is an argument; flags may follow arguments;
* `--name=value` sets a flag; `--name` sets a switch to true, and takes the next word as the
  value of any other flag;
* `-abc` is a run of short names: a switch is set to true and the run goes on, any other
  flag takes the rest of the run (after an optional `=`) or else the next word.

Switches read truth values, numbers read integers with an optional base prefix.  A name that
no flag has, a missing value and a value that does not read are errors, worded as the
command line reports them; the flags read before the error keep their values, and a switch
whose value does not read is off.
-/

namespace NativeExports.Cli

/-- The kind of value a flag takes. -/
inductive FlagKind where
  | switch
  | number
  | text
  deriving Repr, DecidableEq, Inhabited

/-- A flag a command accepts. -/
structure Flag where
  name : String
  short : Option Char := none
  kind : FlagKind
  /-- The default, as the help shows it: `false` for switches. -/
  default : String
  usage : String
  deriving Repr, Inhabited

/-- A value of a flag. -/
inductive FlagValue where
  | switch (b : Bool)
  | number (n : Int)
  | text (s : String)
  deriving Repr, DecidableEq, Inhabited

namespace Flag

/-- A switch, off by default. -/
def switch (name usage : String) (short : Option Char := none) : Flag :=
  ⟨name, short, .switch, "false", usage⟩

/-- A number flag with its default. -/
def number (name : String) (default : Int) (usage : String) : Flag :=
  ⟨name, none, .number, toString default, usage⟩

/-- A text flag with its default. -/
def text (name default usage : String) (short : Option Char := none) : Flag :=
  ⟨name, short, .text, default, usage⟩

/-- How errors name the flag: with its short name when it has one. -/
def display (f : Flag) : String :=
  match f.short with
  | some c => "-" ++ String.singleton c ++ ", --" ++ f.name
  | none => "--" ++ f.name

/-- Why a value does not read for the flag: the flag and the value, over the reader's own
fault (the reader's name and the value, over the reason). -/
def refusal (f : Flag) (value reader reason : String) : Fault :=
  .context ("invalid argument " ++ Text.quote value ++ " for " ++ Text.quote f.display ++ " flag")
    (.context (Text.numberIssueLabel reader value) (.reason reason))

/-- Reads a value given for the flag. -/
def read (f : Flag) (value : String) : Except Fault FlagValue :=
  match f.kind with
  | .switch => match Text.readTruth value with
    | some b => .ok (.switch b)
    | none => .error (f.refusal value "ParseBool" "invalid syntax")
  | .number => match Text.readPrefixedInteger value with
    | .ok n => .ok (.number n)
    | .error e => .error (f.refusal value "ParseInt" e.reason)
  | .text => .ok (.text value)

/-- The value a flag has when it is not set. -/
def initial (f : Flag) : FlagValue :=
  match f.kind with
  | .switch => .switch (f.default == "true")
  | .number => .number ((Text.readPrefixedInteger f.default).toOption.getD 0)
  | .text => .text f.default

/-- Whether the flag takes a value only when one is attached to it (a switch). -/
def valueOptional (f : Flag) : Bool := f.kind == .switch

end Flag

/-- The flags of a command with the value each has, by name. -/
abbrev FlagSettings := List (String × FlagValue)

namespace FlagSettings

/-- Every flag at its default. -/
def initial (flags : List Flag) : FlagSettings := flags.map fun f => (f.name, f.initial)

/-- Sets a flag's value. -/
def set (s : FlagSettings) (name : String) (v : FlagValue) : FlagSettings :=
  s.map fun (n, old) => if n == name then (n, v) else (n, old)

/-- Whether a switch is on. -/
def switch (s : FlagSettings) (name : String) : Bool :=
  match s.lookup name with
  | some (.switch b) => b
  | _ => false

/-- A number flag's value. -/
def number (s : FlagSettings) (name : String) : Int :=
  match s.lookup name with
  | some (.number n) => n
  | _ => 0

/-- A text flag's value. -/
def text (s : FlagSettings) (name : String) : String :=
  match s.lookup name with
  | some (.text t) => t
  | _ => ""

end FlagSettings

/-- A command line read against a set of flags. -/
structure Reading where
  settings : FlagSettings
  args : List String
  /-- How many arguments stood before `--`, when it was given. -/
  dashAt : Option Nat
  /-- The names of the flags the line set, in the order it set them. -/
  changed : List String := []
  deriving Repr, Inhabited

/-- A command line that does not read: why, and the flag settings as they were when reading
stopped. -/
structure LineFault where
  fault : Fault
  settings : FlagSettings

/-- The flag with a long name. -/
def findLong (flags : List Flag) (name : String) : Option Flag := flags.find? (·.name == name)

/-- The flag with a short name. -/
def findShort (flags : List Flag) (c : Char) : Option Flag := flags.find? (·.short == some c)

/-- Stops reading a command line with a fault. -/
def Reading.stop {α : Type} (r : Reading) (reason : String) : Except LineFault α :=
  .error ⟨.reason reason, r.settings⟩

/-- Sets a flag from a value, in a reading.  A switch whose value does not read is left off. -/
def Reading.assign (r : Reading) (f : Flag) (value : String) : Except LineFault Reading :=
  match f.read value with
  | .ok v => .ok { r with settings := r.settings.set f.name v, changed := r.changed ++ [f.name] }
  | .error e => .error ⟨e, if f.kind == .switch then r.settings.set f.name (.switch false)
      else r.settings⟩

/-- The character a message shows for the first byte of a character's encoding. -/
def leadByteChar (c : Char) : Char :=
  Char.ofNat (((String.singleton c).toUTF8.toList.head?.map UInt8.toNat).getD 0)

/-- Reads a run of short names (the word without its dash); gives the reading and the words
left.  Messages name the part of the run not yet read.  What is left of a run from a
"test." on is passed over, as the flags of test programs are. -/
def readShorts (flags : List Flag) (rest : List String) :
    Reading → List Char → Except LineFault (Reading × List String)
  | r, [] => .ok (r, rest)
  | r, c :: more => do
    let run := "-" ++ String.ofList (c :: more)
    if (String.ofList (c :: more)).startsWith "test." then return (r, rest)
    match findShort flags c with
    | none => r.stop ("unknown shorthand flag: " ++ Text.quoteRune (leadByteChar c) ++ " in " ++ run)
    | some f =>
      match more with
      | '=' :: v :: vs => pure (← r.assign f (String.ofList (v :: vs)), rest)
      | _ =>
        if f.valueOptional then readShorts flags rest (← r.assign f "true") more
        else if !more.isEmpty then pure (← r.assign f (String.ofList more), rest)
        else match rest with
          | v :: rest' => pure (← r.assign f v, rest')
          | [] => r.stop ("flag needs an argument: " ++ Text.quoteRune c ++ " in " ++ run)

/-- Reads a long flag (the word without its dashes); gives the reading and the words left. -/
def readLong (flags : List Flag) (word : String) (r : Reading) (rest : List String) :
    Except LineFault (Reading × List String) := do
  let body := (word.drop 2).toString
  if body.isEmpty || body.startsWith "-" || body.startsWith "=" then
    r.stop ("bad flag syntax: " ++ word)
  let (name, value?) := match body.splitOn "=" with
    | n :: v :: vs => (n, some (String.intercalate "=" (v :: vs)))
    | _ => (body, none)
  match findLong flags name with
  | none => r.stop ("unknown flag: --" ++ name)
  | some f =>
    match value? with
    | some v => pure (← r.assign f v, rest)
    | none =>
      if f.valueOptional then pure (← r.assign f "true", rest)
      else match rest with
        | v :: rest' => pure (← r.assign f v, rest')
        | [] => r.stop ("flag needs an argument: " ++ word)

/-- Reads the words of a command line in order. -/
def readWords (flags : List Flag) : Nat → Reading → List String → Except LineFault Reading
  | 0, r, _ => .ok r
  | _ + 1, r, [] => .ok r
  | fuel + 1, r, w :: rest =>
    if w == "--" then .ok { r with dashAt := some r.args.length, args := r.args ++ rest }
    else if !w.startsWith "-" || w.length == 1 then
      readWords flags fuel { r with args := r.args ++ [w] } rest
    else if w.startsWith "--" then do
      let (r, rest) ← readLong flags w r rest
      readWords flags fuel r rest
    else do
      let (r, rest) ← readShorts flags rest r (w.drop 1).toString.toList
      readWords flags fuel r rest

/-- Reads a command line against a set of flags. -/
def readLine (flags : List Flag) (words : List String) : Except LineFault Reading :=
  readWords flags (words.length + 1) ⟨FlagSettings.initial flags, [], none, []⟩ words

end NativeExports.Cli
