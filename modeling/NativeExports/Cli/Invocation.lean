import NativeExports.Fault
import NativeExports.Path
/-!
The assembler-style part of a command line: input modules, `/OUT:<file>`, `/REF:<file>` and
options passed on to the assembler.

An option is `/NAME`, `/NAME:value` or `/NAME=value`, where the name is ASCII letters only, so
that an absolute path is never taken for an option.  Only the first three letters of a name
count, without regard to case: `/OUTFILE` is `/OUTPUT` and `/reference` is `/REF`.  `/OUT`
and `/REF` need a value; the last `/OUT` wins and every `/REF` is kept.  Every other option is
passed on to the assembler, after `/DLL` when neither `/DLL` nor `/EXE` is given and the output
ends in `.dll`.  Arguments after `--` are always inputs.
-/

namespace NativeExports.Cli

/-- An assembler-style option: its name, and its value when one is attached. -/
structure SlashOption where
  name : String
  value : Option String
  deriving Repr, DecidableEq, Inhabited

/-- Reads an argument as an option. -/
def SlashOption.read? (arg : String) : Option SlashOption :=
  match arg.toList with
  | '/' :: body@(_ :: _) =>
    let name := body.takeWhile fun c => c != ':' && c != '='
    let rest := body.dropWhile fun c => c != ':' && c != '='
    let value := match rest with
      | _ :: v => some (String.ofList v)
      | [] => none
    if !name.isEmpty && name.all fun c => ('a' ≤ c && c ≤ 'z') || ('A' ≤ c && c ≤ 'Z') then
      some ⟨String.ofList name, value⟩
    else none
  | _ => none

/-- Whether an option name selects a full option name: their first three letters agree, up to
case. -/
def SlashOption.selects (name full : String) : Bool :=
  let n := name.toList.map Char.toLower
  let f := full.toList.map Char.toLower
  n.length ≥ 3 && f.length ≥ 3 && n.take 3 == f.take 3

/-- An assembler-style command line, split. -/
structure Invocation where
  inputs : List String
  output : String
  refs : List String
  forward : List String
  deriving Repr, Inhabited

/-- Splits the arguments of a command line; those from position `dashAt` on are inputs. -/
def Invocation.read (args : List String) (dashAt : Option Nat) : Except Fault Invocation :=
  (args.zipIdx).foldlM (fun inv (arg, i) =>
    if dashAt.any (· ≤ i) then pure { inv with inputs := inv.inputs ++ [arg] }
    else match SlashOption.read? arg with
      | none => pure { inv with inputs := inv.inputs ++ [arg] }
      | some o =>
        let needsValue (sketch : String) : Except Fault String :=
          match o.value with
          | some v => if v.isEmpty then .error (.error Code.badOption
              (arg ++ " needs a file name (" ++ sketch ++ ")")) else .ok v
          | none => .error (.error Code.badOption (arg ++ " needs a file name (" ++ sketch ++ ")"))
        if SlashOption.selects o.name "OUTPUT" then do
          pure { inv with output := ← needsValue "/OUT:<file>" }
        else if SlashOption.selects o.name "REFERENCE" then do
          pure { inv with refs := inv.refs ++ [← needsValue "/REF:<file>"] }
        else pure { inv with forward := inv.forward ++ [arg] }) ⟨[], "", [], []⟩

/-- The options passed to the assembler: `/DLL` first when neither `/DLL` nor `/EXE` is given
and the output is a library, then the forwarded options. -/
def Invocation.assemblerArgs (inv : Invocation) : List String :=
  let explicit := inv.forward.any fun a => match SlashOption.read? a with
    | some o => SlashOption.selects o.name "DLL" || SlashOption.selects o.name "EXE"
    | none => false
  let library := (Path.ext inv.output).toLower == ".dll"
  (if !explicit && library then ["/DLL"] else []) ++ inv.forward

end NativeExports.Cli
