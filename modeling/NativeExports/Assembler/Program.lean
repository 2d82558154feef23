import NativeExports.Assembler.TypeText
import NativeExports.Marshal.Directive
import NativeExports.Export.Ordinal
import NativeExports.Path
/-!
The assembler program for an ordinal table.

Each export becomes a stub: a public static method `_export_<ordinal>` with the exported
method's return type and parameters (direction flags, type and marshalling), declared as
export `<ordinal>` under the export name, which loads its arguments and calls the exported
method through its plain signature.  The program declares the base library under its own
alias, then every other module the stubs name, in the order they were first named, then the
assembly named after the output file, then the stubs in ordinal order.

A stub that cannot be written fails with the candidate's name and the part that failed:
the return value, a parameter, or the call target.
-/

namespace NativeExports.Assembler

/-- Writing that gives modules aliases as it goes and may fail. -/
abbrev Render := ExceptT Fault (StateM AliasTable)

/-- The text of a signature, giving aliases as needed. -/
def renderType (sc : Scoper) (sig : Option TypeSig) : Render String := ExceptT.mk (typeText sc sig)

/-- A reference to a named type, giving aliases as needed. -/
def renderRef (sc : Scoper) (scope : Int32) (ns : String) (enclosing : List String) (name : String) :
    Render String :=
  ExceptT.mk (typeRef sc scope ns enclosing name)

/-- Fails unless the value is there. -/
def liftExcept {α : Type} : Except Fault α → Render α
  | .ok a => pure a
  | .error f => throw f

/-- A parameter or return value at the boundary: direction flags, type and marshalling. -/
def boundaryParam (sc : Scoper) (p : Param) : Render String := do
  let flags := (if p.flags &&& paramIn != 0 then "[in] " else "") ++
    (if p.flags &&& paramOut != 0 then "[out] " else "") ++
    (if p.flags &&& paramOptional != 0 then "[opt] " else "")
  let ty ← renderType sc p.type
  match findAttribute p.attributes marshalAsAttribute with
  | none => pure (flags ++ ty)
  | some a =>
    let directive ← liftExcept (Marshal.directiveText (some a))
    pure (flags ++ ty ++ " marshal(" ++ directive ++ ")")

/-- The pseudo type that owns module-level functions. -/
def moduleType : String := "<Module>"

/-- The reference to the type that declares a candidate. -/
def ownerRef (c : Candidate) : Render String :=
  match c.owners.getLast? with
  | none => renderRef c.module.scope 0 "" [] moduleType
  | some last =>
    let first := (c.owners.head?.map (·.ns)).getD ""
    renderRef c.module.scope 0 first (c.owners.dropLast.map (·.name)) last.name

/-- The plain signature through which a stub calls the exported method. -/
def callTarget (c : Candidate) : Render String := do
  let m := c.method
  let ret ← renderType c.module.scope m.returns.type
  let params ← m.params.mapM fun p => renderType c.module.scope p.type
  let owner ← ownerRef c
  pure (ret ++ " " ++ owner ++ "::" ++ quoteIdent m.name ++ "(" ++ String.intercalate ", " params ++ ")")

/-- A failure of a stub, named by the candidate and the part that failed; a fault without a
code counts as an unsupported type. -/
def entityFault (c : Candidate) (what : String) (f : Fault) : Fault :=
  let code := if f.code.num = 0 then Code.unsupportedType else f.code
  .wrap code f (c.entity ++ ", " ++ what ++ ": " ++ f.text)

/-- Runs a step, naming the candidate and part in its failure. -/
def naming {α : Type} (c : Candidate) (what : String) (r : Render α) : Render α :=
  tryCatch r fun f => throw (entityFault c what f)

/-- The shortest instruction that loads argument `i`. -/
def loadArg (i : Nat) : String :=
  if i ≤ 3 then "ldarg." ++ toString i
  else if i ≤ 255 then "ldarg.s " ++ toString i
  else "ldarg " ++ toString i

/-- The name of the stub bound to an ordinal. -/
def stubName (ordinal : Nat) : String := "_export_" ++ toString ordinal

/-- The stub of one export. -/
def stub (ordinal : Nat) (name : String) (c : Candidate) : Render String := do
  let m := c.method
  let ret ← naming c "return value" (boundaryParam c.module.scope m.returns)
  let indexed := m.params.zip (List.range m.params.length)
  let params ← indexed.mapM fun (p, i) => do
    let text ← naming c ("parameter " ++ toString i) (boundaryParam c.module.scope p)
    pure (text ++ " arg" ++ toString i)
  let target ← naming c "call target" (callTarget c)
  pure (".method public static " ++ ret ++ " " ++ stubName ordinal ++ "(" ++
    String.intercalate ", " params ++ ") cil managed\n\x7b\n" ++
    "  .export [" ++ toString ordinal ++ "] as " ++ quoteSingle name ++ "\n" ++
    "  .maxstack " ++ toString (max m.params.length 1) ++ "\n" ++
    String.join (indexed.map fun (_, i) => "  " ++ loadArg i ++ "\n") ++
    "  call " ++ target ++ "\n  ret\n\x7d\n")

/-- Bytes as uppercase pairs of digits separated by spaces. -/
def upperHexBytes (bs : List UInt8) : String :=
  String.intercalate " " (bs.map fun b => String.ofList ((Text.hexByte b).map Char.toUpper))

/-- The declaration of a module the program uses, under its alias. -/
def externDecl (id : Identity) (aliasName : String) : String :=
  let v := id.version
  ".assembly extern " ++ quoteDotted id.name ++ (if aliasName != id.name then " as " ++ aliasName else "") ++
    "\n\x7b\n" ++
    (if id.token.isEmpty then "" else "  .publickeytoken = (" ++ upperHexBytes id.token ++ " )\n") ++
    "  .ver " ++ toString v.major.toNat ++ ":" ++ toString v.minor.toNat ++ ":" ++
      toString v.build.toNat ++ ":" ++ toString v.revision.toNat ++ "\n" ++
    (if id.culture.isEmpty then "" else "  .locale " ++ quoteSingle id.culture ++ "\n") ++
    "\x7d\n"

/-- The hash algorithm the assembly declares (SHA-1). -/
def hashAlgorithm : Nat := 0x8004

/-- The declaration of the assembly built to `output`. -/
def assemblyHeader (output : String) : String :=
  ".assembly " ++ quoteDotted (Path.stem output) ++ "\n\x7b\n" ++
    "  .hash algorithm 0x" ++ String.ofList (Text.hexPad 8 hashAlgorithm) ++ "\n" ++
    "  .ver 0:0:0:0\n\x7d\n" ++
    ".module " ++ quoteDotted (Path.base output) ++ "\n\n"

/-- The stubs of all exports, in ordinal order. -/
def stubs (table : OrdinalTable) : Render String := do
  let parts ← table.entries.mapM fun e => stub e.ordinal e.name e.candidate
  pure (String.join (parts.map (· ++ "\n")))

/-- The whole program for an ordinal table, with the alias table it grows. -/
def program (table : OrdinalTable) (output : String) : Render String := do
  let body ← stubs table
  let t ← get
  pure (externDecl t.base baseAlias ++
    String.join (t.aliases.map fun (a, id) => externDecl id a) ++
    assemblyHeader output ++ body)

end NativeExports.Assembler
