import NativeExports.Signature
import NativeExports.Assembler.Ident
import NativeExports.Assembler.Alias
/-!
Type signatures as assembler text.  A missing signature is `void`; a by-reference type is
its element and `&`, a pointer its element and `*`, an array its element and brackets with
one comma fewer than its rank; a primitive is its keyword; a named type is `valuetype` or
`class`, a reference to it, and its generic arguments in angle brackets.  A reference is the
alias of the type's module in brackets, the dotted namespace, and the enclosing types and the
name joined by slashes.

Rendering gives a module an alias the first time it is named, so the alias table is threaded
through; an alias given before a later part fails stays given.
-/

namespace NativeExports.Assembler

/-- What a scope number of a signature names: the module's identity and whether it is the
base library, or a fault when the number names nothing. -/
abbrev Scoper := Int32 → Except Fault (Identity × Bool)

/-- The reference to a named type, giving its module an alias if needed. -/
def typeRef (sc : Scoper) (scope : Int32) (ns : String) (enclosing : List String) (name : String)
    (t : AliasTable) : Except Fault String × AliasTable :=
  if name = "" then (.error (.error Code.unsupportedType "named type without a name"), t)
  else match sc scope with
    | .error e => (.error e, t)
    | .ok (id, isBase) =>
      let (moduleAlias, t') := t.resolve id isBase
      let path := String.intercalate "/" ((enclosing ++ [name]).map quoteIdent)
      let pre := if ns = "" then "" else quoteDotted ns ++ "."
      (.ok ("[" ++ moduleAlias ++ "]" ++ pre ++ path), t')

/-- Brackets for an array of the given rank: one comma fewer than the rank. -/
def rankBrackets (rank : Int64) : String :=
  "[" ++ String.ofList (List.replicate (rank.toInt.toNat - 1) ',') ++ "]"

mutual

/-- The text of an optional signature; none is `void`. -/
def typeText (sc : Scoper) : Option TypeSig → AliasTable → Except Fault String × AliasTable
  | none, t => (.ok "void", t)
  | some s, t => sigText sc s t

/-- The text of an element type followed by a suffix; a missing element fails. -/
def elemText (sc : Scoper) (k : SigKind) (suffix : String) :
    Option TypeSig → AliasTable → Except Fault String × AliasTable
  | none, t => (.error (.error Code.unsupportedType (k.word ++ " signature without element type")), t)
  | some e, t => match sigText sc e t with
    | (.ok s, t') => (.ok (s ++ suffix), t')
    | (.error f, t') => (.error f, t')

/-- The text of a signature. -/
def sigText (sc : Scoper) : TypeSig → AliasTable → Except Fault String × AliasTable
  | ⟨kind, prim, elem, rank, scope, ns, enclosing, name, valueType, args⟩, t =>
    let k := SigKind.ofCode kind
    match k with
    | .byref => elemText sc k "&" elem t
    | .array => elemText sc k (rankBrackets rank) elem t
    | .pointer => elemText sc k "*" elem t
    | .primitive => match Primitive.ofCode? prim with
      | some p => (.ok p.keyword, t)
      | none => (.error (.error Code.unsupportedType
          ("primitive type " ++ toString prim.toNat ++ " has no textual form")), t)
    | .named =>
      let lead := if valueType then "valuetype " else "class "
      match typeRef sc scope ns enclosing name t with
      | (.error f, t') => (.error f, t')
      | (.ok ref, t') =>
        if args.isEmpty then (.ok (lead ++ ref), t')
        else match argsText sc args t' with
          | (.ok parts, t'') => (.ok (lead ++ ref ++ "<" ++ String.intercalate ", " parts ++ ">"), t'')
          | (.error f, t'') => (.error f, t'')
    | .invalid => (.error (.error Code.unsupportedType
        ("type signature of kind " ++ k.word ++ " cannot be rendered")), t)

/-- The texts of generic arguments, stopping at the first that fails. -/
def argsText (sc : Scoper) : List (Option TypeSig) → AliasTable →
    Except Fault (List String) × AliasTable
  | [], t => (.ok [], t)
  | a :: rest, t => match typeText sc a t with
    | (.error f, t') => (.error f, t')
    | (.ok s, t') => match argsText sc rest t' with
      | (.ok ss, t'') => (.ok (s :: ss), t'')
      | (.error f, t'') => (.error f, t'')

end

end NativeExports.Assembler
