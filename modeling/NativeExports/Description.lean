import NativeExports.Toml.Decode
import NativeExports.Image
import NativeExports.Signature.Notation
import NativeExports.Marshal.Kind
import NativeExports.Export.Candidate
/-!
Module descriptions: a TOML text that declares a module, from which an image is built.

A description names the module (`name`, `version`, `public_key_token`, `culture`), its
`runtime`, its `references` (identities), its module-level `functions` and its `types`.  A
type has a `namespace`, `name`, `visibility`, `value_type`, `generic_params`, `methods` and
`nested` types.  A method has a `name`, `visibility`, `static` (true unless given), `vararg`,
`generic_params`, `returns` (a type in assembler notation, `void` when empty),
`return_marshal`, `params` (each with `name`, `type`, `flags` among in, out and opt, and
`marshal`), `export` (an optional export `name` and `ordinal`) and raw `attributes` (a
`type`, positional `args` and `named` arguments).

Type notation names modules by scope: the described module is scope 0 and the n-th
reference scope n, looked up by lower-cased name, a later reference winning.  A marshal
table gives its `kind` and `ArraySubType` by name or number, `MarshalTypeRef` as a type
name, and other named arguments as integers, texts or booleans; named arguments are put in
key order.  The export shorthand becomes the marker attribute, placed before the others.
Every failure names where it happened: the method, its parameter, the attribute and the key.
-/

namespace NativeExports

/-- A referenced module as described. -/
structure ReferenceDescription where
  name : String
  version : String
  token : String
  culture : String
  deriving Repr, Inhabited

/-- The export shorthand of a method. -/
structure ExportRequest where
  name : String
  ordinal : Int
  deriving Repr, Inhabited

/-- A parameter as described. -/
structure ParamDescription where
  name : String
  type : String
  flags : List String
  marshal : Option (List (String × Toml.Value))
  deriving Repr, Inhabited

/-- A raw attribute as described. -/
structure AttributeDescription where
  typeName : String
  args : List Toml.Value
  named : List (String × Toml.Value)
  deriving Repr, Inhabited

/-- A method as described. -/
structure MethodDescription where
  name : String
  visibility : String
  isStatic : Option Bool
  varArg : Bool
  genericParams : List String
  returns : String
  returnMarshal : Option (List (String × Toml.Value))
  params : List ParamDescription
  exportRequest : Option ExportRequest
  attributes : List AttributeDescription
  deriving Repr, Inhabited

/-- A type as described. -/
structure TypeDescription where
  ns : String
  name : String
  visibility : String
  valueType : Bool
  genericParams : List String
  methods : List MethodDescription
  nested : List TypeDescription
  deriving Repr, Inhabited

/-- A module as described. -/
structure ModuleDescription where
  name : String
  version : String
  token : String
  culture : String
  runtime : String
  references : List ReferenceDescription
  functions : List MethodDescription
  types : List TypeDescription
  deriving Repr, Inhabited

/-! Reading descriptions out of documents -/

namespace ModuleDescription

open Toml

/-- The fields of a reference. -/
def referenceFields : List (Toml.Field ReferenceDescription) :=
  [⟨"name", fun v r => do pure { r with name := ← asText v }⟩,
    ⟨"version", fun v r => do pure { r with version := ← asText v }⟩,
    ⟨"public_key_token", fun v r => do pure { r with token := ← asText v }⟩,
    ⟨"culture", fun v r => do pure { r with culture := ← asText v }⟩]

/-- The fields of the export shorthand. -/
def exportFields : List (Toml.Field ExportRequest) :=
  [⟨"name", fun v e => do pure { e with name := ← asText v }⟩,
    ⟨"ordinal", fun v e => do pure { e with ordinal := ← asInt v }⟩]

/-- The fields of a parameter. -/
def paramFields : List (Toml.Field ParamDescription) :=
  [⟨"name", fun v p => do pure { p with name := ← asText v }⟩,
    ⟨"type", fun v p => do pure { p with type := ← asText v }⟩,
    ⟨"flags", fun v p => do pure { p with flags := ← asList asText v }⟩,
    ⟨"marshal", fun v p => do pure { p with marshal := ← asFreeMap v }⟩]

/-- The fields of a raw attribute. -/
def attributeFields : List (Toml.Field AttributeDescription) :=
  [⟨"type", fun v a => do pure { a with typeName := ← asText v }⟩,
    ⟨"args", fun v a => do pure { a with args := ← asList pure v }⟩,
    ⟨"named", fun v a => do pure { a with named := (← asFreeMap v).getD [] }⟩]

/-- An empty parameter, attribute and method. -/
def blankParam : ParamDescription := ⟨"", "", [], none⟩
def blankAttribute : AttributeDescription := ⟨"", [], []⟩
def blankMethod : MethodDescription := ⟨"", "", none, false, [], "", none, [], none, []⟩
def blankType : TypeDescription := ⟨"", "", "", false, [], [], []⟩

/-- The fields of a method. -/
def methodFields : List (Toml.Field MethodDescription) :=
  [⟨"name", fun v m => do pure { m with name := ← asText v }⟩,
    ⟨"visibility", fun v m => do pure { m with visibility := ← asText v }⟩,
    ⟨"static", fun v m => do pure { m with isStatic := some (← asBool v) }⟩,
    ⟨"vararg", fun v m => do pure { m with varArg := ← asBool v }⟩,
    ⟨"generic_params", fun v m => do pure { m with genericParams := ← asList asText v }⟩,
    ⟨"returns", fun v m => do pure { m with returns := ← asText v }⟩,
    ⟨"return_marshal", fun v m => do pure { m with returnMarshal := ← asFreeMap v }⟩,
    ⟨"params", fun v m => do
      pure { m with params := ← asList (asRecord "pack.ParamDesc" paramFields blankParam) v }⟩,
    ⟨"export", fun v m => do
      pure { m with exportRequest := some (← asRecord "pack.ExportDesc" exportFields
        (m.exportRequest.getD ⟨"", 0⟩) v) }⟩,
    ⟨"attributes", fun v m => do
      pure { m with attributes := ← asList (asRecord "pack.AttrDesc" attributeFields blankAttribute) v }⟩]

/-- A method table. -/
def readMethod : Value → Decoder MethodDescription :=
  asRecord "pack.MethodDesc" methodFields blankMethod

/-- A type table, with nesting bounded by `fuel`. -/
def readType : Nat → Value → Decoder TypeDescription
  | 0, _ => refuse "types nested too deeply"
  | fuel + 1, v => asRecord "pack.TypeDesc"
      [⟨"namespace", fun v t => do pure { t with ns := ← asText v }⟩,
        ⟨"name", fun v t => do pure { t with name := ← asText v }⟩,
        ⟨"visibility", fun v t => do pure { t with visibility := ← asText v }⟩,
        ⟨"value_type", fun v t => do pure { t with valueType := ← asBool v }⟩,
        ⟨"generic_params", fun v t => do pure { t with genericParams := ← asList asText v }⟩,
        ⟨"methods", fun v t => do pure { t with methods := ← asList readMethod v }⟩,
        ⟨"nested", fun v t => do pure { t with nested := ← asList (readType fuel) v }⟩]
      blankType v

/-- The fields of a description, with type nesting bounded by `fuel`. -/
def fields (fuel : Nat) : List (Toml.Field ModuleDescription) :=
  [⟨"name", fun v d => do pure { d with name := ← asText v }⟩,
    ⟨"version", fun v d => do pure { d with version := ← asText v }⟩,
    ⟨"public_key_token", fun v d => do pure { d with token := ← asText v }⟩,
    ⟨"culture", fun v d => do pure { d with culture := ← asText v }⟩,
    ⟨"runtime", fun v d => do pure { d with runtime := ← asText v }⟩,
    ⟨"references", fun v d => do
      pure { d with references := ← asList (asRecord "pack.RefDesc" referenceFields ⟨"", "", "", ""⟩) v }⟩,
    ⟨"functions", fun v d => do pure { d with functions := ← asList readMethod v }⟩,
    ⟨"types", fun v d => do pure { d with types := ← asList (readType fuel) v }⟩]

/-- The empty description. -/
def blank : ModuleDescription := ⟨"", "", "", "", "", [], [], []⟩

/-- Reads the description in the file `file` from its contents, or from the fault of
reading it: the text must be a TOML document whose values fit, with no unread keys, and
must name the module. -/
def ofFile (file : String) (contents : Except Fault String) : Except Fault ModuleDescription := do
  let failed (cause : Fault) : Fault := .wrap Code.readFailed cause (file ++ ": failed to parse TOML")
  let text ← contents.mapError failed
  let doc ← (Document.parse text).mapError fun e => failed (.reason e.text)
  let (d, unread) ← (doc.decode "pack.Description" (fields (text.length + 1)) blank).mapError
    fun e => failed (.reason e)
  if !unread.isEmpty then
    throw (.error Code.badAttribute (file ++ ": unknown keys: " ++ String.intercalate ", " unread))
  if !doc.isDefined ["name"] || (Text.trimBlank d.name).isEmpty then
    throw (.error Code.badAttribute (file ++ ": missing name"))
  pure d

end ModuleDescription

/-! Building images from descriptions -/

namespace Description

/-- An identity from its described parts; the name must be given. -/
def identity (name version token culture : String) : Except Fault Identity := do
  if name = "" then throw (.error Code.badAttribute "module identity without a name")
  let v ← (Version4.parse version).mapError fun e => .wrap Code.badAttribute e (name ++ ": version")
  let t ← if token = "" then pure []
    else (Text.bytesOfHex token).mapError fun e =>
      .wrap Code.badAttribute (.reason e.text) (name ++ ": public_key_token")
  pure ⟨name, v, t, culture⟩

/-- The visibility code a word names, up to case: public (also when empty), internal or
assembly, private. -/
def visibility (s : String) : Except Fault UInt8 :=
  match Text.lower s with
  | "" | "public" => .ok 2
  | "internal" | "assembly" => .ok 1
  | "private" => .ok 0
  | _ => .error (.error Code.badAttribute ("unknown visibility " ++ Text.quote s))

/-- An attribute argument from a TOML value: an integer, a text or a boolean. -/
def argument (raw : Toml.Value) : Except Fault AttrValue :=
  match raw with
  | .integer n => .ok (AttrValue.ofInt (Int64.ofInt n))
  | .text s => .ok (AttrValue.ofString s)
  | .boolean b => .ok (AttrValue.ofBool b)
  | v => .error (.error Code.badAttribute ("unsupported argument value " ++ v.show ++ " (" ++
      v.typeName ++ ")"))

/-- A marshalling kind given by name or as an argument. -/
def kindArgument (raw : Toml.Value) : Except Fault AttrValue :=
  match raw with
  | .text name => match Marshal.kindOfName? name with
    | some k => .ok (AttrValue.ofInt (Int64.ofInt k))
    | none => .error (.error Code.badAttribute ("unknown marshal kind " ++ Text.quote name))
  | v => argument v

/-- The named arguments of a table, in key order, leaving out the skipped keys; a failure
names its key, except that a type reference that is no text is refused as it is. -/
def namedArguments (entries : List (String × Toml.Value)) (skip : List String) :
    Except Fault (List NamedArg) :=
  let keys := ((entries.map (·.1)).filter fun k => !skip.contains k).mergeSort fun a b => decide (a ≤ b)
  keys.mapM fun k => do
    let raw := (Toml.lookup entries k).getD (.text "")
    let v ← match k with
      | "ArraySubType" => (kindArgument raw).mapError fun e => .context k e
      | "MarshalTypeRef" => match raw with
        | .text s => pure (AttrValue.ofType s)
        | _ => throw (.error Code.badAttribute (k ++ " must be a type name"))
      | _ => (argument raw).mapError fun e => .context k e
    pure ⟨k, v⟩

/-- The marshalling attribute a marshal table asks for. -/
def marshalAttribute (entries : List (String × Toml.Value)) : Except Fault Attribute := do
  let raw ← match Toml.lookup entries "kind" with
    | some r => pure r
    | none => throw (.error Code.badAttribute "marshal without kind")
  let kind ← kindArgument raw
  let named ← namedArguments entries ["kind"]
  pure ⟨marshalAsAttribute, [kind], named⟩

/-- A raw attribute. -/
def rawAttribute (d : AttributeDescription) : Except Fault Attribute := do
  if d.typeName = "" then throw (.error Code.badAttribute "attribute without a type")
  let args ← (d.args.zip (List.range d.args.length)).mapM fun (raw, i) =>
    (argument raw).mapError fun e => .context ("attribute " ++ d.typeName ++ " argument " ++ toString i) e
  let named ← (namedArguments d.named []).mapError fun e => .context ("attribute " ++ d.typeName) e
  pure ⟨d.typeName, args, named⟩

/-- The flag bit a word names, up to case. -/
def paramFlag (f : String) : Except Fault UInt8 :=
  match Text.lower f with
  | "in" => .ok paramIn
  | "out" => .ok paramOut
  | "opt" | "optional" => .ok paramOptional
  | _ => .error (.error Code.badAttribute ("unknown parameter flag " ++ Text.quote f))

/-- A parameter, its type read against the scopes. -/
def param (scopes : List (String × Int32)) (d : ParamDescription) : Except Fault Param := do
  let type ← (TypeSig.parse d.type scopes).mapError NotationError.toFault
  let flags ← d.flags.foldlM (fun acc f => do pure (acc ||| (← paramFlag f))) 0
  let attrs ← match d.marshal with
    | none => pure []
    | some m => do pure [← marshalAttribute m]
  pure ⟨d.name, some type, flags, attrs⟩

/-- A method, its types read against the scopes, with the marker type for the export
shorthand. -/
def method (marker : String) (scopes : List (String × Int32)) (d : MethodDescription) :
    Except Fault Method := do
  let here (e : Fault) : Fault := .context ("method " ++ d.name) e
  let vis ← (visibility d.visibility).mapError here
  let ret := if d.returns = "" then "void" else d.returns
  let retType ← (TypeSig.parse ret scopes).mapError fun e => here e.toFault
  let retAttrs ← match d.returnMarshal with
    | none => pure []
    | some m => do pure [← (marshalAttribute m).mapError fun e => .context ("method " ++ d.name ++ " return") e]
  let params ← (d.params.zip (List.range d.params.length)).mapM fun (p, i) =>
    (param scopes p).mapError fun e => .context ("method " ++ d.name ++ " parameter " ++ toString i) e
  let markerAttr : List Attribute := match d.exportRequest with
    | none => []
    | some e =>
      let byName : List NamedArg := if e.name = "" then [] else [⟨"Name", AttrValue.ofString e.name⟩]
      let byOrdinal : List NamedArg := if e.ordinal = 0 then [] else [⟨"Ordinal", AttrValue.ofInt (Int64.ofInt e.ordinal)⟩]
      [⟨marker, [], byName ++ byOrdinal⟩]
  let attrs ← d.attributes.mapM fun a => (rawAttribute a).mapError here
  pure ⟨d.name, vis, d.isStatic.getD true, d.genericParams, if d.varArg then callVarArg else 0,
    ⟨"", some retType, 0, retAttrs⟩, params, markerAttr ++ attrs⟩

mutual

/-- A type and the types nested in it. -/
def typeDef (marker : String) (scopes : List (String × Int32)) : TypeDescription → Except Fault TypeDef
  | ⟨ns, name, vis, valueType, generics, methods, nested⟩ => do
    let here (e : Fault) : Fault := .context ("type " ++ name) e
    let code ← (visibility vis).mapError here
    let ms ← methods.mapM fun m => (method marker scopes m).mapError here
    let ts ← nestedDefs marker scopes name nested
    pure ⟨ns, name, code, valueType, generics, ts.map some, ms.map some⟩

/-- The types nested in the type called `owner`. -/
def nestedDefs (marker : String) (scopes : List (String × Int32)) (owner : String) :
    List TypeDescription → Except Fault (List TypeDef)
  | [] => .ok []
  | t :: rest => do
    let first ← (typeDef marker scopes t).mapError fun e => .context ("type " ++ owner) e
    let others ← nestedDefs marker scopes owner rest
    pure (first :: others)

end

end Description

/-- The image a description declares, with `marker` (the default marker when empty) as the
type of export markers. -/
def ModuleDescription.toImage (d : ModuleDescription) (marker : String) : Except Fault Image := do
  let marker := if marker = "" then defaultMarker else marker
  let id ← Description.identity d.name d.version d.token d.culture
  let refs ← d.references.mapM fun r => Description.identity r.name r.version r.token r.culture
  let scopes : List (String × Int32) :=
    ((d.references.zip (List.range d.references.length)).map fun (r, i) =>
      (Text.lower r.name, Int32.ofNat (i + 1))).reverse ++ [(Text.lower d.name, 0)]
  let functions ← d.functions.mapM (Description.method marker scopes)
  let types ← d.types.mapM fun t => Description.typeDef marker scopes t
  pure ⟨0, id, d.runtime, refs, functions.map some, types.map some⟩

/-- Packs the description in the file `file`, given its contents, into an image. -/
def packDescription (file : String) (contents : Except Fault String) (marker : String) : Except Fault Image := do
  let d ← ModuleDescription.ofFile file contents
  (d.toImage marker).mapError fun e => .context file e

end NativeExports
