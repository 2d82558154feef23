import NativeExports.Image.Draft
import NativeExports.MessagePack.Library
/-!
The binary form of module images: the four bytes `XMDI`, then the image as a MessagePack
struct, written and read by a MessagePack library (`MessagePack.Library`).  The fields of each
struct are given in declaration order, and a field whose value is zero (zero number, false,
empty text or list, absent signature, or a struct all of whose fields are left out) is left
out.  Small codes (kinds, visibilities, flags) are one-byte codes, version components 16-bit
numbers, scopes 32-bit numbers, attribute integers 64-bit numbers and array ranks machine
words.  The four version components are always written.  Writing always records the current
schema.

Reading fills an image draft (whose lists keep what shorter lists left behind) and finishes
it, ignores bytes after the image, and accepts only the current schema.  The tool's images
are those of the library it links: `Image.encode` and `Image.decode`.
-/

namespace NativeExports

open MessagePack

/-- The bytes every image starts with. -/
def imageMagic : List UInt8 := [0x58, 0x4d, 0x44, 0x49]

section Codec

variable (lib : Library)

/-! Writing -/

/-- A text field, left out when empty. -/
def textField (s : String) : Option (List UInt8) := keepIf (s != "") (lib.text s)

/-- A one-byte code field, left out when zero. -/
def codeField (n : UInt8) : Option (List UInt8) := keepIf (n != 0) (lib.uint8 n)

/-- A boolean field, left out when false. -/
def flagField (b : Bool) : Option (List UInt8) := keepIf b (lib.bool b)

/-- A list field, left out when empty. -/
def listField {α : Type} (xs : List α) (write : α → List UInt8) : Option (List UInt8) :=
  keepIf (!xs.isEmpty) (lib.array (xs.map write))

/-- A list of texts, left out when empty. -/
def textsField (xs : List String) : Option (List UInt8) := listField lib xs lib.text

/-- An entry that may be empty, written as nil when it is. -/
def entry {α : Type} (write : α → List UInt8) : Option α → List UInt8
  | none => lib.nil
  | some x => write x

mutual

/-- The fields of a signature. -/
def sigFields : TypeSig → List Field
  | ⟨kind, prim, elem, rank, scope, ns, enclosing, name, valueType, args⟩ =>
    [("Kind", codeField lib kind), ("Primitive", codeField lib prim), ("Elem", elemField elem),
      ("Rank", keepIf (rank != 0) (lib.int rank)),
      ("Scope", keepIf (scope != 0) (lib.int32 scope)), ("Namespace", textField lib ns),
      ("Enclosing", textsField lib enclosing), ("Name", textField lib name),
      ("ValueType", flagField lib valueType),
      ("Args", keepIf (!args.isEmpty) (lib.arrayHeader args.length ++ argsBytes args))]

/-- The element field of a signature, left out when absent. -/
def elemField : Option TypeSig → Option (List UInt8)
  | none => none
  | some s => some (lib.record (sigFields s))

/-- The generic arguments of a signature, one after another. -/
def argsBytes : List (Option TypeSig) → List UInt8
  | [] => []
  | none :: rest => lib.nil ++ argsBytes rest
  | some s :: rest => lib.record (sigFields s) ++ argsBytes rest

end

/-- A signature. -/
def TypeSig.encode (s : TypeSig) : List UInt8 := lib.record (sigFields lib s)

/-- The fields of an attribute argument. -/
def valueFields (v : AttrValue) : List Field :=
  [("Kind", codeField lib v.kind), ("Int", keepIf (v.int != 0) (lib.int64 v.int)),
    ("Str", textField lib v.str), ("Bool", flagField lib v.bool)]

/-- The fields of a named argument. -/
def namedFields (n : NamedArg) : List Field :=
  [("Name", textField lib n.name), ("Value", lib.recordField (valueFields lib n.value))]

/-- An attribute. -/
def Attribute.encode (a : Attribute) : List UInt8 :=
  lib.record [("Type", textField lib a.typeName),
    ("Args", listField lib a.args fun v => lib.record (valueFields lib v)),
    ("Named", listField lib a.named fun n => lib.record (namedFields lib n))]

/-- The fields of a parameter or return value. -/
def paramFields (p : Param) : List Field :=
  [("Name", textField lib p.name), ("Type", p.type.map (TypeSig.encode lib)),
    ("Flags", codeField lib p.flags),
    ("Attributes", listField lib p.attributes (Attribute.encode lib))]

/-- A method. -/
def Method.encode (m : Method) : List UInt8 :=
  lib.record [("Name", textField lib m.name), ("Visibility", codeField lib m.visibility),
    ("Static", flagField lib m.isStatic), ("GenericParams", textsField lib m.genericParams),
    ("CallConv", codeField lib m.callConv),
    ("Return", lib.recordField (paramFields lib m.returns)),
    ("Params", listField lib m.params fun p => lib.record (paramFields lib p)),
    ("Attributes", listField lib m.attributes (Attribute.encode lib))]

mutual

/-- The fields of a type definition. -/
def typeFields : TypeDef → List Field
  | ⟨ns, name, visibility, valueType, generics, nested, methods⟩ =>
    [("Namespace", textField lib ns), ("Name", textField lib name),
      ("Visibility", codeField lib visibility), ("ValueType", flagField lib valueType),
      ("GenericParams", textsField lib generics),
      ("Nested", keepIf (!nested.isEmpty) (lib.arrayHeader nested.length ++ nestedBytes nested)),
      ("Methods", listField lib methods (entry lib (Method.encode lib)))]

/-- Nested type definitions, one after another. -/
def nestedBytes : List (Option TypeDef) → List UInt8
  | [] => []
  | none :: rest => lib.nil ++ nestedBytes rest
  | some t :: rest => lib.record (typeFields t) ++ nestedBytes rest

end

/-- A type definition. -/
def TypeDef.encode (t : TypeDef) : List UInt8 := lib.record (typeFields lib t)

/-- An identity; its four version components are always written. -/
def Identity.encode (a : Identity) : List UInt8 :=
  lib.record [("Name", textField lib a.name),
    ("Version", some (lib.array (a.version.parts.map lib.uint16))),
    ("PublicKeyToken", keepIf (!a.token.isEmpty) (lib.binary a.token)),
    ("Culture", textField lib a.culture)]

/-- The fields of an image, under the current schema. -/
def imageFields (img : Image) : List Field :=
  [("Schema", keepIf (imageSchema != 0) (lib.uint16 imageSchema)),
    ("Identity", some (img.identity.encode lib)), ("RuntimeVersion", textField lib img.runtime),
    ("References", listField lib img.references (Identity.encode lib)),
    ("Functions", listField lib img.functions (entry lib (Method.encode lib))),
    ("Types", listField lib img.types (entry lib (TypeDef.encode lib)))]

/-- The binary form of an image, under the current schema. -/
def Image.encodeWith (img : Image) : List UInt8 := imageMagic ++ lib.record (imageFields lib img)

/-! Reading -/

/-- A one-byte code, cut from any integer. -/
def readCode8 : Reader UInt8 := do pure (← lib.unsigned).toUInt8

/-- A signature over its previous value. -/
def SigDraft.read : Nat → SigDraft → Reader SigDraft
  | 0, _ => fail .tooDeep
  | fuel + 1, s => lib.recordValue fuel
      [("Kind", fun s => do pure { s with kind := ← readCode8 lib }),
        ("Primitive", fun s => do pure { s with primitive := ← readCode8 lib }),
        ("Elem", fun s => do pure { s with elem := ← lib.optionValue (SigDraft.read fuel) SigDraft.blank s.elem }),
        ("Rank", fun s => do pure { s with rank := ← lib.signed }),
        ("Scope", fun s => do pure { s with scope := (← lib.signed).toInt32 }),
        ("Namespace", fun s => do pure { s with ns := ← lib.textValue }),
        ("Enclosing", fun s => do pure { s with enclosing := ← lib.textsValue s.enclosing }),
        ("Name", fun s => do pure { s with name := ← lib.textValue }),
        ("ValueType", fun s => do pure { s with valueType := ← lib.boolean }),
        ("Args", fun s => do
          pure { s with args := ← lib.backedValue (lib.optionValue (SigDraft.read fuel) SigDraft.blank) none s.args })]
      SigDraft.blank s

/-- An attribute argument over its previous value. -/
def AttrValue.read (fuel : Nat) : AttrValue → Reader AttrValue :=
  lib.recordValue fuel
    [("Kind", fun v => do pure { v with kind := ← readCode8 lib }),
      ("Int", fun v => do pure { v with int := ← lib.signed }),
      ("Str", fun v => do pure { v with str := ← lib.textValue }),
      ("Bool", fun v => do pure { v with bool := ← lib.boolean })]
    AttrValue.blank

/-- A named argument over its previous value. -/
def NamedArg.read (fuel : Nat) : NamedArg → Reader NamedArg :=
  lib.recordValue fuel
    [("Name", fun n => do pure { n with name := ← lib.textValue }),
      ("Value", fun n => do pure { n with value := ← AttrValue.read lib fuel n.value })]
    NamedArg.blank

/-- An attribute over its previous value. -/
def AttributeDraft.read (fuel : Nat) : AttributeDraft → Reader AttributeDraft :=
  lib.recordValue fuel
    [("Type", fun a => do pure { a with typeName := ← lib.textValue }),
      ("Args", fun a => do pure { a with args := ← lib.backedValue (AttrValue.read lib fuel) AttrValue.blank a.args }),
      ("Named", fun a => do pure { a with named := ← lib.backedValue (NamedArg.read lib fuel) NamedArg.blank a.named })]
    AttributeDraft.blank

/-- A parameter or return value over its previous value. -/
def ParamDraft.read (fuel : Nat) : ParamDraft → Reader ParamDraft :=
  lib.recordValue fuel
    [("Name", fun p => do pure { p with name := ← lib.textValue }),
      ("Type", fun p => do pure { p with type := ← lib.optionValue (SigDraft.read lib fuel) SigDraft.blank p.type }),
      ("Flags", fun p => do pure { p with flags := ← readCode8 lib }),
      ("Attributes", fun p => do
        pure { p with attributes := ← lib.backedValue (AttributeDraft.read lib fuel) AttributeDraft.blank p.attributes })]
    ParamDraft.blank

/-- A method over its previous value. -/
def MethodDraft.read (fuel : Nat) : MethodDraft → Reader MethodDraft :=
  lib.recordValue fuel
    [("Name", fun m => do pure { m with name := ← lib.textValue }),
      ("Visibility", fun m => do pure { m with visibility := ← readCode8 lib }),
      ("Static", fun m => do pure { m with isStatic := ← lib.boolean }),
      ("GenericParams", fun m => do pure { m with genericParams := ← lib.textsValue m.genericParams }),
      ("CallConv", fun m => do pure { m with callConv := ← readCode8 lib }),
      ("Return", fun m => do pure { m with returns := ← ParamDraft.read lib fuel m.returns }),
      ("Params", fun m => do
        pure { m with params := ← lib.backedValue (ParamDraft.read lib fuel) ParamDraft.blank m.params }),
      ("Attributes", fun m => do
        pure { m with attributes := ← lib.backedValue (AttributeDraft.read lib fuel) AttributeDraft.blank m.attributes })]
    MethodDraft.blank

/-- A type definition over its previous value. -/
def TypeDefDraft.read : Nat → TypeDefDraft → Reader TypeDefDraft
  | 0, _ => fail .tooDeep
  | fuel + 1, t => lib.recordValue fuel
      [("Namespace", fun t => do pure { t with ns := ← lib.textValue }),
        ("Name", fun t => do pure { t with name := ← lib.textValue }),
        ("Visibility", fun t => do pure { t with visibility := ← readCode8 lib }),
        ("ValueType", fun t => do pure { t with valueType := ← lib.boolean }),
        ("GenericParams", fun t => do pure { t with genericParams := ← lib.textsValue t.genericParams }),
        ("Nested", fun t => do
          pure { t with nested := ← lib.backedValue (lib.optionValue (TypeDefDraft.read fuel) TypeDefDraft.blank) none t.nested }),
        ("Methods", fun t => do
          pure { t with methods := ← lib.backedValue (lib.optionValue (MethodDraft.read lib fuel) MethodDraft.blank) none t.methods })]
      TypeDefDraft.blank t

/-- Four version components over their previous value: an array of at most four numbers
replaces the first ones, nil leaves them. -/
def Version4.read (v : Version4) : Reader Version4 := do
  match (← lib.arrayLength) with
  | none => pure v
  | some n =>
    if n > 4 then fail (.tooMany "metadata.Version4" 4 n)
    else
      let given ← elements (fun _ => do pure (← lib.unsigned).toUInt16) 0 n []
      pure (Version4.ofParts (given ++ v.parts.drop n))

/-- An identity over its previous value. -/
def Identity.read (fuel : Nat) : Identity → Reader Identity :=
  lib.recordValue fuel
    [("Name", fun a => do pure { a with name := ← lib.textValue }),
      ("Version", fun a => do pure { a with version := ← Version4.read lib a.version }),
      ("PublicKeyToken", fun a => do pure { a with token := ← lib.bytesValue }),
      ("Culture", fun a => do pure { a with culture := ← lib.textValue })]
    Identity.blank

/-- An image over its previous value. -/
def ImageDraft.read (fuel : Nat) : ImageDraft → Reader ImageDraft :=
  lib.recordValue fuel
    [("Schema", fun i => do pure { i with schema := (← lib.unsigned).toUInt16 }),
      ("Identity", fun i => do pure { i with identity := ← Identity.read lib fuel i.identity }),
      ("RuntimeVersion", fun i => do pure { i with runtime := ← lib.textValue }),
      ("References", fun i => do
        pure { i with references := ← lib.backedValue (Identity.read lib fuel) Identity.blank i.references }),
      ("Functions", fun i => do
        pure { i with functions := ← lib.backedValue (lib.optionValue (MethodDraft.read lib fuel) MethodDraft.blank) none i.functions }),
      ("Types", fun i => do
        pure { i with types := ← lib.backedValue (lib.optionValue (TypeDefDraft.read lib fuel) TypeDefDraft.blank) none i.types })]
    ImageDraft.blank

/-- Why bytes are not an image this library reads. -/
inductive ImageError where
  /-- The bytes do not start with the image magic. -/
  | notImage
  /-- The record after the magic cannot be read. -/
  | malformed (e : ReadError)
  /-- The image has another schema. -/
  | unsupportedSchema (schema : UInt16)
  deriving Repr, Inhabited

/-- An image error as a fault. -/
def ImageError.toFault : ImageError → Fault
  | .notImage => .reason "not a module image"
  | .malformed e => .context "decode image" (.reason e.text)
  | .unsupportedSchema n => .reason ("image schema " ++ toString n.toNat ++
      " is not supported (want " ++ toString imageSchema.toNat ++ ")")

/-- Reads an image from its binary form; bytes after it are ignored. -/
def Image.decodeWith (bytes : List UInt8) : Except ImageError Image :=
  if bytes.take 4 != imageMagic then .error .notImage
  else match (ImageDraft.read lib (bytes.length + 1) ImageDraft.blank).run (bytes.drop 4) with
    | .error e => .error (.malformed e)
    | .ok (draft, _) =>
      let img := draft.finish
      if img.schema != imageSchema then .error (.unsupportedSchema img.schema) else .ok img

end Codec

/-- The binary form of an image, as the linked library writes it. -/
def Image.encode (img : Image) : List UInt8 := img.encodeWith v5

/-- Reads an image from its binary form with the linked library; bytes after it are ignored. -/
def Image.decode (bytes : List UInt8) : Except ImageError Image := Image.decodeWith v5 bytes

end NativeExports
