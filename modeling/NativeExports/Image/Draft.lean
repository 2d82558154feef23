import NativeExports.Image
import NativeExports.MessagePack.Read
/-!
Images as a reader fills them.  A draft has the fields of its record, except that each list
that a repeated field can shrink and grow again is a `MessagePack.Backed` list, which keeps the
elements a shorter list left behind.  Lists of texts are replaced whole and keep nothing, so
they stay plain lists.  `finish` forgets what the lists keep and gives the record itself.
-/

namespace NativeExports

open MessagePack

/-- A signature as a reader fills it. -/
structure SigDraft where
  kind : UInt8
  primitive : UInt8
  elem : Option SigDraft
  rank : Int64
  scope : Int32
  ns : String
  enclosing : List String
  name : String
  valueType : Bool
  args : Backed (Option SigDraft)
  deriving Inhabited

/-- The signature draft with every field zero. -/
def SigDraft.blank : SigDraft := ⟨0, 0, none, 0, 0, "", [], "", false, Backed.empty⟩

mutual

/-- The signature a draft stands for. -/
def SigDraft.finish : SigDraft → TypeSig
  | ⟨kind, prim, elem, rank, scope, ns, enclosing, name, valueType, args⟩ =>
    ⟨kind, prim, finishElem elem, rank, scope, ns, enclosing, name, valueType,
      finishArgs args.items⟩

/-- The element signature a draft stands for. -/
def finishElem : Option SigDraft → Option TypeSig
  | none => none
  | some d => some d.finish

/-- The generic arguments the drafts stand for. -/
def finishArgs : List (Option SigDraft) → List (Option TypeSig)
  | [] => []
  | d :: rest => finishElem d :: finishArgs rest

end

/-- An attribute as a reader fills it. -/
structure AttributeDraft where
  typeName : String
  args : Backed AttrValue
  named : Backed NamedArg
  deriving Inhabited

/-- The attribute draft with no type name and no arguments. -/
def AttributeDraft.blank : AttributeDraft := ⟨"", Backed.empty, Backed.empty⟩

/-- The attribute a draft stands for. -/
def AttributeDraft.finish (d : AttributeDraft) : Attribute :=
  ⟨d.typeName, d.args.items, d.named.items⟩

/-- A parameter or return value as a reader fills it. -/
structure ParamDraft where
  name : String
  type : Option SigDraft
  flags : UInt8
  attributes : Backed AttributeDraft
  deriving Inhabited

/-- The parameter draft with every field empty. -/
def ParamDraft.blank : ParamDraft := ⟨"", none, 0, Backed.empty⟩

/-- The parameter a draft stands for. -/
def ParamDraft.finish (d : ParamDraft) : Param :=
  ⟨d.name, finishElem d.type, d.flags, d.attributes.items.map AttributeDraft.finish⟩

/-- A method as a reader fills it. -/
structure MethodDraft where
  name : String
  visibility : UInt8
  isStatic : Bool
  genericParams : List String
  callConv : UInt8
  returns : ParamDraft
  params : Backed ParamDraft
  attributes : Backed AttributeDraft
  deriving Inhabited

/-- The method draft with every field empty. -/
def MethodDraft.blank : MethodDraft :=
  ⟨"", 0, false, [], 0, ParamDraft.blank, Backed.empty, Backed.empty⟩

/-- The method a draft stands for. -/
def MethodDraft.finish (d : MethodDraft) : Method :=
  ⟨d.name, d.visibility, d.isStatic, d.genericParams, d.callConv, d.returns.finish,
    d.params.items.map ParamDraft.finish, d.attributes.items.map AttributeDraft.finish⟩

/-- A type definition as a reader fills it. -/
structure TypeDefDraft where
  ns : String
  name : String
  visibility : UInt8
  valueType : Bool
  genericParams : List String
  nested : Backed (Option TypeDefDraft)
  methods : Backed (Option MethodDraft)
  deriving Inhabited

/-- The type definition draft with every field empty. -/
def TypeDefDraft.blank : TypeDefDraft := ⟨"", "", 0, false, [], Backed.empty, Backed.empty⟩

mutual

/-- The type definition a draft stands for. -/
def TypeDefDraft.finish : TypeDefDraft → TypeDef
  | ⟨ns, name, visibility, valueType, generics, nested, methods⟩ =>
    ⟨ns, name, visibility, valueType, generics, finishNested nested.items,
      methods.items.map (Option.map MethodDraft.finish)⟩

/-- The nested type definitions the drafts stand for. -/
def finishNested : List (Option TypeDefDraft) → List (Option TypeDef)
  | [] => []
  | none :: rest => none :: finishNested rest
  | some d :: rest => some d.finish :: finishNested rest

end

/-- An image as a reader fills it. -/
structure ImageDraft where
  schema : UInt16
  identity : Identity
  runtime : String
  references : Backed Identity
  functions : Backed (Option MethodDraft)
  types : Backed (Option TypeDefDraft)
  deriving Inhabited

/-- The image draft with every field empty. -/
def ImageDraft.blank : ImageDraft :=
  ⟨0, Identity.blank, "", Backed.empty, Backed.empty, Backed.empty⟩

/-- The image a draft stands for. -/
def ImageDraft.finish (d : ImageDraft) : Image :=
  ⟨d.schema, d.identity, d.runtime, d.references.items,
    d.functions.items.map (Option.map MethodDraft.finish),
    d.types.items.map (Option.map TypeDefDraft.finish)⟩

end NativeExports
