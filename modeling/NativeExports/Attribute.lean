import NativeExports.Fault
/-!
Custom attributes as module images record them.  An attribute names its type and carries
positional arguments and named arguments.  An argument value has a kind (none, integer,
string, boolean, or a type given by name) and the field that kind uses; images may carry any
kind code, and an unknown code reads as "none".
-/

namespace NativeExports

/-- The kinds of attribute value, by their codes 0 to 4. -/
inductive ValueKind where
  | none
  | int
  | string
  | bool
  | type
  deriving Repr, DecidableEq

/-- The code of a value kind. -/
def ValueKind.code : ValueKind → UInt8
  | .none => 0
  | .int => 1
  | .string => 2
  | .bool => 3
  | .type => 4

/-- The kind a code stands for; unknown codes read as none. -/
def ValueKind.ofCode : UInt8 → ValueKind
  | 1 => .int
  | 2 => .string
  | 3 => .bool
  | 4 => .type
  | _ => .none

/-- The word for a value kind in messages. -/
def ValueKind.word : ValueKind → String
  | .none => "none"
  | .int => "int"
  | .string => "string"
  | .bool => "bool"
  | .type => "type"

/-- An attribute argument value as recorded. -/
structure AttrValue where
  kind : UInt8
  int : Int64
  str : String
  bool : Bool
  deriving Repr, DecidableEq, Inhabited

namespace AttrValue

/-- The value with every field zero: kind none. -/
def blank : AttrValue := ⟨0, 0, "", false⟩

/-- An integer value. -/
def ofInt (i : Int64) : AttrValue := { blank with kind := ValueKind.int.code, int := i }

/-- A string value. -/
def ofString (s : String) : AttrValue := { blank with kind := ValueKind.string.code, str := s }

/-- A boolean value. -/
def ofBool (b : Bool) : AttrValue := { blank with kind := ValueKind.bool.code, bool := b }

/-- A type given by name. -/
def ofType (name : String) : AttrValue := { blank with kind := ValueKind.type.code, str := name }

/-- The kind of the value. -/
def valueKind (v : AttrValue) : ValueKind := ValueKind.ofCode v.kind

/-- The value as an integer; other kinds are refused. -/
def asInt (v : AttrValue) : Except Fault Int64 :=
  if v.valueKind = .int then .ok v.int
  else .error (.reason ("expected int argument, got " ++ v.valueKind.word))

/-- The value as text: strings and type names are accepted. -/
def asString (v : AttrValue) : Except Fault String :=
  if v.valueKind = .string || v.valueKind = .type then .ok v.str
  else .error (.reason ("expected string argument, got " ++ v.valueKind.word))

end AttrValue

/-- A named argument of an attribute. -/
structure NamedArg where
  name : String
  value : AttrValue
  deriving Repr, DecidableEq, Inhabited

/-- An attribute: its type's name, positional arguments and named arguments. -/
structure Attribute where
  typeName : String
  args : List AttrValue
  named : List NamedArg
  deriving Repr, DecidableEq, Inhabited

/-- The named argument with empty name and value. -/
def NamedArg.blank : NamedArg := ⟨"", AttrValue.blank⟩

/-- The attribute with empty type name and no arguments. -/
def Attribute.blank : Attribute := ⟨"", [], []⟩

/-- The first named argument with the given name. -/
def Attribute.lookup (a : Attribute) (name : String) : Option AttrValue :=
  (a.named.find? (·.name == name)).map (·.value)

/-- The type name of the attribute that asks for a marshalling directive. -/
def marshalAsAttribute : String := "System.Runtime.InteropServices.MarshalAsAttribute"

/-- The first attribute of a list with the given type name. -/
def findAttribute (attrs : List Attribute) (typeName : String) : Option Attribute :=
  attrs.find? (·.typeName == typeName)

end NativeExports
