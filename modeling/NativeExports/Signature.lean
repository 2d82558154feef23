/-!
Type signatures as module images record them.  A signature has a kind (primitive, pointer,
array, by-reference or named type) and the fields that kind uses: the primitive's code, the
element type, the array rank, or for a named type its scope (0 the module itself, n its n-th
reference), namespace, enclosing types, name, whether it is a value type, and its generic
arguments.  Images may carry any codes and fields, so the record keeps them all as read; the
kinds and primitives below give the codes their meaning.
-/

namespace NativeExports

/-- The kinds of type signature, by their codes 0 to 5. -/
inductive SigKind where
  | invalid
  | primitive
  | pointer
  | array
  | byref
  | named
  deriving Repr, DecidableEq

/-- The code of a kind. -/
def SigKind.code : SigKind → UInt8
  | .invalid => 0
  | .primitive => 1
  | .pointer => 2
  | .array => 3
  | .byref => 4
  | .named => 5

/-- The kind a code stands for; unknown codes are invalid. -/
def SigKind.ofCode : UInt8 → SigKind
  | 1 => .primitive
  | 2 => .pointer
  | 3 => .array
  | 4 => .byref
  | 5 => .named
  | _ => .invalid

/-- The word for a kind in messages. -/
def SigKind.word : SigKind → String
  | .invalid => "invalid"
  | .primitive => "primitive"
  | .pointer => "pointer"
  | .array => "array"
  | .byref => "byref"
  | .named => "named"

/-- The primitive types, by their codes 1 to 18. -/
inductive Primitive where
  | void
  | bool
  | char
  | int8
  | uint8
  | int16
  | uint16
  | int32
  | uint32
  | int64
  | uint64
  | float32
  | float64
  | nativeInt
  | nativeUInt
  | typedRef
  | object
  | string
  deriving Repr, DecidableEq

/-- The code of a primitive. -/
def Primitive.code : Primitive → UInt8
  | .void => 1
  | .bool => 2
  | .char => 3
  | .int8 => 4
  | .uint8 => 5
  | .int16 => 6
  | .uint16 => 7
  | .int32 => 8
  | .uint32 => 9
  | .int64 => 10
  | .uint64 => 11
  | .float32 => 12
  | .float64 => 13
  | .nativeInt => 14
  | .nativeUInt => 15
  | .typedRef => 16
  | .object => 17
  | .string => 18

/-- Every primitive, in code order. -/
def Primitive.all : List Primitive :=
  [.void, .bool, .char, .int8, .uint8, .int16, .uint16, .int32, .uint32, .int64, .uint64,
    .float32, .float64, .nativeInt, .nativeUInt, .typedRef, .object, .string]

/-- The primitive a code stands for, if any. -/
def Primitive.ofCode? (c : UInt8) : Option Primitive := Primitive.all.find? (·.code == c)

/-- The assembler's name of a primitive. -/
def Primitive.keyword : Primitive → String
  | .void => "void"
  | .bool => "bool"
  | .char => "char"
  | .int8 => "int8"
  | .uint8 => "uint8"
  | .int16 => "int16"
  | .uint16 => "uint16"
  | .int32 => "int32"
  | .uint32 => "uint32"
  | .int64 => "int64"
  | .uint64 => "uint64"
  | .float32 => "float32"
  | .float64 => "float64"
  | .nativeInt => "native int"
  | .nativeUInt => "native uint"
  | .typedRef => "typedref"
  | .object => "object"
  | .string => "string"

/-- The primitive with the given assembler name, if any. -/
def Primitive.ofKeyword? (s : String) : Option Primitive := Primitive.all.find? (·.keyword == s)

/-- A type signature record. -/
structure TypeSig where
  kind : UInt8
  primitive : UInt8
  elem : Option TypeSig
  rank : Int64
  scope : Int32
  ns : String
  enclosing : List String
  name : String
  valueType : Bool
  args : List (Option TypeSig)
  deriving Repr, Inhabited

namespace TypeSig

/-- The record with every field zero. -/
def blank : TypeSig := ⟨0, 0, none, 0, 0, "", [], "", false, []⟩

/-- A primitive type. -/
def prim (p : Primitive) : TypeSig := { blank with kind := SigKind.primitive.code, primitive := p.code }

/-- A pointer to `elem`. -/
def pointerTo (elem : TypeSig) : TypeSig := { blank with kind := SigKind.pointer.code, elem := some elem }

/-- A by-reference `elem`. -/
def byRefTo (elem : TypeSig) : TypeSig := { blank with kind := SigKind.byref.code, elem := some elem }

/-- An array of `elem` with `rank` dimensions (at least one). -/
def arrayOf (elem : TypeSig) (rank : Nat) : TypeSig :=
  { blank with kind := SigKind.array.code, elem := some elem, rank := (max rank 1).toInt64 }

/-- A named type: scope, namespace, enclosing types outermost first, and name. -/
def named (scope : Int32) (ns : String) (name : String) (enclosing : List String) : TypeSig :=
  { blank with kind := SigKind.named.code, scope := scope, ns := ns, name := name,
               enclosing := enclosing }

/-- The kind of the signature. -/
def sigKind (s : TypeSig) : SigKind := SigKind.ofCode s.kind

/-- Appends a name to a dotted prefix; an empty prefix adds no dot. -/
def joinDotted (pre name : String) : String := if pre = "" then name else pre ++ "." ++ name

/-- The dotted full name: namespace, enclosing types and name. -/
def fullName (s : TypeSig) : String :=
  joinDotted (s.enclosing.foldl joinDotted s.ns) s.name

end TypeSig

end NativeExports
