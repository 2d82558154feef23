import NativeExports.Identity
import NativeExports.Signature
import NativeExports.Attribute
/-!
Module images: what a module declares.  An image has a schema number, the module's identity,
the runtime version it targets, the identities of the modules it references (scope n of a
signature is the n-th of them), its module-level functions, and its types.  A type has a
namespace, a name, a visibility, whether it is a value type, generic parameters, nested types
and methods.  A method has a name, a visibility, whether it is static, generic parameters, a
calling convention, a return value, parameters and attributes.  Lists of functions, types,
nested types and methods may hold empty entries, which readers skip.
-/

namespace NativeExports

/-- Visibility codes: 0 private, 1 internal to the module, 2 public. -/
def visibilityPublic : UInt8 := 2

/-- A parameter or return value: name, type, flags (1 in, 2 out, 4 optional) and attributes. -/
structure Param where
  name : String
  type : Option TypeSig
  flags : UInt8
  attributes : List Attribute
  deriving Repr, Inhabited

/-- A method. -/
structure Method where
  name : String
  visibility : UInt8
  isStatic : Bool
  genericParams : List String
  callConv : UInt8
  returns : Param
  params : List Param
  attributes : List Attribute
  deriving Repr, Inhabited

/-- A type definition. -/
structure TypeDef where
  ns : String
  name : String
  visibility : UInt8
  valueType : Bool
  genericParams : List String
  nested : List (Option TypeDef)
  methods : List (Option Method)
  deriving Repr, Inhabited

/-- A module image. -/
structure Image where
  schema : UInt16
  identity : Identity
  runtime : String
  references : List Identity
  functions : List (Option Method)
  types : List (Option TypeDef)
  deriving Repr, Inhabited

/-- The schema of images this library reads and writes. -/
def imageSchema : UInt16 := 1

/-- The parameter flag bits. -/
def paramIn : UInt8 := 1
def paramOut : UInt8 := 2
def paramOptional : UInt8 := 4

/-- The calling convention code of methods taking a variable argument list. -/
def callVarArg : UInt8 := 1

/-- A parameter with no name, type, flags or attributes. -/
def Param.blank : Param := ⟨"", none, 0, []⟩

/-- The method with every field empty. -/
def Method.blank : Method := ⟨"", 0, false, [], 0, Param.blank, [], []⟩

/-- The type definition with every field empty. -/
def TypeDef.blank : TypeDef := ⟨"", "", 0, false, [], [], []⟩

/-- The image with every field empty. -/
def Image.blank : Image := ⟨0, Identity.blank, "", [], [], []⟩

/-- Whether a method has generic parameters. -/
def Method.isGeneric (m : Method) : Bool := !m.genericParams.isEmpty

/-- Whether a type is a generic definition. -/
def TypeDef.isGeneric (t : TypeDef) : Bool := !t.genericParams.isEmpty

end NativeExports
