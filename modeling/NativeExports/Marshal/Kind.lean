import NativeExports.Text.Hex
/-!
Marshalling kinds and variant types.  A marshalling kind is a number; the known ones have
names, and any other prints as "UnmanagedType(n)".  A variant type is a base type in the low
twelve bits with three modifier flags above it: vector, array and by-reference.
-/

namespace NativeExports.Marshal

/-- The names of the known marshalling kinds. -/
def kindNames : List (Int × String) :=
  [(2, "Bool"), (3, "I1"), (4, "U1"), (5, "I2"), (6, "U2"), (7, "I4"), (8, "U4"), (9, "I8"),
    (10, "U8"), (11, "R4"), (12, "R8"), (15, "Currency"), (19, "BStr"), (20, "LPStr"),
    (21, "LPWStr"), (22, "LPTStr"), (23, "ByValTStr"), (25, "IUnknown"), (26, "IDispatch"),
    (27, "Struct"), (28, "Interface"), (29, "SafeArray"), (30, "ByValArray"), (31, "SysInt"),
    (32, "SysUInt"), (34, "VBByRefStr"), (35, "AnsiBStr"), (36, "TBStr"), (37, "VariantBool"),
    (38, "FunctionPtr"), (40, "AsAny"), (42, "LPArray"), (43, "LPStruct"),
    (44, "CustomMarshaler"), (45, "Error"), (46, "IInspectable"), (47, "HString"),
    (48, "LPUTF8Str")]

/-- Codes of the kinds the directive writer treats specially. -/
def byValTStr : Int := 23
def safeArray : Int := 29
def byValArray : Int := 30
def lpArray : Int := 42
def customMarshaler : Int := 44

/-- The name of a kind in messages. -/
def kindName (k : Int) : String :=
  match kindNames.lookup k with
  | some n => n
  | none => "UnmanagedType(" ++ toString k ++ ")"

/-- The kind with the given name, if any. -/
def kindOfName? (name : String) : Option Int :=
  (kindNames.find? (·.2 == name)).map (·.1)

/-- The native types of kinds written as a single keyword. -/
def simpleNative : List (Int × String) :=
  [(2, "bool"), (3, "int8"), (4, "unsigned int8"), (5, "int16"), (6, "unsigned int16"),
    (7, "int32"), (8, "unsigned int32"), (9, "int64"), (10, "unsigned int64"), (11, "float32"),
    (12, "float64"), (15, "currency"), (19, "bstr"), (20, "lpstr"), (21, "lpwstr"),
    (22, "lptstr"), (27, "struct"), (31, "int"), (32, "unsigned int"), (34, "byvalstr"),
    (35, "ansi bstr"), (36, "tbstr"), (37, "variant bool"), (38, "method"), (40, "as any"),
    (43, "lpstruct"), (45, "error")]

/-- The native types of the interface kinds. -/
def interfaceNative : List (Int × String) :=
  [(25, "iunknown"), (26, "idispatch"), (28, "interface")]

/-- The names of the variant base types. -/
def variantNames : List (Int × String) :=
  [(0, ""), (1, "null"), (2, "int16"), (3, "int32"), (4, "float32"), (5, "float64"),
    (6, "currency"), (7, "date"), (8, "bstr"), (9, "idispatch"), (10, "error"), (11, "bool"),
    (12, "variant"), (13, "iunknown"), (14, "decimal"), (16, "int8"), (17, "unsigned int8"),
    (18, "unsigned int16"), (19, "unsigned int32"), (20, "int64"), (21, "unsigned int64"),
    (22, "int"), (23, "unsigned int"), (24, "void"), (25, "hresult"), (26, "*"),
    (27, "safearray"), (28, "carray"), (29, "userdefined"), (30, "lpstr"), (31, "lpwstr"),
    (36, "record"), (64, "filetime"), (65, "blob"), (66, "stream"), (67, "storage"),
    (68, "streamed_object"), (69, "stored_object"), (70, "blob_object"), (71, "cf"),
    (72, "clsid")]

/-- The variant modifier flags. -/
def vectorFlag : Int := 0x1000
def arrayFlag : Int := 0x2000
def byRefFlag : Int := 0x4000

/-- Whether bit `flag` (a power of two) is set in `v`, two's complement for negatives. -/
def hasFlag (v : Int) (flag : Nat) : Bool := (v / flag) % 2 == 1

/-- The base type of a variant: its low twelve bits. -/
def variantBase (v : Int) : Int := v % 0x1000

/-- The modifier part of a variant: all bits above the low twelve. -/
def variantModifiers (v : Int) : Int := v - variantBase v

/-- Whether the variant carries a modifier bit other than vector, array and by-reference. -/
def hasUnknownFlags (v : Int) : Bool :=
  variantModifiers v - (if hasFlag v 0x1000 then 0x1000 else 0) -
    (if hasFlag v 0x2000 then 0x2000 else 0) - (if hasFlag v 0x4000 then 0x4000 else 0) != 0

/-- A signed number in hexadecimal: a minus sign before the digits of a negative one. -/
def signedHex (v : Int) : String :=
  let digits := Text.hexPad ((Nat.toDigits 16 v.natAbs).length) v.natAbs
  (if v < 0 then "-" else "") ++ String.ofList digits

end NativeExports.Marshal
