import NativeExports.MessagePack.Write
import NativeExports.MessagePack.Read
/-!
The MessagePack library the image and cache codecs are written against.  A library is the
writer and the reader of each kind of value the codecs store, and of the structs, lists and
optional values built from them; what the codecs need of it is stated as laws beside their
proofs.  The tool links `MessagePack.v5`, the library of `MessagePack.Write` and
`MessagePack.Read`.
-/

namespace NativeExports.MessagePack

/-- A MessagePack library: how each kind of value is written, and read back from the bytes of a
stream.  Structs, lists and optional values are read over the value they had before, as a
decoder into an existing value does. -/
structure Library where
  /-- Nil, the value of an absent entry. -/
  nil : List UInt8
  bool : Bool → List UInt8
  /-- A one-byte code. -/
  uint8 : UInt8 → List UInt8
  uint16 : UInt16 → List UInt8
  int32 : Int32 → List UInt8
  int64 : Int64 → List UInt8
  /-- A machine-word integer, as 64 bits. -/
  int : Int64 → List UInt8
  text : String → List UInt8
  binary : List UInt8 → List UInt8
  /-- The start of an array of `n` values. -/
  arrayHeader : Nat → List UInt8
  /-- A struct, from its fields in order, each with its written value or none when it is left
  out. -/
  record : List Field → List UInt8
  /-- A number of any integer form, as 64 bits. -/
  unsigned : Reader UInt64
  signed : Reader Int64
  boolean : Reader Bool
  textValue : Reader String
  bytesValue : Reader (List UInt8)
  /-- The length of an array, none for nil. -/
  arrayLength : Reader (Option Nat)
  /-- A list of texts over its previous value. -/
  textsValue : List String → Reader (List String)
  /-- A list over its previous value and the storage behind it, each element read by `elem`
  over its previous value or `zero`. -/
  backedValue : {α : Type} → (α → Reader α) → α → Backed α → Reader (Backed α)
  /-- A value that may be absent, read by `elem` over its previous value or `zero`. -/
  optionValue : {α : Type} → (α → Reader α) → α → Option α → Reader (Option α)
  /-- A struct over its previous value, with a budget for nesting, the readers of its fields
  by name, and its zero value. -/
  recordValue : {α : Type} → Nat → List (FieldReader α) → α → α → Reader α

/-- The library the tool links. -/
def v5 : Library where
  nil := nil
  bool := bool
  uint8 := uint8
  uint16 := uint16
  int32 := int32
  int64 := int64
  int := int
  text := text
  binary := binary
  arrayHeader := arrayHeader
  record := record
  unsigned := unsigned
  signed := signed
  boolean := boolean
  textValue := textValue
  bytesValue := bytesValue
  arrayLength := arrayLength
  textsValue := textsValue
  backedValue := backedValue
  optionValue := optionValue
  recordValue := recordValue

namespace Library

/-- An array of written values. -/
def array (lib : Library) (items : List (List UInt8)) : List UInt8 :=
  lib.arrayHeader items.length ++ items.flatten

/-- A struct as the value of a field: left out when all its own fields are. -/
def recordField (lib : Library) (fields : List Field) : Option (List UInt8) :=
  if (present fields).isEmpty then none else some (lib.record fields)

end Library

end NativeExports.MessagePack
