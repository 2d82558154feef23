import NativeExports.Text.Bytes
/-!
Writing MessagePack values.  Every value starts with a code byte that gives its kind and, for
small values, the value or length itself; larger ones follow the code with a big-endian
length or number of a fixed size.  Integers are written either compactly, in the fewest bytes
that hold them, or in a fixed width whatever their value.  A record is written as a map from
field names to values, and leaves out the fields its writer marks as absent.
-/

namespace NativeExports.MessagePack

/-- The low `count` bytes of `n`, most significant first. -/
def bigEndian : Nat → Nat → List UInt8
  | 0, _ => []
  | count + 1, n => bigEndian count (n / 256) ++ [(n % 256).toUInt8]

/-- The nil value. -/
def nil : List UInt8 := [0xc0]

/-- A boolean. -/
def bool (b : Bool) : List UInt8 := [if b then 0xc3 else 0xc2]

/-- An unsigned byte in its fixed one-byte form. -/
def uint8 (n : UInt8) : List UInt8 := [0xcc, n]

/-- An unsigned 16-bit number in its fixed form. -/
def uint16 (n : UInt16) : List UInt8 := 0xcd :: bigEndian 2 n.toNat

/-- A signed 32-bit number in its fixed form, two's complement. -/
def int32 (n : Int32) : List UInt8 := 0xd2 :: bigEndian 4 n.toUInt32.toNat

/-- A signed 64-bit number in its fixed form, two's complement. -/
def int64 (n : Int64) : List UInt8 := 0xd3 :: bigEndian 8 n.toUInt64.toNat

/-- A natural number below 2^64 in the fewest bytes: a positive fixnum up to 127, then one,
two, four or eight bytes after a code. -/
def uint (n : Nat) : List UInt8 :=
  if n ≤ 127 then [n.toUInt8]
  else if n ≤ 0xff then [0xcc, n.toUInt8]
  else if n ≤ 0xffff then 0xcd :: bigEndian 2 n
  else if n ≤ 0xffffffff then 0xce :: bigEndian 4 n
  else 0xcf :: bigEndian 8 n

/-- A signed 64-bit number in the fewest bytes: non-negative ones as by `uint`, a negative
fixnum down to -32, then one, two, four or eight bytes of two's complement after a code. -/
def int (n : Int64) : List UInt8 :=
  let i := n.toInt
  if 0 ≤ i then uint i.toNat
  else if -32 ≤ i then [(256 + i).toNat.toUInt8]
  else if -0x80 ≤ i then [0xd0, (0x100 + i).toNat.toUInt8]
  else if -0x8000 ≤ i then 0xd1 :: bigEndian 2 (0x10000 + i).toNat
  else if -0x80000000 ≤ i then 0xd2 :: bigEndian 4 (0x100000000 + i).toNat
  else 0xd3 :: bigEndian 8 n.toUInt64.toNat

/-- The code and length that start a text of `len` bytes. -/
def textHeader (len : Nat) : List UInt8 :=
  if len < 32 then [0xa0 + len.toUInt8]
  else if len < 0x100 then [0xd9, len.toUInt8]
  else if len ≤ 0xffff then 0xda :: bigEndian 2 len
  else 0xdb :: bigEndian 4 len

/-- A text, as its UTF-8 bytes with stray bytes written as themselves. -/
def text (s : String) : List UInt8 :=
  let bytes := Text.toBytes s
  textHeader bytes.length ++ bytes

/-- A byte string. -/
def binary (bs : List UInt8) : List UInt8 :=
  (if bs.length < 0x100 then [0xc4, bs.length.toUInt8]
   else if bs.length ≤ 0xffff then 0xc5 :: bigEndian 2 bs.length
   else 0xc6 :: bigEndian 4 bs.length) ++ bs

/-- The code and count that start an array of `n` values. -/
def arrayHeader (n : Nat) : List UInt8 :=
  if n < 16 then [0x90 + n.toUInt8]
  else if n ≤ 0xffff then 0xdc :: bigEndian 2 n
  else 0xdd :: bigEndian 4 n

/-- The code and count that start a map of `n` entries. -/
def mapHeader (n : Nat) : List UInt8 :=
  if n < 16 then [0x80 + n.toUInt8]
  else if n ≤ 0xffff then 0xde :: bigEndian 2 n
  else 0xdf :: bigEndian 4 n

/-- An array of written values. -/
def array (items : List (List UInt8)) : List UInt8 := arrayHeader items.length ++ items.flatten

/-- A field of a record: its name and its written value, or none when it is left out. -/
abbrev Field := String × Option (List UInt8)

/-- The fields of a record that are written, in order. -/
def present (fields : List Field) : List (String × List UInt8) :=
  fields.filterMap fun (k, v) => v.map (k, ·)

/-- A record: a map from the names of its present fields to their values. -/
def record (fields : List Field) : List UInt8 :=
  let written := present fields
  mapHeader written.length ++ written.flatMap fun (k, v) => text k ++ v

/-- A value written only when `keep` holds. -/
def keepIf (keep : Bool) (bytes : List UInt8) : Option (List UInt8) :=
  if keep then some bytes else none

end NativeExports.MessagePack
