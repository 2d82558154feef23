import NativeExports.Text.Bytes
/-!
Reading MessagePack values leniently.  A number may arrive in any integer form and is cut to
the width of the field it fills; nil reads as zero, false, the empty text or an empty list; a
text and a byte string may each arrive as the other.  A record may arrive as a map from field
names to values, where unknown names are skipped and a later entry overrides an earlier one,
or as an array holding every field in order.  Reading a field updates the value it had, which
is how a repeated name behaves; a list keeps the elements a shorter list left behind, and a
later, longer list starts from them.

Every reader here takes the unread bytes and gives back the value and the bytes after it.
Nesting is bounded by a budget: each nested value takes at least one byte, so the length of
the input is always enough.
-/

namespace NativeExports.MessagePack

/-- Why bytes are not a value of the wanted form. -/
inductive ReadError where
  /-- The input ended before a value started. -/
  | ended
  /-- The input ended inside a value. -/
  | cut
  /-- A code that cannot start the wanted value. -/
  | invalidCode (code : UInt8) (wanted : String)
  /-- A code that starts no value at all. -/
  | unknownCode (code : UInt8)
  /-- More elements than a fixed-size array holds. -/
  | tooMany (typeName : String) (limit count : Nat)
  /-- A record sent as an array with the wrong number of fields. -/
  | fieldCount
  /-- Nesting deeper than the budget. -/
  | tooDeep
  deriving Repr, DecidableEq, Inhabited

/-- Lower-case hexadecimal digits of a byte, without leading zeros. -/
def hexCode (c : UInt8) : String :=
  let d (n : Nat) : Char := if n < 10 then Char.ofNat (48 + n) else Char.ofNat (87 + n)
  if c.toNat < 16 then String.singleton (d c.toNat)
  else String.ofList [d (c.toNat / 16), d (c.toNat % 16)]

/-- The text of a read error. -/
def ReadError.text : ReadError → String
  | .ended => "EOF"
  | .cut => "unexpected EOF"
  | .invalidCode c wanted => "msgpack: invalid code=" ++ hexCode c ++ " decoding " ++ wanted
  | .unknownCode c => "msgpack: unknown code " ++ hexCode c
  | .tooMany t limit count => t ++ " len is " ++ toString limit ++ ", but msgpack has " ++
      toString count ++ " elements"
  | .fieldCount => "msgpack: number of fields in array-encoded struct has changed"
  | .tooDeep => "msgpack: exceeded max depth"

/-- A reader: from the unread bytes to a value and the bytes after it. -/
abbrev Reader := StateT (List UInt8) (Except ReadError)

/-- Fails with a read error. -/
def fail {α : Type} (e : ReadError) : Reader α := throw e

/-- The next byte. -/
def code : Reader UInt8 := do
  match (← get) with
  | [] => fail .ended
  | c :: rest => set rest; pure c

/-- The next byte, left unread. -/
def peek : Reader (Option UInt8) := do pure (← get).head?

/-- The next `n` bytes. -/
def take (n : Nat) : Reader (List UInt8) := do
  let bs ← get
  if n ≤ bs.length then set (bs.drop n); pure (bs.take n)
  else if bs.isEmpty then fail .ended
  else fail .cut

/-- The number that bytes spell, most significant first. -/
def ofBigEndian (bs : List UInt8) : Nat := bs.foldl (fun acc b => acc * 256 + b.toNat) 0

/-- The next `n` bytes as a big-endian number. -/
def number (n : Nat) : Reader Nat := do pure (ofBigEndian (← take n))

/-- Whether a code is a fixnum, the value itself: 0 to 127 or -32 to -1. -/
def isFixnum (c : UInt8) : Bool := c ≤ 0x7f || 0xe0 ≤ c

/-- The number a code and the bytes after it give, as 64 bits of two's complement. -/
def integerAfter (c : UInt8) (wanted : String) : Reader UInt64 :=
  if c = 0xc0 then pure 0
  else if isFixnum c then pure (Int8.toInt64 c.toInt8).toUInt64
  else match c with
    | 0xcc => do pure (← number 1).toUInt64
    | 0xd0 => do pure (Int8.toInt64 (← number 1).toUInt8.toInt8).toUInt64
    | 0xcd => do pure (← number 2).toUInt64
    | 0xd1 => do pure (Int16.toInt64 (← number 2).toUInt16.toInt16).toUInt64
    | 0xce => do pure (← number 4).toUInt64
    | 0xd2 => do pure (Int32.toInt64 (← number 4).toUInt32.toInt32).toUInt64
    | 0xcf => do pure (← number 8).toUInt64
    | 0xd3 => do pure (← number 8).toUInt64
    | _ => fail (.invalidCode c wanted)

/-- An unsigned number in any integer form, as 64 bits. -/
def unsigned : Reader UInt64 := do integerAfter (← code) "uint64"

/-- A signed number in any integer form, as 64 bits. -/
def signed : Reader Int64 := do pure (← integerAfter (← code) "int64").toInt64

/-- A boolean; nil reads as false. -/
def boolean : Reader Bool := do
  match (← code) with
  | 0xc0 => pure false
  | 0xc2 => pure false
  | 0xc3 => pure true
  | c => fail (.invalidCode c "bool")

/-- The length that a text or byte string code announces, none for nil. -/
def bytesLength (c : UInt8) : Reader (Option Nat) :=
  if c = 0xc0 then pure none
  else if 0xa0 ≤ c && c ≤ 0xbf then pure (some (c.toNat - 0xa0))
  else match c with
    | 0xd9 | 0xc4 => do pure (some (← number 1))
    | 0xda | 0xc5 => do pure (some (← number 2))
    | 0xdb | 0xc6 => do pure (some (← number 4))
    | _ => fail (.invalidCode c "string/bytes length")

/-- A byte string or text as bytes; nil reads as none. -/
def rawBytes : Reader (Option (List UInt8)) := do
  match (← bytesLength (← code)) with
  | none => pure none
  | some n => pure (some (← take n))

/-- A text; a byte string reads as its UTF-8 text (stray bytes kept) and nil as the empty
text. -/
def textValue : Reader String := do pure (Text.ofBytes ((← rawBytes).getD []))

/-- A byte string; a text reads as its bytes and nil as no bytes. -/
def bytesValue : Reader (List UInt8) := do pure ((← rawBytes).getD [])

/-- The length that an array code announces, none for nil. -/
def arrayLengthAfter (c : UInt8) : Reader (Option Nat) :=
  if c = 0xc0 then pure none
  else if 0x90 ≤ c && c ≤ 0x9f then pure (some (c.toNat - 0x90))
  else match c with
    | 0xdc => do pure (some (← number 2))
    | 0xdd => do pure (some (← number 4))
    | _ => fail (.invalidCode c "array length")

/-- The length of an array, none for nil. -/
def arrayLength : Reader (Option Nat) := do arrayLengthAfter (← code)

/-- The length that a map code announces, none for nil, or nothing when the code starts no
map. -/
def mapLengthAfter? (c : UInt8) : Option (Reader (Option Nat)) :=
  if c = 0xc0 then some (pure none)
  else if 0x80 ≤ c && c ≤ 0x8f then some (pure (some (c.toNat - 0x80)))
  else match c with
    | 0xde => some (do pure (some (← number 2)))
    | 0xdf => some (do pure (some (← number 4)))
    | _ => none

/-- What follows a code when passing over a value: a number of bytes, then a number of
nested values (two per map entry); none when the code starts no value. -/
def extentAfter (c : UInt8) : Option (Reader (Nat × Nat)) :=
  if isFixnum c || c = 0xc0 || c = 0xc2 || c = 0xc3 then some (pure (0, 0))
  else if 0x80 ≤ c && c ≤ 0x8f then some (pure (0, 2 * (c.toNat - 0x80)))
  else if 0x90 ≤ c && c ≤ 0x9f then some (pure (0, c.toNat - 0x90))
  else if 0xa0 ≤ c && c ≤ 0xbf then some (pure (c.toNat - 0xa0, 0))
  else if c = 0xc4 || c = 0xd9 then some (do pure (← number 1, 0))
  else if c = 0xc5 || c = 0xda then some (do pure (← number 2, 0))
  else if c = 0xc6 || c = 0xdb then some (do pure (← number 4, 0))
  else if c = 0xcc || c = 0xd0 then some (pure (1, 0))
  else if c = 0xcd || c = 0xd1 then some (pure (2, 0))
  else if c = 0xce || c = 0xd2 || c = 0xca then some (pure (4, 0))
  else if c = 0xcf || c = 0xd3 || c = 0xcb then some (pure (8, 0))
  else if c = 0xdc then some (do pure (0, ← number 2))
  else if c = 0xdd then some (do pure (0, ← number 4))
  else if c = 0xde then some (do pure (0, 2 * (← number 2)))
  else if c = 0xdf then some (do pure (0, 2 * (← number 4)))
  else if c = 0xd4 then some (pure (2, 0))
  else if c = 0xd5 then some (pure (3, 0))
  else if c = 0xd6 then some (pure (5, 0))
  else if c = 0xd7 then some (pure (9, 0))
  else if c = 0xd8 then some (pure (17, 0))
  else if c = 0xc7 then some (do pure ((← number 1) + 1, 0))
  else if c = 0xc8 then some (do pure ((← number 2) + 1, 0))
  else if c = 0xc9 then some (do pure ((← number 4) + 1, 0))
  else none

mutual

/-- Passes over one value of any form. -/
def skip : Nat → Reader Unit
  | 0 => fail .tooDeep
  | fuel + 1 => do
    let c ← code
    match extentAfter c with
    | none => fail (.unknownCode c)
    | some extent =>
      let (count, values) ← extent
      discard (take count)
      skipMany fuel values

/-- Passes over `n` values. -/
def skipMany (fuel : Nat) : Nat → Reader Unit
  | 0 => pure ()
  | n + 1 => do skip fuel; skipMany fuel n

end

/-- How a record arrives. -/
inductive RecordForm where
  /-- Nil: the record is reset to its zero value. -/
  | reset
  /-- A map of `n` entries from field names to values. -/
  | keyed (n : Nat)
  /-- An array of `n` values, one per field in order. -/
  | positional (n : Nat)

/-- The form in which the next record arrives. -/
def recordForm : Reader RecordForm := do
  let c ← code
  match mapLengthAfter? c with
  | some len => match (← len) with
    | none => pure .reset
    | some n => pure (.keyed n)
  | none =>
    if 0x90 ≤ c && c ≤ 0x9f then pure (.positional (c.toNat - 0x90))
    else match c with
      | 0xdc => do pure (.positional (← number 2))
      | 0xdd => do pure (.positional (← number 4))
      | _ => fail (.invalidCode c "map length")

/-- A field of a record type: its name and how reading its value updates a record. -/
abbrev FieldReader (α : Type) := String × (α → Reader α)

/-- Reads `n` map entries into a record: a known field name updates its field, an unknown
one is skipped with its value. -/
def keyedEntries {α : Type} (fuel : Nat) (fields : List (FieldReader α)) : Nat → α → Reader α
  | 0, r => pure r
  | n + 1, r => do
    let name ← textValue
    match fields.find? (·.1 == name) with
    | some (_, upd) => keyedEntries fuel fields n (← upd r)
    | none => skip fuel; keyedEntries fuel fields n r

/-- Reads every field in order into a record. -/
def positionalFields {α : Type} : List (FieldReader α) → α → Reader α
  | [], r => pure r
  | (_, upd) :: rest, r => do positionalFields rest (← upd r)

/-- Reads a record into its previous value `r`, with `zero` the record with every field
zero. -/
def recordValue {α : Type} (fuel : Nat) (fields : List (FieldReader α)) (zero r : α) : Reader α := do
  match (← recordForm) with
  | .reset => pure zero
  | .keyed n => keyedEntries fuel fields n r
  | .positional 0 => pure zero
  | .positional n =>
    if n = fields.length then positionalFields fields r else fail .fieldCount

/-- Reads `n` elements in order; the element at position i updates the i-th of `old`, or the
zero value past its end. -/
def elements {α : Type} (elem : α → Reader α) (zero : α) : Nat → List α → Reader (List α)
  | 0, _ => pure []
  | n + 1, old => do
    let x ← elem (old.head?.getD zero)
    pure (x :: (← elements elem zero n old.tail))

/-- A list as a reader fills it: the elements it shows, and the elements its storage still
holds past them.  A later list read over it starts from the shown elements, then from the
spare ones, and only then from zero values. -/
structure Backed (α : Type) where
  items : List α
  spare : List α
  deriving Repr, Inhabited

/-- The empty list with no storage. -/
def Backed.empty {α : Type} : Backed α := ⟨[], []⟩

/-- A list over a previous value.  Nil drops the list with its storage.  An array of `n`
elements updates in turn the elements the storage holds, shown or spare, then zero values;
what the storage holds past the `n`-th stays spare. -/
def backedValue {α : Type} (elem : α → Reader α) (zero : α) (old : Backed α) :
    Reader (Backed α) := do
  match (← arrayLength) with
  | none => pure Backed.empty
  | some n =>
    let held := old.items ++ old.spare
    pure ⟨← elements elem zero n held, held.drop n⟩

/-- A list of texts; nil leaves the previous value. -/
def textsValue (old : List String) : Reader (List String) := do
  match (← arrayLength) with
  | none => pure old
  | some n => elements (fun _ => textValue) "" n []

/-- A value that may be absent: nil makes it absent, anything else updates it, or the zero
value when it was absent. -/
def optionValue {α : Type} (elem : α → Reader α) (zero : α) (old : Option α) : Reader (Option α) := do
  if (← peek) = some 0xc0 then
    discard code
    pure none
  else pure (some (← elem (old.getD zero)))

end NativeExports.MessagePack
