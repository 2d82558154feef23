import NativeExports.Text.Graphic
/-!
Hexadecimal text.  Bytes are written as two lowercase digits each; reading accepts either
case and refuses an odd number of digits or a character that is no digit, naming the first
offending character the way the standard decoder of the format does.
-/

namespace NativeExports.Text

/-- The lowercase hexadecimal digit of a value below 16. -/
def hexDigit (n : Nat) : Char :=
  if n < 10 then Char.ofNat (0x30 + n) else Char.ofNat (0x57 + n)

/-- The last `width` hexadecimal digits of `n`, most significant first, zero-padded. -/
def hexPad : Nat → Nat → List Char
  | 0, _ => []
  | width + 1, n => hexPad width (n / 16) ++ [hexDigit (n % 16)]

/-- The two lowercase digits of one byte. -/
def hexByte (b : UInt8) : List Char := hexPad 2 b.toNat

/-- Bytes as lowercase hexadecimal text, two digits per byte. -/
def hexOfBytes (bytes : List UInt8) : String :=
  String.ofList (bytes.flatMap hexByte)

/-- The value of a hexadecimal digit of either case, given as its byte. -/
def hexValue? (b : UInt8) : Option Nat :=
  if 0x30 ≤ b && b ≤ 0x39 then some (b.toNat - 0x30)
  else if 0x61 ≤ b && b ≤ 0x66 then some (b.toNat - 0x57)
  else if 0x41 ≤ b && b ≤ 0x46 then some (b.toNat - 0x37)
  else none

/-- Why hexadecimal text could not be read. -/
inductive HexError where
  /-- The text has an odd number of digits. -/
  | oddLength
  /-- The byte is not a hexadecimal digit. -/
  | invalidByte (b : UInt8)
  deriving Repr, DecidableEq

/-- Reads pairs of digits into bytes.  A bad byte in a pair is reported before the check
that the text has even length: the pairs are read first and a trailing single digit last. -/
def bytesOfHexDigits : List UInt8 → Except HexError (List UInt8)
  | [] => .ok []
  | [c] => match hexValue? c with
    | none => .error (.invalidByte c)
    | some _ => .error .oddLength
  | hi :: lo :: rest =>
    match hexValue? hi, hexValue? lo with
    | none, _ => .error (.invalidByte hi)
    | some _, none => .error (.invalidByte lo)
    | some h, some l => (bytesOfHexDigits rest).map fun tail => (h * 16 + l).toUInt8 :: tail

/-- A code point as messages show it: `U+` and at least four uppercase hexadecimal digits,
followed by the character in single quotes when it is printable. -/
def codePointText (n : Nat) : String :=
  let ds := (hexPad (max 4 (Nat.toDigits 16 n).length) n).map Char.toUpper
  "U+" ++ String.ofList ds ++
    (if isGraphic (Char.ofNat n) then " '" ++ String.singleton (Char.ofNat n) ++ "'" else "")

/-- The text of a hexadecimal reading error. -/
def HexError.text : HexError → String
  | .oddLength => "encoding/hex: odd length hex string"
  | .invalidByte b => "encoding/hex: invalid byte: " ++ codePointText b.toNat

/-- Reads hexadecimal text, taken byte by byte in its UTF-8 form, into bytes. -/
def bytesOfHex (s : String) : Except HexError (List UInt8) :=
  bytesOfHexDigits s.toUTF8.toList

end NativeExports.Text
