import NativeExports.Text.Graphic
import NativeExports.Text.Hex
import NativeExports.Text.Bytes
/-!
Double-quoted text, as messages show a name or a piece of input.  A quote or backslash is
escaped with a backslash, a stray byte of a text read from bytes is written as a two-digit
byte escape, a graphic character stands as itself, the seven C control characters take
their letter escapes, and any other character is written as a hexadecimal escape: two
digits below U+0020 and for U+007F, four below U+10000, eight above.
-/

namespace NativeExports.Text

/-- The escaped form of one character inside double quotes. -/
def quoteChar (c : Char) : List Char :=
  if let some b := stray? c then '\\' :: 'x' :: hexPad 2 b.toNat
  else if c = '"' then ['\\', '"']
  else if c = '\\' then ['\\', '\\']
  else if isGraphic c then [c]
  else if c = '\x07' then ['\\', 'a']
  else if c = '\x08' then ['\\', 'b']
  else if c = '\x0c' then ['\\', 'f']
  else if c = '\n' then ['\\', 'n']
  else if c = '\r' then ['\\', 'r']
  else if c = '\t' then ['\\', 't']
  else if c = '\x0b' then ['\\', 'v']
  else if c.toNat < 0x20 || c.toNat = 0x7F then '\\' :: 'x' :: hexPad 2 c.toNat
  else if c.toNat < 0x10000 then '\\' :: 'u' :: hexPad 4 c.toNat
  else '\\' :: 'U' :: hexPad 8 c.toNat

/-- Text in double quotes with every character escaped as `quoteChar` says. -/
def quote (s : String) : String :=
  String.ofList ('"' :: s.toList.flatMap quoteChar ++ ['"'])

/-- A character in single quotes, escaped as inside double quotes except that a single quote
is escaped and a double quote is not. -/
def quoteRune (c : Char) : String :=
  let body := if c = '\x27' then ['\\', '\x27'] else if c = '"' then ['"'] else quoteChar c
  String.ofList ('\x27' :: body ++ ['\x27'])

end NativeExports.Text
