import NativeExports.Text.Decimal
/-!
Reading signed 64-bit integers whose base is given by a prefix, and truth values.

An integer is an optional sign, then digits: `0b` or `0B` starts binary digits, `0o` or `0O`
octal, `0x` or `0X` hexadecimal, and any other leading `0` octal; otherwise the digits are
decimal.  Underscores may stand between digits (and after a base prefix), never at either end
or twice in a row.  A character that is no digit of the base makes the text malformed; a
value that leaves 64 bits makes it out of range, whichever is met first while reading from
the left; underscores are judged after the digits.

A truth value is one of `1 t T TRUE true True` or `0 f F FALSE false False`.
-/

namespace NativeExports.Text

/-- The value of a digit in bases up to 36: `0`-`9`, then letters of either case. -/
def digitValue (c : Char) : Nat :=
  if '0' ≤ c && c ≤ '9' then c.toNat - '0'.toNat
  else if 'a' ≤ c && c ≤ 'z' then c.toNat - 'a'.toNat + 10
  else if 'A' ≤ c && c ≤ 'Z' then c.toNat - 'A'.toNat + 10
  else 36

/-- The largest magnitude a 64-bit reading may reach. -/
def wordMax : Nat := Nat.pow 2 64 - 1

/-- Reads digits of a base onto the value so far; underscores are skipped and reported. -/
def readBaseDigits (base : Nat) : Nat → Bool → List Char → Except NumberIssue (Nat × Bool)
  | n, seen, [] => .ok (n, seen)
  | n, _, '_' :: rest => readBaseDigits base n true rest
  | n, seen, c :: rest =>
    let d := digitValue c
    if d ≥ base then .error .malformed
    else if n ≥ wordMax / base + 1 then .error .outOfRange
    else if n * base + d > wordMax then .error .outOfRange
    else readBaseDigits base (n * base + d) seen rest

/-- Whether the underscores of a number stand only between digits (a base prefix counts as a
digit).  `last` is what came before: `some true` a digit, `some false` an underscore, `none`
the start or any other character. -/
def underscoresBetween (hex : Bool) : Option Bool → List Char → Bool
  | last, [] => last != some false
  | last, c :: rest =>
    if ('0' ≤ c && c ≤ '9') || (hex && (('a' ≤ c && c ≤ 'f') || ('A' ≤ c && c ≤ 'F'))) then
      underscoresBetween hex (some true) rest
    else if c == '_' then
      if last == some true then underscoresBetween hex (some false) rest else false
    else if last == some false then false
    else underscoresBetween hex none rest

/-- Whether the underscores of an unsigned number with an optional base prefix are placed
between digits. -/
def underscoresFit (cs : List Char) : Bool :=
  match cs with
  | '0' :: b :: rest =>
    let lb := b.toLower
    if lb == 'b' || lb == 'o' || lb == 'x' then underscoresBetween (lb == 'x') (some true) rest
    else underscoresBetween false none cs
  | _ => underscoresBetween false none cs

/-- Reads an unsigned number whose base is given by its prefix, up to 64 bits. -/
def readPrefixedMagnitude (cs : List Char) : Except NumberIssue Nat := do
  if cs.isEmpty then throw .malformed
  let (base, digits) := match cs with
    | '0' :: b :: d :: rest =>
      let lb := b.toLower
      if lb == 'b' then (2, d :: rest)
      else if lb == 'o' then (8, d :: rest)
      else if lb == 'x' then (16, d :: rest)
      else (8, b :: d :: rest)
    | '0' :: rest => (8, rest)
    | _ => (10, cs)
  let (n, underscores) ← readBaseDigits base 0 false digits
  if underscores && !underscoresFit cs then throw .malformed
  pure n

/-- Reads a signed 64-bit integer whose base is given by its prefix. -/
def readPrefixedInteger (s : String) : Except NumberIssue Int := do
  let cs := s.toList
  if cs.isEmpty then throw .malformed
  let (negative, rest) := match cs with
    | '+' :: r => (false, r)
    | '-' :: r => (true, r)
    | _ => (false, cs)
  let n ← match readPrefixedMagnitude rest with
    | .ok n => pure n
    | .error .outOfRange => pure wordMax
    | .error e => throw e
  if !negative && n ≥ Nat.pow 2 63 then throw .outOfRange
  if negative && n > Nat.pow 2 63 then throw .outOfRange
  pure (if negative then -(n : Int) else n)

/-- Reads a truth value. -/
def readTruth (s : String) : Option Bool :=
  if ["1", "t", "T", "TRUE", "true", "True"].contains s then some true
  else if ["0", "f", "F", "FALSE", "false", "False"].contains s then some false
  else none

end NativeExports.Text
