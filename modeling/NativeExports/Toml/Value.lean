import NativeExports.Text.Hex
import NativeExports.Text.Quote
import NativeExports.Text.Shortest
/-!
TOML values.  A document is a table: keys in the order they were defined, each with a text,
an integer, a float, a boolean, a date-time, an array or a table.  Floats keep the decimal
they were written as, and date-times the fields they were written with, so nothing is lost
before a value is shown.

A key path is shown with its parts joined by dots; a part that is empty or holds anything
other than letters, digits, `_` and `-` is shown in double quotes.  Values are shown the way
error messages show them: texts as they are, arrays as `[a b]`, tables as `map[k:v]` with
their keys sorted, floats by the shortest decimal of the binary64 float nearest to them.
-/

namespace NativeExports.Toml

/-- A float as written: a sign and the decimal `digits · 10^exponent`, or infinity or NaN. -/
inductive Float where
  | finite (negative : Bool) (digits : Nat) (exponent : Int)
  | infinite (negative : Bool)
  | nan
  deriving Repr, DecidableEq, Inhabited

/-- What a date-time value holds: a date, a time, both, and whether it has an offset. -/
inductive DateTimeKind where
  | offsetDateTime
  | localDateTime
  | localDate
  | localTime
  deriving Repr, DecidableEq, Inhabited

/-- A date-time as written.  The offset is in minutes east of UTC; `utc` marks a `Z`. -/
structure DateTime where
  kind : DateTimeKind
  year : Nat
  month : Nat
  day : Nat
  hour : Nat
  minute : Nat
  second : Nat
  /-- The fraction of a second, as its digits. -/
  fraction : List Char
  offset : Int
  utc : Bool
  deriving Repr, DecidableEq, Inhabited

/-- A TOML value. -/
inductive Value where
  | text (s : String)
  | integer (n : Int)
  | float (x : Float)
  | boolean (b : Bool)
  | dateTime (d : DateTime)
  | array (items : List Value)
  | table (entries : List (String × Value))
  /-- The tables of an array of tables, made by `[[...]]` headers. -/
  | tables (items : List (List (String × Value)))
  deriving Repr, Inhabited

/-- A path of keys from the document's root. -/
abbrev KeyPath := List String

/-- Whether a character may stand in a bare key. -/
def isBareKeyChar (c : Char) : Bool :=
  c.isAlphanum || c = '_' || c = '-'

/-- A character of a quoted key part, escaped. -/
def escapeKeyChar (c : Char) : String :=
  if c = '"' then "\\\""
  else if c = '\\' then "\\\\"
  else if c = '\x08' then "\\b"
  else if c = '\t' then "\\t"
  else if c = '\n' then "\\n"
  else if c = '\x0c' then "\\f"
  else if c = '\r' then "\\r"
  else if c.toNat < 0x20 || c.toNat = 0x7f then "\\u00" ++ String.ofList (Text.hexPad 2 c.toNat)
  else String.singleton c

/-- One part of a key path as shown. -/
def showKeyPart (k : String) : String :=
  if k.isEmpty then "\"\""
  else if k.all isBareKeyChar then k
  else "\"" ++ String.join (k.toList.map escapeKeyChar) ++ "\""

/-- A key path as shown: its parts joined by dots. -/
def showKey (path : KeyPath) : String := String.intercalate "." (path.map showKeyPart)

/-! Showing values -/

/-- The decimal digits of a natural number. -/
def digitsOf (n : Nat) : List Char := (Nat.toDigits 10 n)

/-- Strips trailing zeros from digits, counting them. -/
def stripZeros (ds : List Char) : List Char × Nat :=
  let kept := (ds.reverse.dropWhile (· = '0')).reverse
  (kept, ds.length - kept.length)

/-- A shortest decimal as shown in messages: digits `ds` (no leading or trailing zeros) with
the point after `point` of them; positional when the decimal exponent lies in -4 to 5 and
in exponent form `d.ddde±XX` otherwise. -/
def showDecimal (negative : Bool) (ds : List Char) (point : Int) : String :=
  let sign := if negative then "-" else ""
  let exp := point - 1
  if exp < -4 || exp ≥ 6 then
    let mant := match ds with
      | [] => "0"
      | [d] => String.singleton d
      | d :: rest => String.singleton d ++ "." ++ String.ofList rest
    let e := if exp < 0 then "-" else "+"
    let ed := digitsOf exp.natAbs
    sign ++ mant ++ "e" ++ e ++ (if ed.length < 2 then "0" else "") ++ String.ofList ed
  else if point ≤ 0 then
    sign ++ "0." ++ String.ofList (List.replicate point.natAbs '0') ++ String.ofList ds
  else if point.toNat ≥ ds.length then
    sign ++ String.ofList ds ++ String.ofList (List.replicate (point.toNat - ds.length) '0')
  else sign ++ String.ofList (ds.take point.toNat) ++ "." ++ String.ofList (ds.drop point.toNat)

/-- A float as shown in messages. -/
def Float.show : Float → String
  | .nan => "NaN"
  | .infinite neg => if neg then "-Inf" else "+Inf"
  | .finite neg digits exponent =>
    match Text.decimalToBinary64 digits exponent with
    | some (m, scale) =>
      if m = 0 then (if neg then "-0" else "0")
      else
        let (shortest, e) := Text.shortestDecimal m scale
        let (ds, zeros) := stripZeros (digitsOf shortest)
        showDecimal neg ds (e + zeros + ds.length)
    | none => if neg then "-Inf" else "+Inf"

/-- A number in at least `width` digits. -/
def padded (width n : Nat) : String :=
  let ds := digitsOf n
  String.ofList (List.replicate (width - ds.length) '0' ++ ds)

/-- A date-time as shown in messages: date, time, fraction cut to whole nanoseconds (nine
digits) without trailing zeros, offset and zone name. -/
def DateTime.show (d : DateTime) : String :=
  let date := padded 4 d.year ++ "-" ++ padded 2 d.month ++ "-" ++ padded 2 d.day
  let (frac, _) := stripZeros (d.fraction.take 9)
  let time := padded 2 d.hour ++ ":" ++ padded 2 d.minute ++ ":" ++ padded 2 d.second ++
    (if frac.isEmpty then "" else "." ++ String.ofList frac)
  let off := d.offset.natAbs
  let offText := (if d.offset < 0 then "-" else "+") ++ padded 2 (off / 60) ++ padded 2 (off % 60)
  let zone := match d.kind with
    | .offsetDateTime => if d.utc || d.offset = 0 then "UTC" else offText
    | .localDateTime => "datetime-local"
    | .localDate => "date-local"
    | .localTime => "time-local"
  let shownDate := if d.kind = .localTime then "0000-01-01" else date
  let shownTime := if d.kind = .localDate then "00:00:00" else time
  shownDate ++ " " ++ shownTime ++ " " ++ offText ++ " " ++ zone

/-- Inserts a key and its text into a list sorted by key. -/
def insertSorted (k : String) (v : String) : List (String × String) → List (String × String)
  | [] => [(k, v)]
  | (k', v') :: rest => if k < k' then (k, v) :: (k', v') :: rest else (k', v') :: insertSorted k v rest

mutual

/-- A value as shown in messages. -/
def Value.show : Value → String
  | .text s => s
  | .integer n => toString n
  | .float x => x.show
  | .boolean b => if b then "true" else "false"
  | .dateTime d => d.show
  | .array items => "[" ++ String.intercalate " " (showItems items) ++ "]"
  | .table entries => showTable entries
  | .tables items => "[" ++ String.intercalate " " (showTables items) ++ "]"

/-- A table as shown: its entries sorted by key. -/
def showTable (entries : List (String × Value)) : String :=
  "map[" ++ String.intercalate " " ((showEntries entries).map fun (k, v) => k ++ ":" ++ v) ++ "]"

/-- The items of an array as shown. -/
def showItems : List Value → List String
  | [] => []
  | v :: rest => v.show :: showItems rest

/-- The tables of an array of tables as shown. -/
def showTables : List (List (String × Value)) → List String
  | [] => []
  | es :: rest => showTable es :: showTables rest

/-- The entries of a table as shown, sorted by key. -/
def showEntries : List (String × Value) → List (String × String)
  | [] => []
  | (k, v) :: rest => insertSorted k v.show (showEntries rest)

end

/-- The name messages give the type of a value. -/
def Value.typeName : Value → String
  | .text _ => "string"
  | .integer _ => "int64"
  | .float _ => "float64"
  | .boolean _ => "bool"
  | .dateTime _ => "time.Time"
  | .array _ => "[]interface \x7b\x7d"
  | .table _ => "map[string]interface \x7b\x7d"
  | .tables _ => "[]map[string]interface \x7b\x7d"

/-- The value under a key of a table: the first entry with that key. -/
def lookup (entries : List (String × Value)) (k : String) : Option Value :=
  (entries.find? (·.1 == k)).map (·.2)

end NativeExports.Toml
