import NativeExports.Fault
import NativeExports.Text.Quote
import NativeExports.Text.Blank
/-!
Runtime versions and the choice of assembler.

A runtime version has a major, a minor and a build number; it is written with a leading
"v", and its line is major and minor alone.  The assembler for a required runtime is chosen
from configured lines: the line of the requirement itself when configured, else the lowest
configured version at or above the requirement, else the assembler binary found on the
search path.
-/

namespace NativeExports

open Text

/-- A runtime version; all zero means unspecified. -/
structure RuntimeVersion where
  major : Nat
  minor : Nat
  build : Nat
  deriving Repr, DecidableEq, Inhabited

namespace RuntimeVersion

/-- The unspecified version. -/
def zero : RuntimeVersion := ⟨0, 0, 0⟩

/-- Whether no part is set. -/
def isZero (v : RuntimeVersion) : Bool := v.major == 0 && v.minor == 0 && v.build == 0

/-- Reads a signed decimal integer part with optional sign; the value must fit in 63 bits. -/
def readInteger (s : String) : Option Int :=
  let (negative, digits) := match s.toList with
    | '-' :: rest => (true, rest)
    | '+' :: rest => (false, rest)
    | cs => (false, cs)
  if digits.isEmpty || !digits.all (fun c => '0' ≤ c && c ≤ '9') then none
  else
    let n : Nat := digits.foldl (fun acc c => acc * 10 + (c.toNat - 0x30)) 0
    if n ≥ Nat.pow 2 63 && !(negative && n == Nat.pow 2 63) then none
    else some (if negative then -(n : Int) else n)

/-- Reads a version: blanks around it and one leading "v" or "V" are dropped, empty text is
unspecified, at most three dot-separated parts are read (more are ignored), and each must be
a non-negative integer. -/
def parse (s : String) : Except Fault RuntimeVersion :=
  let t := trimBlank s
  let t := if t.startsWith "v" then String.ofList (t.toList.drop 1) else t
  let t := if t.startsWith "V" then String.ofList (t.toList.drop 1) else t
  if t = "" then .ok zero
  else
    let parts := (t.splitOn ".").take 3
    let values := parts.map fun p => match readInteger p with
      | some n => if n < 0 then none else some n.toNat
      | none => none
    if values.all Option.isSome then
      let ns := values.map (·.getD 0)
      .ok ⟨ns.getD 0 0, ns.getD 1 0, ns.getD 2 0⟩
    else .error (.reason ("invalid runtime version " ++ quote t))

/-- Compares two versions part by part: -1, 0 or 1. -/
def compare (v w : RuntimeVersion) : Int :=
  let c (a b : Nat) : Int := if a < b then -1 else if a > b then 1 else 0
  if v.major ≠ w.major then c v.major w.major
  else if v.minor ≠ w.minor then c v.minor w.minor
  else c v.build w.build

/-- The larger of two versions; the first one when they are equal. -/
def max (v w : RuntimeVersion) : RuntimeVersion := if compare w v > 0 then w else v

/-- The line of a version: "v" major "." minor. -/
def line (v : RuntimeVersion) : String := "v" ++ toString v.major ++ "." ++ toString v.minor

/-- The version as text: "unspecified" when zero, the line when the build is zero, else all
three parts. -/
def render (v : RuntimeVersion) : String :=
  if v.isZero then "unspecified"
  else if v.build == 0 then v.line
  else v.line ++ "." ++ toString v.build

end RuntimeVersion

/-- How the assembler is found: configured paths by runtime line, the binary name to look for
(the default when empty), and the search of the path. -/
structure AssemblerSearch where
  lines : List (String × String)
  binary : String
  lookPath : String → Except Fault String

/-- The name of the assembler binary when none is configured. -/
def defaultAssembler : String := "ilasm"

/-- Inserts a configured line into a list sorted by version (and key among equal ones). -/
def insertLine (l : RuntimeVersion × String × String) :
    List (RuntimeVersion × String × String) → List (RuntimeVersion × String × String)
  | [] => [l]
  | m :: rest =>
    if RuntimeVersion.compare l.1 m.1 < 0 ||
        (RuntimeVersion.compare l.1 m.1 == 0 && decide (l.2.1 < m.2.1)) then l :: m :: rest
    else m :: insertLine l rest

/-- Reads every configured line; the first key, in key order, that is no version fails. -/
def parseLines : List (String × String) → Except Fault (List (RuntimeVersion × String × String))
  | [] => .ok []
  | (key, path) :: rest =>
    match RuntimeVersion.parse key with
    | .error e => .error (.wrap Code.badConfig e ("toolchain line " ++ quote key))
    | .ok v => (parseLines rest).map fun tail => insertLine (v, key, path) tail

/-- The keys sorted, so that a failing key is found in a fixed order. -/
def sortedLines (lines : List (String × String)) : List (String × String) :=
  lines.mergeSort fun a b => decide (a.1 ≤ b.1)

/-- The assembler for a required runtime. -/
def AssemblerSearch.resolve (s : AssemblerSearch) (req : RuntimeVersion) : Except Fault String :=
  let fromLines : Except Fault (Option String) :=
    if s.lines.isEmpty then .ok none
    else match s.lines.find? (fun l => l.1 == req.line && l.2 != "") with
      | some l => .ok (some l.2)
      | none => do
        let parsed ← parseLines (sortedLines s.lines)
        pure ((parsed.find? fun l => l.2.2 != "" && RuntimeVersion.compare l.1 req ≥ 0).map
          (·.2.2))
  match fromLines with
  | .error e => .error e
  | .ok (some p) => .ok p
  | .ok none =>
    let bin := if s.binary = "" then defaultAssembler else s.binary
    match s.lookPath bin with
    | .ok p => .ok p
    | .error e => .error (.wrap Code.assemblerNotFound e
        ("no assembler for runtime " ++ req.render ++ " (looked for " ++ quote bin ++ " on PATH)"))

end NativeExports
