import NativeExports.Text.Quote
/-!
Reading unsigned decimal numbers with an upper bound.  The digits are read from the left; a
character that is no ASCII digit makes the text malformed, and the value passing the bound
makes it out of range, whichever comes first.  Empty text is malformed.  The reason reads
as the standard number reader words it: the function, the quoted text and the reason.
-/

namespace NativeExports.Text

/-- Why a number could not be read. -/
inductive NumberIssue where
  /-- The text is not a number of the expected form. -/
  | malformed
  /-- The number is larger than allowed. -/
  | outOfRange
  deriving Repr, DecidableEq

/-- The reason for an issue, as it is worded. -/
def NumberIssue.reason : NumberIssue → String
  | .malformed => "invalid syntax"
  | .outOfRange => "value out of range"

/-- Reads digits onto the value read so far, refusing a value above `bound`. -/
def readDigits (bound : Nat) : Nat → List Char → Except NumberIssue Nat
  | acc, [] => .ok acc
  | acc, c :: rest =>
    if '0' ≤ c && c ≤ '9' then
      let next := acc * 10 + (c.toNat - 0x30)
      if next > bound then .error .outOfRange else readDigits bound next rest
    else .error .malformed

/-- Reads an unsigned decimal number no larger than `bound`. -/
def readUnsigned (bound : Nat) (s : String) : Except NumberIssue Nat :=
  match s.toList with
  | [] => .error .malformed
  | cs => readDigits bound 0 cs

/-- The wording of a failed read: the reading function, the quoted text and the reason. -/
def numberIssueLabel (function : String) (s : String) : String :=
  "strconv." ++ function ++ ": parsing " ++ quote s

end NativeExports.Text
