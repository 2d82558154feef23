/-!
Tables of code points given as closed ranges.  A character property that comes from the
Unicode Character Database is stored as the sorted list of the ranges that have it; membership
is a scan of that list.
-/

namespace NativeExports.Text

/-- A character property as closed ranges `(first, last)` of code points, in increasing order. -/
abbrev RangeTable := List (Nat × Nat)

/-- Whether the code point `c` lies in one of the table's ranges. -/
def RangeTable.contains (table : RangeTable) (c : Nat) : Bool :=
  table.any fun r => r.1 ≤ c && c ≤ r.2

@[simp] theorem RangeTable.contains_nil (c : Nat) : RangeTable.contains [] c = false := rfl

theorem RangeTable.contains_cons (r : Nat × Nat) (rest : RangeTable) (c : Nat) :
    RangeTable.contains (r :: rest) c = ((r.1 ≤ c && c ≤ r.2) || RangeTable.contains rest c) := by
  simp [RangeTable.contains]

end NativeExports.Text
