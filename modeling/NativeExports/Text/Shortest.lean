/-!
Decimals read as binary64 floats, and the shortest decimal that reads back.

A decimal `digits · 10^exponent` is read as the binary64 float nearest to it, a tie going to
the even significand; the float is `significand · 2^scale` with the significand below `2^53`
and the scale at least `-1074` (the subnormal floats share that scale).  A float is shown by
the fewest significant digits whose decimal lies in the interval of reals that round to it,
and of two such decimals with that many digits by the nearer one.  All of it is exact
arithmetic on natural numbers.
-/

namespace NativeExports.Text

/-- A nonnegative rational `num / den`, compared and scaled exactly. -/
structure Ratio where
  num : Nat
  den : Nat
  deriving Repr, Inhabited

namespace Ratio

/-- `a / b ≤ c / d`, for positive denominators. -/
def le (x y : Ratio) : Bool := x.num * y.den ≤ y.num * x.den

/-- `a / b < c / d`, for positive denominators. -/
def lt (x y : Ratio) : Bool := x.num * y.den < y.num * x.den

/-- The ratio times a power of two. -/
def timesTwoPow (x : Ratio) (e : Int) : Ratio :=
  if e ≥ 0 then ⟨x.num * Nat.pow 2 e.toNat, x.den⟩ else ⟨x.num, x.den * Nat.pow 2 e.natAbs⟩

/-- The ratio times a power of ten. -/
def timesTenPow (x : Ratio) (e : Int) : Ratio :=
  if e ≥ 0 then ⟨x.num * Nat.pow 10 e.toNat, x.den⟩ else ⟨x.num, x.den * Nat.pow 10 e.natAbs⟩

/-- The natural number `n · 2^e`. -/
def ofTwoPow (n : Nat) (e : Int) : Ratio := timesTwoPow ⟨n, 1⟩ e

/-- The natural number `n · 10^e`. -/
def ofTenPow (n : Nat) (e : Int) : Ratio := timesTenPow ⟨n, 1⟩ e

/-- The nearest natural number, a tie going to the even one. -/
def roundEven (x : Ratio) : Nat :=
  let q := x.num / x.den
  let r := x.num % x.den
  if 2 * r > x.den then q + 1
  else if 2 * r < x.den then q
  else if q % 2 = 0 then q else q + 1

/-- The largest natural number not above the ratio. -/
def floor (x : Ratio) : Nat := x.num / x.den

end Ratio

/-- The number of significand bits of a binary64 float, the hidden one included. -/
def significandBits : Nat := 53

/-- The smallest scale of a binary64 float, that of the subnormal ones. -/
def leastScale : Int := -1074

/-- The largest scale of a finite binary64 float. -/
def greatestScale : Int := 971

/-- The scale at which a positive ratio has a significand of 53 bits, before subnormal
floats are taken into account: `2^52 ≤ x / 2^scale < 2^53`. -/
def fullScale (x : Ratio) : Int :=
  let guess : Int := (x.num.log2 : Int) - (x.den.log2 : Int) - 52
  -- The guess is off by at most one either way.
  let fits (s : Int) : Bool :=
    (Ratio.ofTwoPow (Nat.pow 2 52) s).le x && x.lt (Ratio.ofTwoPow (Nat.pow 2 53) s)
  if fits guess then guess
  else if fits (guess - 1) then guess - 1
  else guess + 1

/-- The binary64 float nearest to a positive ratio, as `(significand, scale)`, or none when
it rounds past the largest finite float.  A ratio below half the least subnormal float gives
significand 0. -/
def Ratio.toBinary64 (x : Ratio) : Option (Nat × Int) :=
  let scale := max (fullScale x) leastScale
  let m := (x.timesTwoPow (-scale)).roundEven
  let (m, scale) := if m = Nat.pow 2 significandBits then (Nat.pow 2 (significandBits - 1), scale + 1)
    else (m, scale)
  if scale > greatestScale then none else some (m, scale)

/-- The binary64 float nearest to `digits · 10^exponent`, or none when it overflows. -/
def decimalToBinary64 (digits : Nat) (exponent : Int) : Option (Nat × Int) :=
  if digits = 0 then some (0, leastScale)
  else (Ratio.ofTenPow digits exponent).toBinary64

/-- The decimal exponent of a positive ratio: `10^e ≤ x < 10^(e+1)`. -/
def decimalExponent (x : Ratio) : Int :=
  -- log10 2 is a little above 0.30102.
  let bits : Int := (x.num.log2 : Int) - (x.den.log2 : Int)
  let guess : Int := (bits * 30103).fdiv 100000
  let fits (e : Int) : Bool := (Ratio.ofTenPow 1 e).le x && x.lt (Ratio.ofTenPow 1 (e + 1))
  if fits guess then guess
  else if fits (guess - 1) then guess - 1
  else if fits (guess + 1) then guess + 1
  else if fits (guess - 2) then guess - 2
  else guess + 2

/-- The interval of reals that round to the float `m · 2^scale` (m positive), as its two
ends, and whether the ends round to it too (they do when m is even). -/
def roundingInterval (m : Nat) (scale : Int) : Ratio × Ratio × Bool :=
  -- In units of a quarter of the float's spacing.
  let below := if m = Nat.pow 2 (significandBits - 1) && scale > leastScale then 1 else 2
  (Ratio.ofTwoPow (4 * m - below) (scale - 2), Ratio.ofTwoPow (4 * m + 2) (scale - 2), m % 2 = 0)

/-- The decimals with `count` significant digits on either side of a positive ratio, as
`(digits, exponent)`: the one at or below it and the next one up. -/
def gridNeighbours (x : Ratio) (count : Nat) : (Nat × Int) × (Nat × Int) :=
  let e := decimalExponent x - (count : Int) + 1
  let low := (x.timesTenPow (-e)).floor
  ((low, e), (low + 1, e))

/-- Whether a decimal lies in a rounding interval. -/
def insideInterval (lo hi : Ratio) (closed : Bool) (d : Nat × Int) : Bool :=
  let v := Ratio.ofTenPow d.1 d.2
  if closed then lo.le v && v.le hi else lo.lt v && v.lt hi

/-- The shortest decimal in a rounding interval, trying 1 to `fuel` significant digits. -/
def shortestFrom (x lo hi : Ratio) (closed : Bool) : Nat → Nat → Option (Nat × Int)
  | 0, _ => none
  | fuel + 1, count =>
    let (down, up) := gridNeighbours x count
    match insideInterval lo hi closed down, insideInterval lo hi closed up with
    | true, true =>
      -- Both have this many digits: the nearer one, a tie going to the even one.
      let dDown := (x.num * (Ratio.ofTenPow down.1 down.2).den) -
        (Ratio.ofTenPow down.1 down.2).num * x.den
      let upV := Ratio.ofTenPow up.1 up.2
      let dUp := upV.num * x.den - x.num * upV.den
      -- Both distances are over the same denominator, that of `x` times that of the grid.
      if dDown < dUp then some down
      else if dUp < dDown then some up
      else if down.1 % 2 = 0 then some down else some up
    | true, false => some down
    | false, true => some up
    | false, false => shortestFrom x lo hi closed fuel (count + 1)

/-- The shortest decimal that reads back as the float `m · 2^scale`, as
`(digits, exponent)`; zero for m = 0. -/
def shortestDecimal (m : Nat) (scale : Int) : Nat × Int :=
  if m = 0 then (0, 0)
  else
    let x := Ratio.ofTwoPow m scale
    let (lo, hi, closed) := roundingInterval m scale
    -- Seventeen digits always suffice for binary64.
    (shortestFrom x lo hi closed 17 1).getD (gridNeighbours x 17).1

end NativeExports.Text
