set_option autoImplicit false

/-!
# Decimal text of binary64 numbers

A decimal number is rounded to the nearest number of 53 bits and written with the fewest digits that
still round to that number, in positional notation. All arithmetic is exact.

## Main definitions

* `Workbench.Binary64` — a positive number as `significand * 2 ^ exponent`.
* `Workbench.Binary64.nearest?` — the number nearest to a decimal one, if it is in range.
* `Workbench.Binary64.shortest` — the fewest digits that round to a number.
* `Workbench.Binary64.positional` — digits with a point and no exponent.

## Design

A number with the significand `m` stands for all reals between the midpoints to its two neighbours.
The midpoints belong to it exactly if `m` is even. Of the grids of 1, 2, … 17 digits the first one
with a point between the midpoints is taken, and there the point nearest to the number; of two that
are equally near, the upper one.
-/

namespace Workbench

/-- A positive number. The significand is below `2 ^ 53`, and at least `2 ^ 52` unless the exponent is
the least one. -/
structure Binary64 where
  significand : Nat
  exponent : Int
  deriving DecidableEq, Repr

namespace Binary64

/-- The least exponent. -/
def leastExponent : Int := -1074

/-- The greatest exponent. -/
def greatestExponent : Int := 971

/-- A quotient rounded to the nearest integer, a tie to the even one. -/
def roundDiv (numerator denominator : Nat) : Nat :=
  let q := numerator / denominator
  let r := numerator % denominator
  if 2 * r < denominator then q
  else if denominator < 2 * r then q + 1
  else if q % 2 = 0 then q else q + 1

/-- A fraction times a power of a base, as a fraction. -/
def scale (base : Nat) (power : Int) (numerator denominator : Nat) : Nat × Nat :=
  if 0 ≤ power then (numerator * Nat.pow base power.toNat, denominator)
  else (numerator, denominator * Nat.pow base (-power).toNat)

/-! ### Rounding -/

/-- The number nearest to a positive fraction, if there is one in range; the second part is zero for a
fraction that rounds to zero. -/
def ofFraction? (numerator denominator : Nat) : Option Binary64 :=
  let guess : Int := (numerator.log2 : Int) - (denominator.log2 : Int) - 53
  let start := max guess leastExponent
  let (n, d) := scale 2 (-start) numerator denominator
  let exponent := if Nat.pow 2 53 ≤ n / d then start + 1 else start
  let (n, d) := scale 2 (-exponent) numerator denominator
  let m := roundDiv n d
  let result : Binary64 :=
    if m = Nat.pow 2 53 then { significand := Nat.pow 2 52, exponent := exponent + 1 }
    else { significand := m, exponent }
  if greatestExponent < result.exponent then none else some result

/-- The number nearest to `digits * 10 ^ power`, if it is in range. -/
def nearest? (digits : Nat) (power : Int) : Option Binary64 :=
  let magnitude : Int := power + (Nat.toDigits 10 digits).length
  if digits = 0 ∨ magnitude < -400 then some { significand := 0, exponent := leastExponent }
  else if 400 < magnitude then none
  else
    let (n, d) := scale 10 power digits 1
    ofFraction? n d

/-! ### Shortest digits -/

/-- Decimal digits as a number with a power of ten. -/
structure Decimal where
  digits : Nat
  power : Int
  deriving DecidableEq, Repr

/-- The reals that round to a number, times four and in units of its exponent: the two midpoints, and
whether they belong to it. -/
def interval (x : Binary64) : Nat × Nat × Bool :=
  let m := x.significand
  let below := if m = Nat.pow 2 52 ∧ leastExponent < x.exponent then 4 * m - 1 else 4 * m - 2
  (below, 4 * m + 2, m % 2 = 0)

/-- The power of ten of the leading digit of a positive number. -/
def leadingPower (x : Binary64) : Int :=
  let bits : Int := (x.significand.log2 : Int) + x.exponent
  let guess : Int := Int.fdiv (bits * 30103) 100000
  let reaches (p : Int) : Bool :=
    let (n, d) := scale 2 x.exponent x.significand 1
    let (n, d) := scale 10 (-p) n d
    d ≤ n
  if reaches (guess + 1) then guess + 1 else if reaches guess then guess else guess - 1

/-- Whether a point of a decimal grid rounds to a number. -/
def rounds (x : Binary64) (point : Nat) (power : Int) : Bool :=
  let (below, above, closed) := x.interval
  let (n, d) := scale 10 power (4 * point) 1
  let (n, d) := scale 2 (-x.exponent) n d
  if closed then below * d ≤ n && n ≤ above * d else below * d < n && n < above * d

/-- The point of a grid that rounds to a number, the nearer one if there are two and the upper one if
both are equally near. -/
def onGrid? (x : Binary64) (power : Int) : Option Decimal :=
  let (n, d) := scale 2 x.exponent x.significand 1
  let (n, d) := scale 10 (-power) n d
  let lower := n / d
  let nearLower := 2 * (n % d) < d
  match x.rounds lower power, x.rounds (lower + 1) power with
  | true, true => some { digits := if nearLower then lower else lower + 1, power }
  | true, false => some { digits := lower, power }
  | false, true => some { digits := lower + 1, power }
  | false, false => none

/-- The fewest digits that round to a positive number. -/
def shortest (x : Binary64) : Decimal :=
  let lead := x.leadingPower
  ((List.range 17).findSome? fun k : Nat => x.onGrid? (lead - (k : Int))).getD { digits := 0, power := 0 }

/-! ### Text -/

/-- Digits in positional notation, always with a digit on both sides of the point. -/
def positional (x : Decimal) : String :=
  let ds := Nat.toDigits 10 x.digits
  if 0 ≤ x.power then String.ofList (ds ++ List.replicate x.power.toNat '0') ++ ".0"
  else
    let places := (-x.power).toNat
    let padded := List.replicate (places + 1 - ds.length) '0' ++ ds
    let whole := padded.take (padded.length - places)
    let fraction := (padded.drop (padded.length - places)).reverse.dropWhile (· == '0')
    String.ofList whole ++ "." ++ (if fraction = [] then "0" else String.ofList fraction.reverse)

/-- The text of a number. -/
def text (x : Binary64) : String :=
  if x.significand = 0 then "0.0" else positional x.shortest

end Binary64

end Workbench
