import Stylesheet.Number.Binary64

/-!
# The shortest decimal

The decimal that stands for a number is the one with the fewest significant digits among those that round to it, and among these the nearest, the larger one if two are equally near. Four times the mantissa makes the interval of reals that round to the number a pair of natural numbers, and the search walks the decimal grids of one, two, … digits: a grid with a point in the interval has one at the value's own floor or just above it.
-/

namespace Stylesheet

/-- The number `digits * 10 ^ exponent`. -/
structure Decimal where
  digits : Nat
  exponent : Int
deriving DecidableEq

namespace Decimal

/-- The value and the ends of the interval that rounds to it, all as fractions of one denominator; the ends belong to it if `closed`. -/
structure Interval where
  low : Nat
  value : Nat
  high : Nat
  denominator : Nat
  closed : Bool

namespace Interval

/-- The interval of a positive finite number. Below a power of two the numbers lie twice as dense. -/
def ofNumber (x : Binary64) : Interval :=
  let m := x.mantissa
  let e := x.exponent - 2
  let up := Nat.pow 2 e.toNat
  let gap := if m = Nat.pow 2 52 ∧ x.exponent ≠ -1074 then 1 else 2
  { low := (4 * m - gap) * up
    value := 4 * m * up
    high := (4 * m + 2) * up
    denominator := Nat.pow 2 (-e).toNat
    closed := m % 2 = 0 }

/-- How many digits stand before the point; zero or less if the first significant digit comes after it. -/
def magnitude (i : Interval) : Int :=
  let whole := i.value / i.denominator
  if whole ≠ 0 then digitCount whole
  else 1 - digitCount ((i.denominator + i.value - 1) / i.value - 1)
where
  digitCount (n : Nat) : Nat := if n = 0 then 0 else digitCount (n / 10) + 1

/-- Whether `point / (scale * denominator)` lies in the interval. -/
def includes (i : Interval) (scale point : Nat) : Bool :=
  if i.closed then i.low * scale ≤ point && point ≤ i.high * scale
  else i.low * scale < point && point < i.high * scale

/-- The nearest decimal of `count` digits, if it lies in the interval. -/
def onGrid? (i : Interval) (count : Nat) : Option Decimal :=
  let e := i.magnitude - count
  let scale := Nat.pow 10 (-e).toNat
  let unit := i.denominator * Nat.pow 10 e.toNat
  let floor := i.value * scale / unit
  let below := i.includes scale (floor * unit)
  let above := i.includes scale ((floor + 1) * unit)
  let digits? :=
    if below && above then
      if 2 * (i.value * scale) < (2 * floor + 1) * unit then some floor else some (floor + 1)
    else if below then some floor
    else if above then some (floor + 1)
    else none
  digits?.map fun digits => if digits = Nat.pow 10 count then ⟨1, i.magnitude⟩ else ⟨digits, e⟩

end Interval

/-- The shortest decimal of a positive finite number; seventeen digits always suffice. -/
def shortest (x : Binary64) : Decimal :=
  let interval := Interval.ofNumber x
  ((List.range' 1 17).findSome? interval.onGrid?).getD ⟨x.mantissa, 0⟩

end Decimal

end Stylesheet
