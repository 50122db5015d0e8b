/-!
# Binary floating point

A number of a style is an IEEE 754 double, held by its sixty-four bits so that equality and hashing are those of the bits. Everything that rounds goes through one exact division of natural numbers: `rounded` finds the mantissa and exponent nearest to a ratio, ties to the even mantissa.
-/

namespace Stylesheet

structure Binary64 where
  bits : UInt64
deriving DecidableEq

namespace Binary64

def zero : Binary64 := ⟨0⟩

def negativeZero : Binary64 := ⟨0x8000000000000000⟩

def infinity : Binary64 := ⟨0x7ff0000000000000⟩

def notANumber : Binary64 := ⟨0x7ff8000000000000⟩

def isNegative (x : Binary64) : Bool := Nat.pow 2 63 ≤ x.bits.toNat

def exponentField (x : Binary64) : Nat := x.bits.toNat / Nat.pow 2 52 % Nat.pow 2 11

def fractionField (x : Binary64) : Nat := x.bits.toNat % Nat.pow 2 52

def isFinite (x : Binary64) : Bool := x.exponentField < Nat.pow 2 11 - 1

def isNaN (x : Binary64) : Bool := x.exponentField = Nat.pow 2 11 - 1 && x.fractionField ≠ 0

def neg (x : Binary64) : Binary64 := ⟨x.bits ^^^ 0x8000000000000000⟩

/-- The quiet form of a NaN, with its sign and its payload. -/
def quiet (x : Binary64) : Binary64 := ⟨x.bits ||| 0x0008000000000000⟩

/-- The sum `x + 0`: `-0` becomes `0`, a NaN becomes quiet, and every other number stays. -/
def plusZero (x : Binary64) : Binary64 :=
  if x = negativeZero then zero else if x.isNaN then x.quiet else x

/-- A finite number has the magnitude `mantissa * 2 ^ exponent`. -/
def mantissa (x : Binary64) : Nat :=
  if x.exponentField = 0 then x.fractionField else Nat.pow 2 52 + x.fractionField

def exponent (x : Binary64) : Int := (max x.exponentField 1 : Nat) - 1075

/-! ### Rounding -/

/-- `num / (den * 2 ^ e)` as a fraction of natural numbers. -/
def scaledRatio (num den : Nat) (e : Int) : Nat × Nat :=
  (num * Nat.pow 2 (-e).toNat, den * Nat.pow 2 e.toNat)

/-- The whole number nearest to `num / den`, a tie going to the even one. -/
def nearestEven (num den : Nat) : Nat :=
  let quotient := num / den
  let twice := 2 * (num % den)
  if twice < den ∨ (twice = den ∧ quotient % 2 = 0) then quotient else quotient + 1

/-- The least exponent from `least` on that leaves at most `precision` bits before the point of `num / den`. -/
def roundingExponent (precision : Nat) (least : Int) (num den : Nat) : Int :=
  let guess : Int := num.log2 - den.log2 - precision
  let scaled := scaledRatio num den guess
  max least (if Nat.pow 2 precision * scaled.2 ≤ scaled.1 then guess + 1 else guess)

/-- The mantissa and exponent nearest to the positive ratio `num / den`, with `precision` bits and an exponent of at least `least`. -/
def rounded (precision : Nat) (least : Int) (num den : Nat) : Nat × Int :=
  let e := roundingExponent precision least num den
  let scaled := scaledRatio num den e
  (nearestEven scaled.1 scaled.2, e)

/-- The nonnegative number nearest to `num / den`. -/
def ofRatio (num den : Nat) : Binary64 :=
  if num = 0 then zero
  else
    let (m, e) := rounded 53 (-1074) num den
    let bits := (e + 1074).toNat * Nat.pow 2 52 + m
    if infinity.bits.toNat ≤ bits then infinity else ⟨UInt64.ofNat bits⟩

/-- The number nearest to `num * 2 ^ e`. -/
def ofScaled (num : Nat) (e : Int) : Binary64 :=
  ofRatio (num * Nat.pow 2 e.toNat) (Nat.pow 2 (-e).toNat)

def ofNat (n : Nat) : Binary64 := ofRatio n 1

def ofInt (n : Int) : Binary64 := if n < 0 then (ofNat n.natAbs).neg else ofNat n.natAbs

/-! ### Arithmetic on finite numbers -/

def withSignOf (x y result : Binary64) : Binary64 :=
  if x.isNegative = y.isNegative then result else result.neg

/-- The rounded product of two finite numbers. -/
def mul (x y : Binary64) : Binary64 :=
  withSignOf x y (ofScaled (x.mantissa * y.mantissa) (x.exponent + y.exponent))

/-- The rounded quotient of two finite numbers, the second one not zero. -/
def div (x y : Binary64) : Binary64 :=
  let e := x.exponent - y.exponent
  withSignOf x y (ofRatio (x.mantissa * Nat.pow 2 e.toNat) (y.mantissa * Nat.pow 2 (-e).toNat))

/-- The nearest number of single precision; its magnitude is infinite from `2 ^ 128` on. -/
def toSingle (x : Binary64) : Binary64 :=
  if !x.isFinite || x.mantissa = 0 then x
  else
    let scaled := scaledRatio x.mantissa 1 (-x.exponent)
    let (m, e) := rounded 24 (-149) scaled.1 scaled.2
    let magnitude := ofScaled m e
    let result := if (ofNat (Nat.pow 2 128)).bits ≤ magnitude.bits then infinity else magnitude
    if x.isNegative then result.neg else result

end Binary64

end Stylesheet
