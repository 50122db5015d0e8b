import Stylesheet.Number.Binary64
import Stylesheet.Number.Numeral

/-!
# Number literals

A decimal literal can be read in two ways. `Literal.nearest` is the double nearest to the decimal. `Literal.scaled?` is how numbers in JSON text are read: the significand is the longest run of leading digits that fits in sixty-four bits, it is rounded to a double, and that double is multiplied or divided by a power of ten, with a rounding at each step; a literal that leaves the finite range has no value.
-/

namespace Stylesheet

/-- A decimal literal by its parts; `fraction` and `exponent` tell whether the point and the exponent are there at all. -/
structure Literal where
  negative : Bool
  whole : Text
  fraction : Option Text
  exponent : Option (Bool × Text)
deriving DecidableEq

namespace Literal

def wordLimit : Nat := UInt64.size

def isInteger (n : Literal) : Bool := n.fraction.isNone && n.exponent.isNone

def wholeValue (n : Literal) : Nat := (Numeral.continueDecimal 0 n.whole).getD 0

/-- The value of an unsigned literal without point and exponent that fits in sixty-four bits. -/
def word? (n : Literal) : Option Nat :=
  if n.isInteger && !n.negative && n.wholeValue < wordLimit then some n.wholeValue else none

def signed (n : Literal) (magnitude : Binary64) : Binary64 :=
  if n.negative then magnitude.neg else magnitude

def exponentValue (n : Literal) : Int :=
  match n.exponent with
  | none => 0
  | some (negative, digits) =>
    let value : Int := (Numeral.continueDecimal 0 digits).getD 0
    if negative then -value else value

/-! ### From text -/

def isDigit (c : Char) : Bool := '0' ≤ c && c ≤ '9'

def areDigits (text : Text) : Bool := !text.isEmpty && text.all isDigit

/-- Digits in front of the point; a zero stands alone. -/
def isWhole (text : Text) : Bool := areDigits text && (text.head? ≠ some '0' || text.length = 1)

def fraction? : Text → Option (Option Text)
  | [] => some none
  | _ :: digits => if areDigits digits then some (some digits) else none

def exponentDigits? (negative : Bool) (digits : Text) : Option (Option (Bool × Text)) :=
  if areDigits digits then some (some (negative, digits)) else none

def exponent? : Text → Option (Option (Bool × Text))
  | [] => some none
  | _ :: '-' :: digits => exponentDigits? true digits
  | _ :: '+' :: digits => exponentDigits? false digits
  | _ :: digits => exponentDigits? false digits

def unsigned? (negative : Bool) (text : Text) : Option Literal :=
  let (mantissa, exponent) := text.span fun c => c ≠ 'e' && c ≠ 'E'
  let (whole, fraction) := mantissa.span (· ≠ '.')
  if isWhole whole then
    (fraction? fraction).bind fun fraction =>
      (exponent? exponent).map fun exponent => ⟨negative, whole, fraction, exponent⟩
  else none

/-- Reads a literal: an optional minus sign, digits without a leading zero, and an optional fraction and exponent with at least one digit each. -/
def ofText? : Text → Option Literal
  | '-' :: text => unsigned? true text
  | text => unsigned? false text

/-! ### The nearest double -/

/-- The double nearest to the decimal; a decimal far outside the range is settled by its size alone. -/
def nearest (n : Literal) : Binary64 :=
  let fraction := n.fraction.getD []
  let significand := (Numeral.continueDecimal 0 (n.whole ++ fraction)).getD 0
  let exponent := n.exponentValue - fraction.length
  let size : Int := (Numeral.decimal significand).length + exponent
  n.signed <|
    if significand = 0 ∨ size < -400 then .zero
    else if 400 < size then .infinity
    else .ofRatio (significand * Nat.pow 10 exponent.toNat) (Nat.pow 10 (-exponent).toNat)

/-! ### Sixty-four bits of significand -/

/-- Appends digits to a significand while it stays below the limit; also says how many digits were taken. -/
def takeDigits (significand taken : Nat) : Text → Nat × Nat
  | [] => (significand, taken)
  | c :: rest =>
    let next := 10 * significand + (Numeral.digitValue? c).getD 0
    if next < wordLimit then takeDigits next (taken + 1) rest else (significand, taken)

/-- The largest number read from the digits of an exponent. -/
def exponentLimit : Nat := Nat.pow 2 31 - 1

/-- Divides by the largest power of ten among the doubles until the exponent is in range; a zero ends the division early. -/
def scaleDown (x : Binary64) (exponent : Nat) : Binary64 :=
  if x = .zero then x
  else if exponent ≤ 308 then x.div (.ofNat (Nat.pow 10 exponent))
  else scaleDown (x.div (.ofNat (Nat.pow 10 308))) (exponent - 308)
termination_by exponent

def scaleUp? (x : Binary64) (exponent : Nat) : Option Binary64 :=
  if exponent ≤ 308 then
    let product := x.mul (.ofNat (Nat.pow 10 exponent))
    if product.isFinite then some product else none
  else if x = .zero then some x
  else none

def scaleBy? (significand : Nat) (exponent : Int) : Option Binary64 :=
  let x := Binary64.ofNat significand
  if 0 ≤ exponent then scaleUp? x exponent.toNat else some (scaleDown x (-exponent).toNat)

/-- The magnitude of a literal with a point, an exponent or too many digits. -/
def scaledMagnitude? (n : Literal) : Option Binary64 :=
  let (whole, taken) := takeDigits 0 0 n.whole
  let dropped := n.whole.length - taken
  let (significand, places) := takeDigits whole 0 (n.fraction.getD [])
  let start : Int := (dropped : Int) - places
  if n.exponentValue.natAbs ≤ exponentLimit then scaleBy? significand (start + n.exponentValue)
  else if 0 ≤ n.exponentValue ∧ significand ≠ 0 then none
  else some .zero

/-- The value of a number in JSON text. -/
def scaled? (n : Literal) : Option Binary64 :=
  if n.isInteger && n.wholeValue < wordLimit then some (n.signed (.ofNat n.wholeValue))
  else n.scaledMagnitude?.map n.signed

end Literal

end Stylesheet
