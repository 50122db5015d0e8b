import Stylesheet.Number.Numeral
import Stylesheet.Number.Shortest

/-!
# Numbers as text

A finite number is written with its shortest digits in positional notation, whatever its size: no exponent, no point without digits behind it, and a minus sign in front of a negative zero as well. `Binary64.styleText?` is what a declaration shows: no sign on zero, and nothing at all for a number that is not finite.
-/

namespace Stylesheet

namespace Decimal

/-- Positional notation. -/
def text (d : Decimal) : Text :=
  if 0 ≤ d.exponent then Numeral.decimal d.digits ++ List.replicate d.exponent.toNat '0'
  else
    let places := (-d.exponent).toNat
    let digits := Numeral.padded (places + 1) (Numeral.decimal d.digits)
    digits.take (digits.length - places) ++ '.' :: digits.drop (digits.length - places)

end Decimal

namespace Binary64

def magnitudeText (x : Binary64) : Text :=
  if !x.isFinite then "inf".toList
  else if x.mantissa = 0 then ['0']
  else (Decimal.shortest x).text

def text (x : Binary64) : Text :=
  if x.isNaN then "NaN".toList
  else if x.isNegative then '-' :: x.magnitudeText
  else x.magnitudeText

def styleText? (x : Binary64) : Option Text :=
  if x.isFinite then some x.plusZero.text else none

end Binary64

end Stylesheet
