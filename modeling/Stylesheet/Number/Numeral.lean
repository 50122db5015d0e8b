import Stylesheet.Text.Basic

/-!
# Numerals

Natural numbers in a base of at most thirty-six, with the digits `0` to `9` and then `a` to `z`, the most significant digit first and no zero in front.
-/

namespace Stylesheet

namespace Numeral

def digit (value : Nat) : Char :=
  if value < 10 then Char.ofNat (48 + value) else Char.ofNat (87 + value)

/-- The digits of `n` in a base that is at least two. -/
def inBase (base n : Nat) : Text :=
  if base ≤ 1 ∨ n < base then [digit n]
  else inBase base (n / base) ++ [digit (n % base)]
termination_by n
decreasing_by exact Nat.div_lt_self (by omega) (by omega)

def decimal (n : Nat) : Text := inBase 10 n

def base36 (word : UInt64) : Text := inBase 36 word.toNat

/-- Fills up with zeros in front to at least `width` digits. -/
def padded (width : Nat) (digits : Text) : Text :=
  List.replicate (width - digits.length) '0' ++ digits

/-- All sixteen hexadecimal digits of a word. -/
def hex16 (word : UInt64) : Text := padded 16 (inBase 16 word.toNat)

def integer (n : Int) : Text := if n < 0 then '-' :: decimal n.natAbs else decimal n.natAbs

/-! ### Reading -/

def digitValue? (c : Char) : Option Nat :=
  if '0' ≤ c ∧ c ≤ '9' then some (c.toNat - 48) else none

/-- The value of the decimal digits `digits`, continuing a number whose value so far is `value`. -/
def continueDecimal (value : Nat) : Text → Option Nat
  | [] => some value
  | c :: rest => (digitValue? c).bind fun d => continueDecimal (10 * value + d) rest

/-- Reads a nonempty run of decimal digits. -/
def ofDecimal? (digits : Text) : Option Nat :=
  if digits.isEmpty then none else continueDecimal 0 digits

def ofDecimalInt? : Text → Option Int
  | '-' :: digits => (ofDecimal? digits).map fun n => -(n : Int)
  | digits => (ofDecimal? digits).map fun n => (n : Int)

def hexValue? (c : Char) : Option Nat :=
  if '0' ≤ c ∧ c ≤ '9' then some (c.toNat - 48)
  else if 'a' ≤ c ∧ c ≤ 'f' then some (c.toNat - 87)
  else if 'A' ≤ c ∧ c ≤ 'F' then some (c.toNat - 55)
  else none

def continueHex (value : Nat) : Text → Option Nat
  | [] => some value
  | c :: rest => (hexValue? c).bind fun d => continueHex (16 * value + d) rest

def ofHex? (digits : Text) : Option Nat :=
  if digits.isEmpty then none else continueHex 0 digits

end Numeral

end Stylesheet
