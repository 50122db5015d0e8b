import Mathlib.Data.Nat.Digits.Defs
import Stylesheet.Number.Numeral

/-!
# Numerals stand for numbers

A numeral is made of digits only, and read place by place it gives back the number it was written for. So different numbers have different numerals, and no hyphen is ever part of one.
-/

namespace Stylesheet

namespace Numeral

variable {base : Nat}

/-- What a digit stands for. -/
def place (c : Char) : Nat := if c.toNat < 58 then c.toNat - 48 else c.toNat - 87

/-- The number that digits stand for in a base. -/
def value (base : Nat) (digits : Text) : Nat := Nat.ofDigits base (digits.reverse.map place)

theorem place_digit : ∀ n < 36, place (digit n) = n := by decide

theorem digit_ne_hyphen : ∀ n < 36, digit n ≠ '-' := by decide

theorem value_concat (base : Nat) (digits : Text) (c : Char) :
    value base (digits ++ [c]) = place c + base * value base digits := by
  rw [value, List.reverse_append, List.reverse_singleton, List.singleton_append, List.map_cons,
    Nat.ofDigits_cons]
  rfl

theorem inBase_ne_nil (base n : Nat) : inBase base n ≠ [] := by
  rw [inBase]
  split <;> simp

theorem value_inBase (hbase : 2 ≤ base) (hdigits : base ≤ 36) (n : Nat) :
    value base (inBase base n) = n := by
  induction n using Nat.strongRecOn with
  | ind n ih =>
    rw [inBase]
    split
    · rename_i hlast
      have hsmall : n < base := hlast.resolve_left (by omega)
      rw [← List.nil_append [digit n], value_concat, place_digit n (by omega)]
      rfl
    · rename_i hmore
      have hsmaller : n / base < n := Nat.div_lt_self (by omega) (by omega)
      have hplace : n % base < base := Nat.mod_lt n (by omega)
      rw [value_concat, place_digit _ (by omega), ih _ hsmaller, Nat.mod_add_div]

theorem inBase_injective (hbase : 2 ≤ base) (hdigits : base ≤ 36) :
    Function.Injective (inBase base) := by
  intro m n heq
  rw [← value_inBase hbase hdigits m, heq, value_inBase hbase hdigits n]

theorem mem_inBase (hbase : 2 ≤ base) {n : Nat} {c : Char} (hmem : c ∈ inBase base n) :
    ∃ d < base, c = digit d := by
  induction n using Nat.strongRecOn with
  | ind n ih =>
    rw [inBase] at hmem
    split at hmem
    · rename_i hlast
      exact ⟨n, hlast.resolve_left (by omega), List.mem_singleton.mp hmem⟩
    · rename_i hmore
      rcases List.mem_append.mp hmem with hfirst | hrest
      · exact ih _ (Nat.div_lt_self (by omega) (by omega)) hfirst
      · exact ⟨n % base, Nat.mod_lt n (by omega), List.mem_singleton.mp hrest⟩

theorem hyphen_notMem_inBase (hbase : 2 ≤ base) (hdigits : base ≤ 36) (n : Nat) :
    '-' ∉ inBase base n := by
  intro hmem
  obtain ⟨d, hd, heq⟩ := mem_inBase hbase hmem
  exact digit_ne_hyphen d (by omega) heq.symm

end Numeral

end Stylesheet
