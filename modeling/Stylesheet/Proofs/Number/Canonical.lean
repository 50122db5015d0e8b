import Mathlib.Data.Char
import Mathlib.Data.List.Induction
import Mathlib.Data.List.Shortlex
import Stylesheet.Proofs.Identifier.Numeral

/-!
# One numeral for each number

A numeral has no zero in front of other digits, and that is all it takes to be the only one of its kind: every such run of digits is the numeral of the number it stands for. Numerals compare as their numbers do, the shorter one first and those of one length letter by letter, and in base thirty-six a word of sixty-four bits needs thirteen digits at most.
-/

namespace Stylesheet

namespace Numeral

variable {base m n : Nat} {digits : Text}

/-! ### Digits -/

theorem digit_lt_digit : ∀ n < 36, ∀ m < n, digit m < digit n := by decide +kernel

theorem digit_within : ∀ n < 36,
    ('0' ≤ digit n ∧ digit n ≤ '9') ∨ ('a' ≤ digit n ∧ digit n ≤ 'z') := by decide +kernel

theorem inBase_of_lt (hlt : n < base) : inBase base n = [digit n] := by
  rw [inBase, if_pos (.inr hlt)]

theorem inBase_of_le (hbase : 2 ≤ base) (hle : base ≤ n) :
    inBase base n = inBase base (n / base) ++ [digit (n % base)] := by
  rw [inBase, if_neg (by omega)]

/-! ### No zero in front -/

/-- Digits of a base, at least one of them, and a zero in front only where it stands alone. -/
structure IsNumeral (base : Nat) (digits : Text) : Prop where
  ne_nil : digits ≠ []
  digit_of_mem : ∀ c ∈ digits, ∃ d < base, c = digit d
  eq_of_zero : digits.head? = some '0' → digits = ['0']

theorem isNumeral_iff (base : Nat) (digits : Text) :
    IsNumeral base digits ↔ digits ≠ [] ∧
      (digits.all fun c => decide (∃ d < base, c = digit d)) = true ∧
        (digits.head? = some '0' → digits = ['0']) := by
  rw [List.all_eq_true]
  constructor
  · intro hnumeral
    exact ⟨hnumeral.ne_nil, fun c hc => decide_eq_true (hnumeral.digit_of_mem c hc),
      hnumeral.eq_of_zero⟩
  · rintro ⟨hne, hall, hzero⟩
    exact ⟨hne, fun c hc => of_decide_eq_true (hall c hc), hzero⟩

instance (base : Nat) : DecidablePred (IsNumeral base) :=
  fun digits => decidable_of_iff' _ (isNumeral_iff base digits)

theorem eq_zero_of_head?_inBase (hbase : 2 ≤ base) (hdigits : base ≤ 36)
    (hhead : (inBase base n).head? = some '0') : n = 0 := by
  induction n using Nat.strongRecOn with
  | ind n ih =>
    by_cases hlt : n < base
    · rw [inBase_of_lt hlt, List.head?_cons, Option.some.injEq] at hhead
      have hplace := congrArg place hhead
      rwa [place_digit n (by omega)] at hplace
    · have hfront := inBase_ne_nil base (n / base)
      rw [inBase_of_le hbase (by omega), List.head?_append_of_ne_nil _ hfront] at hhead
      have hsmaller : n / base < n := Nat.div_lt_self (by omega) (by omega)
      have hquotient : n / base = 0 := ih _ hsmaller hhead
      have hpos : 0 < n / base := Nat.div_pos (by omega) (by omega)
      omega

theorem isNumeral_inBase (hbase : 2 ≤ base) (hdigits : base ≤ 36) (n : Nat) :
    IsNumeral base (inBase base n) := by
  refine ⟨inBase_ne_nil base n, fun c hc => mem_inBase hbase hc, ?_⟩
  intro hhead
  rw [eq_zero_of_head?_inBase hbase hdigits hhead, inBase_of_lt (by omega)]
  rfl

theorem IsNumeral.front {front : Text} {c : Char} (hnumeral : IsNumeral base (front ++ [c]))
    (hfront : front ≠ []) : IsNumeral base front ∧ front.head? ≠ some '0' := by
  have hnonzero : front.head? ≠ some '0' := by
    intro hhead
    have halone : front ++ [c] = [] ++ ['0'] :=
      hnumeral.eq_of_zero (List.head?_append_of_ne_nil _ hfront ▸ hhead)
    exact hfront (List.append_inj' halone rfl).1
  refine ⟨⟨hfront, ?_, fun hhead => absurd hhead hnonzero⟩, hnonzero⟩
  exact fun d hd => hnumeral.digit_of_mem d (List.mem_append_left _ hd)

/-- A numeral is the one that is written for the number it stands for. -/
theorem inBase_value (hbase : 2 ≤ base) (hdigits : base ≤ 36) (hnumeral : IsNumeral base digits) :
    inBase base (value base digits) = digits := by
  induction digits using List.reverseRecOn with
  | nil => exact absurd rfl hnumeral.ne_nil
  | append_singleton front c ih =>
    have hlast : c ∈ front ++ [c] := List.mem_append_right _ (List.mem_singleton_self c)
    obtain ⟨d, hd, rfl⟩ := hnumeral.digit_of_mem c hlast
    rw [value_concat, place_digit d (by omega)]
    by_cases hfront : front = []
    · subst hfront
      have hnone : value base [] = 0 := rfl
      rw [hnone, Nat.mul_zero, Nat.add_zero, inBase_of_lt hd, List.nil_append]
    · obtain ⟨hnumeral, hnonzero⟩ := hnumeral.front hfront
      have hwritten := ih hnumeral
      have hpos : value base front ≠ 0 := by
        intro hzero
        rw [hzero, inBase_of_lt (by omega)] at hwritten
        exact hnonzero (hwritten ▸ rfl)
      have hle : base ≤ d + base * value base front :=
        (Nat.le_mul_of_pos_right base (Nat.pos_of_ne_zero hpos)).trans (Nat.le_add_left _ d)
      rw [inBase_of_le hbase hle, Nat.add_mul_div_left _ _ (by omega), Nat.div_eq_of_lt hd,
        Nat.zero_add, Nat.add_mul_mod_self_left, Nat.mod_eq_of_lt hd, hwritten]

theorem eq_inBase_iff (hbase : 2 ≤ base) (hdigits : base ≤ 36) :
    digits = inBase base n ↔ IsNumeral base digits ∧ value base digits = n := by
  constructor
  · rintro rfl
    exact ⟨isNumeral_inBase hbase hdigits n, value_inBase hbase hdigits n⟩
  · rintro ⟨hnumeral, rfl⟩
    exact (inBase_value hbase hdigits hnumeral).symm

/-! ### Length and order -/

theorem length_inBase_le (hbase : 2 ≤ base) {k : Nat} (hlt : n < base ^ (k + 1)) :
    (inBase base n).length ≤ k + 1 := by
  induction k generalizing n with
  | zero =>
    rw [inBase_of_lt (by rwa [Nat.pow_one] at hlt), List.length_singleton]
  | succ k ih =>
    by_cases hsmall : n < base
    · rw [inBase_of_lt hsmall, List.length_singleton]
      omega
    · have hquotient : n / base < base ^ (k + 1) := by
        apply Nat.div_lt_of_lt_mul
        rwa [← Nat.pow_succ']
      rw [inBase_of_le hbase (by omega), List.length_append, List.length_singleton]
      exact Nat.succ_le_succ (ih hquotient)

/-- Whatever follows, the first place at which two texts of one length differ decides. -/
theorem lex_append {first second : Text} (hlex : List.Lex (· < ·) first second)
    (hlength : first.length = second.length) (after others : Text) :
    List.Lex (· < ·) (first ++ after) (second ++ others) := by
  induction hlex with
  | nil => exact absurd hlength (by simp)
  | rel hlt => exact .rel hlt
  | cons _ ih => exact .cons (ih (Nat.succ.inj hlength))

theorem shortlex_concat {first second : Text} (hshort : List.Shortlex (· < ·) first second)
    (c d : Char) : List.Shortlex (· < ·) (first ++ [c]) (second ++ [d]) := by
  rcases List.shortlex_def.mp hshort with hlength | ⟨hlength, hlex⟩
  · apply List.Shortlex.of_length_lt
    simpa using hlength
  · apply List.Shortlex.of_lex
    · simpa using hlength
    · exact lex_append hlex hlength [c] [d]

theorem shortlex_inBase (hbase : 2 ≤ base) (hdigits : base ≤ 36) (hlt : m < n) :
    List.Shortlex (· < ·) (inBase base m) (inBase base n) := by
  induction n using Nat.strongRecOn generalizing m with
  | ind n ih =>
    by_cases hn : n < base
    · rw [inBase_of_lt hn, inBase_of_lt (hlt.trans hn), List.shortlex_singleton_iff]
      exact digit_lt_digit n (by omega) m hlt
    · rw [inBase_of_le hbase (not_lt.mp hn)]
      by_cases hm : m < base
      · have hpos := List.length_pos_of_ne_nil (inBase_ne_nil base (n / base))
        apply List.Shortlex.of_length_lt
        rw [inBase_of_lt hm, List.length_append, List.length_singleton, List.length_singleton]
        omega
      · rw [inBase_of_le hbase (not_lt.mp hm)]
        rcases (Nat.div_le_div_right hlt.le).lt_or_eq with hquotient | hquotient
        · have hsmaller : n / base < n := Nat.div_lt_self (by omega) (by omega)
          exact shortlex_concat (ih _ hsmaller hquotient) _ _
        · -- The numbers differ in their last digit only.
          have hlast : m % base < n % base := by
            have hm' := Nat.div_add_mod m base
            have hn' := Nat.div_add_mod n base
            rw [hquotient] at hm'
            omega
          rw [hquotient]
          apply List.Shortlex.append_left
          rw [List.shortlex_singleton_iff]
          have hwithin : n % base < base := Nat.mod_lt n (by omega)
          exact digit_lt_digit _ (by omega) _ hlast

theorem shortlex_inBase_iff (hbase : 2 ≤ base) (hdigits : base ≤ 36) :
    List.Shortlex (· < ·) (inBase base m) (inBase base n) ↔ m < n := by
  refine ⟨fun hshort => ?_, shortlex_inBase hbase hdigits⟩
  by_contra hle
  rcases (not_lt.mp hle).lt_or_eq with hlt | rfl
  · exact asymm hshort (shortlex_inBase hbase hdigits hlt)
  · exact irrefl _ hshort

/-! ### Words -/

/-- A word has one numeral in base thirty-six, which has one to thirteen of the digits and small letters and starts with a zero for no word but zero. It stands for the word and is the only numeral that does, so different words have different numerals, and by length and then by letters these are in the order of the words. -/
theorem canonical_base36 :
    (∀ word : UInt64,
      base36 word ≠ [] ∧ (base36 word).length ≤ 13 ∧
        (∀ c ∈ base36 word, ('0' ≤ c ∧ c ≤ '9') ∨ ('a' ≤ c ∧ c ≤ 'z')) ∧
        ((base36 word).head? = some '0' ↔ word = 0) ∧
        value 36 (base36 word) = word.toNat ∧
        ∀ digits, IsNumeral 36 digits → value 36 digits = word.toNat → digits = base36 word) ∧
      Function.Injective base36 ∧
      ∀ word other : UInt64,
        List.Shortlex (· < ·) (base36 word) (base36 other) ↔ word < other := by
  have hbase : 2 ≤ 36 := by decide
  have hvalue (word : UInt64) : value 36 (base36 word) = word.toNat :=
    value_inBase hbase le_rfl word.toNat
  refine ⟨fun word => ⟨inBase_ne_nil 36 word.toNat, ?_, ?_, ?_, hvalue word, ?_⟩, ?_, ?_⟩
  · have hlt : word.toNat < 36 ^ (12 + 1) := word.toNat_lt.trans (by decide)
    exact length_inBase_le hbase hlt
  · intro c hc
    obtain ⟨d, hd, rfl⟩ := mem_inBase hbase hc
    exact digit_within d hd
  · constructor
    · intro hhead
      exact UInt64.toNat_inj.mp (eq_zero_of_head?_inBase hbase le_rfl hhead)
    · rintro rfl
      decide +kernel
  · intro digits hnumeral hword
    exact (eq_inBase_iff hbase le_rfl).mpr ⟨hnumeral, hword⟩
  · intro word other heq
    exact UInt64.toNat_inj.mp (inBase_injective hbase le_rfl heq)
  · intro word other
    rw [UInt64.lt_iff_toNat_lt]
    exact shortlex_inBase_iff hbase le_rfl

/-- The greatest word takes all thirteen places. -/
theorem canonical_base36_greatest :
    IsNumeral 36 "3w5e11264sgsf".toList ∧
      value 36 "3w5e11264sgsf".toList = (0xffffffffffffffff : UInt64).toNat ∧
      "3w5e11264sgsf".toList = base36 0xffffffffffffffff := by
  have hnumeral : IsNumeral 36 "3w5e11264sgsf".toList := by decide +kernel
  have hvalue : value 36 "3w5e11264sgsf".toList = (0xffffffffffffffff : UInt64).toNat := by
    decide +kernel
  obtain ⟨-, -, -, -, -, hunique⟩ := canonical_base36.1 0xffffffffffffffff
  exact ⟨hnumeral, hvalue, hunique _ hnumeral hvalue⟩

end Numeral

end Stylesheet
