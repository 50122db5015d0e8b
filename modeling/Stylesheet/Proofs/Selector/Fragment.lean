import Stylesheet.Identifier
import Stylesheet.Proofs.Selector.Split

/-!
# Identifiers in selectors

The characters of an identifier are neither blanks nor anything that a scan for commas takes notice of, so an identifier can stand in a selector unescaped: wherever it is put, the scan goes on after it as if it were not there.
-/

namespace Stylesheet

namespace Text

variable {c d : Char} {text rest : Text}

/-- What can stand in an identifier, and something of it. -/
structure IsFragment (text : Text) : Prop where
  ne_nil : text ≠ []
  chars : ∀ c ∈ text, isIdentChar c = true

theorem IsFragment.append (hfragment : text.IsFragment)
    (hrest : ∀ c ∈ rest, isIdentChar c = true) : IsFragment (text ++ rest) := by
  refine ⟨List.append_ne_nil_of_left_ne_nil hfragment.ne_nil rest, ?_⟩
  intro c hc
  rcases List.mem_append.mp hc with htext | hlater
  · exact hfragment.chars c htext
  · exact hrest c hlater

theorem isIdentChar_of_isAlphanum (halnum : (c.isUpper || c.isLower || c.isDigit) = true) :
    isIdentChar c = true := by
  have hletter : c.isAlphanum = true := halnum
  rw [isIdentChar, hletter]
  rfl

theorem ne_of_isIdentChar (hc : isIdentChar c = true) (hd : isIdentChar d = false) : c ≠ d := by
  rintro rfl
  exact Bool.false_ne_true (hd.symm.trans hc)

theorem toNat_of_isUpper (hupper : c.isUpper = true) : 65 ≤ c.toNat ∧ c.toNat ≤ 90 := by
  have hrange := of_decide_eq_true hupper
  exact ⟨UInt32.le_iff_toNat_le.mp hrange.1, UInt32.le_iff_toNat_le.mp hrange.2⟩

theorem toNat_of_isLower (hlower : c.isLower = true) : 97 ≤ c.toNat ∧ c.toNat ≤ 122 := by
  obtain ⟨hleast, hgreatest⟩ := Bool.and_eq_true_iff.mp hlower
  exact ⟨UInt32.le_iff_toNat_le.mp (of_decide_eq_true hleast),
    UInt32.le_iff_toNat_le.mp (of_decide_eq_true hgreatest)⟩

/-- A range of characters can be gone through one by one. -/
theorem of_toNat_within {p : Char → Prop} {least greatest : Nat}
    (hwithin : least ≤ c.toNat ∧ c.toNat ≤ greatest)
    (hall : ∀ n ≤ greatest, least ≤ n → p (Char.ofNat n)) : p c := by
  rw [← Char.ofNat_toNat c]
  exact hall c.toNat hwithin.2 hwithin.1

/-- The first and the last of the characters that can stand in an identifier. -/
theorem toNat_of_isIdentChar (hc : isIdentChar c = true) : 45 ≤ c.toNat ∧ c.toNat ≤ 122 := by
  rw [isIdentChar, Bool.or_eq_true, Bool.or_eq_true, decide_eq_true_eq, decide_eq_true_eq] at hc
  rcases hc with (halnum | rfl) | rfl
  · have hclasses : (c.isUpper || c.isLower || c.isDigit) = true := halnum
    rw [Bool.or_eq_true, Bool.or_eq_true] at hclasses
    rcases hclasses with (hupper | hlower) | hdigit
    · have hbounds := toNat_of_isUpper hupper
      omega
    · have hbounds := toNat_of_isLower hlower
      omega
    · have hbounds : 48 ≤ c.toNat ∧ c.toNat ≤ 57 := Char.isDigit_iff_toNat.mp hdigit
      omega
  · decide
  · decide

theorem isBlank_of_isIdentChar (hc : isIdentChar c = true) : isBlank c = false := by
  obtain ⟨hleast, hgreatest⟩ := toNat_of_isIdentChar hc
  have hgaps : ∀ range ∈ blankRanges, range.2 < 45 ∨ 122 < range.1 := by decide
  rw [isBlank, inRanges, List.any_eq_false]
  intro range hrange hwithin
  rw [Bool.and_eq_true, decide_eq_true_eq, decide_eq_true_eq] at hwithin
  have hgap := hgaps range hrange
  omega

end Text

namespace Selector

open Text (IsFragment isIdentChar ne_of_isIdentChar)

namespace Scan

variable {state : Scan} {c : Char} {text : Text}

theorem step_of_isIdentChar (hproper : state.Proper) (hc : isIdentChar c = true) :
    state.step c = state :=
  step_of_quiet hproper
    ⟨ne_of_isIdentChar hc (by decide), ne_of_isIdentChar hc (by decide)⟩
    ⟨ne_of_isIdentChar hc (by decide), ne_of_isIdentChar hc (by decide)⟩
    ⟨ne_of_isIdentChar hc (by decide), ne_of_isIdentChar hc (by decide)⟩

theorem run_of_isIdentChar (hproper : state.Proper) (htext : ∀ c ∈ text, isIdentChar c = true) :
    state.run text = state := by
  induction text with
  | nil => rfl
  | cons c rest ih =>
    obtain ⟨hc, hrest⟩ := List.forall_mem_cons.mp htext
    show (state.step c).run rest = state
    rw [step_of_isIdentChar hproper hc, ih hrest]

theorem keepsOn_of_isIdentChar (htext : ∀ c ∈ text, isIdentChar c = true) :
    all keepsOn state text = true := by
  apply all_of_forall_mem
  intro state c hc
  have hcomma : c ≠ ',' := ne_of_isIdentChar (htext c hc) (by decide)
  simp [keepsOn, isCut, hcomma]

end Scan

/-- A class is a single selector. -/
theorem split_classSelector {identifier : Identifier} (hfragment : IsFragment identifier) :
    split identifier.classSelector = [identifier.classSelector] := by
  have hkeeps : Scan.all Scan.keepsOn .start identifier.classSelector = true := by
    rw [Identifier.classSelector, Scan.all, Scan.keepsOn_of_isIdentChar hfragment.chars]
    rfl
  have htight : Text.Tight identifier.classSelector := by
    refine ⟨⟨'.', identifier, rfl, by decide⟩, ?_⟩
    have hlast := List.getLast_mem hfragment.ne_nil
    have hends : Text.EndsVisible identifier :=
      ⟨identifier.dropLast, identifier.getLast hfragment.ne_nil,
        (List.dropLast_append_getLast hfragment.ne_nil).symm,
        Text.isBlank_of_isIdentChar (hfragment.chars _ hlast)⟩
    exact hends.cons '.'
  rw [split, cut_of_keepsOn hkeeps, List.map_singleton, Text.trim_of_tight htight,
    List.filter_singleton]
  rfl

end Selector

end Stylesheet
