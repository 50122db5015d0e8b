import Stylesheet.Proofs.Identifier.Numeral
import Stylesheet.Proofs.Selector.Fragment
import Stylesheet.Style.Declaration

/-!
# Declarations without blanks around them

What a declaration shows is never empty and never starts or ends with a blank. A number is one word with its unit, a text is trimmed, and spelling the trimmed name of a property in kebab case brings in hyphens and small letters only.
-/

namespace Stylesheet

/-! ### Numbers -/

namespace Numeral

theorem isBlank_digit : ∀ n < 36, Text.isBlank (digit n) = false := by decide

theorem isWord_decimal (n : Nat) : Text.IsWord (decimal n) := by
  refine ⟨inBase_ne_nil 10 n, ?_⟩
  intro c hc
  obtain ⟨d, hd, rfl⟩ := mem_inBase (by decide) hc
  exact isBlank_digit d (by omega)

end Numeral

theorem Decimal.isWord_text (d : Decimal) : Text.IsWord d.text := by
  have hdigits := Numeral.isWord_decimal d.digits
  have hzeros (count : Nat) : ∀ c ∈ List.replicate count '0', Text.isBlank c = false :=
    fun c hc => List.eq_of_mem_replicate hc ▸ rfl
  rw [text]
  split
  · exact hdigits.append (hzeros _)
  · -- Wherever the point goes, there is nothing but digits on both sides of it.
    have hpadded : ∀ c ∈ Numeral.padded ((-d.exponent).toNat + 1) (Numeral.decimal d.digits),
        Text.isBlank c = false :=
      List.forall_mem_append.mpr ⟨hzeros _, hdigits.visible⟩
    refine ⟨List.append_ne_nil_of_right_ne_nil _ (List.cons_ne_nil _ _), ?_⟩
    refine List.forall_mem_append.mpr ⟨fun c hc => hpadded c (List.mem_of_mem_take hc), ?_⟩
    exact List.forall_mem_cons.mpr ⟨rfl, fun c hc => hpadded c (List.mem_of_mem_drop hc)⟩

namespace Binary64

theorem isWord_magnitudeText (x : Binary64) : Text.IsWord x.magnitudeText := by
  rw [magnitudeText]
  split
  · decide
  · split
    · decide
    · exact Decimal.isWord_text _

theorem isWord_text (x : Binary64) : Text.IsWord x.text := by
  rw [text]
  split
  · decide
  · split
    · exact ⟨List.cons_ne_nil _ _,
        List.forall_mem_cons.mpr ⟨by decide, x.isWord_magnitudeText.visible⟩⟩
    · exact x.isWord_magnitudeText

theorem isWord_of_styleText? {x : Binary64} {digits : Text} (hdigits : x.styleText? = some digits) :
    digits.IsWord := by
  rw [styleText?] at hdigits
  split at hdigits
  · exact Option.some.inj hdigits ▸ isWord_text _
  · exact absurd hdigits.symm (Option.some_ne_none digits)

end Binary64

/-! ### Values -/

theorem UnitClass.isBlank_of_mem_suffix (unit : UnitClass) :
    ∀ c ∈ unit.suffix, Text.isBlank c = false := by
  have hnone : unit.suffix.any Text.isBlank = false := by cases unit <;> rfl
  exact fun c hc => eq_false_of_ne_true (List.any_eq_false.mp hnone c hc)

namespace Value

mutual

theorem tight_of_mem_texts (property : Text) : ∀ value : Value, ∀ shown ∈ value.texts property,
    shown.Tight
  | .number value, shown, hshown => by
    rw [texts, textOfNumber] at hshown
    split at hshown
    · exact absurd hshown List.not_mem_nil
    · rename_i digits hdigits
      rw [List.mem_singleton.mp hshown]
      exact ((Binary64.isWord_of_styleText? hdigits).append
        (UnitClass.isBlank_of_mem_suffix _)).tight
  | .text value, shown, hshown => by
    rw [texts, textOfText] at hshown
    split at hshown
    · exact absurd hshown List.not_mem_nil
    · rename_i hne
      rw [List.mem_singleton.mp hshown]
      exact Text.tight_trim (hne ∘ List.isEmpty_iff.mpr)
  | .list items, shown, hshown => tight_of_mem_textsOfItems property items shown hshown
  | .absent, _, hshown => absurd hshown List.not_mem_nil
  | .flag _, _, hshown => absurd hshown List.not_mem_nil
  | .nested _, _, hshown => absurd hshown List.not_mem_nil

theorem tight_of_mem_textsOfItems (property : Text) : ∀ items : List Value,
    ∀ shown ∈ textsOfItems property items, shown.Tight
  | [], _, hshown => absurd hshown List.not_mem_nil
  | item :: rest, shown, hshown => by
    rcases List.mem_append.mp hshown with hitem | hrest
    · exact tight_of_mem_texts property item shown hitem
    · exact tight_of_mem_textsOfItems property rest shown hrest

end

end Value

/-! ### Properties -/

namespace Property

theorem isIdentChar_toLower {c : Char} (hupper : c.isUpper = true) :
    Text.isIdentChar c.toLower = true := by
  apply Text.of_toNat_within (Text.toNat_of_isUpper hupper)
  decide

theorem isWord_kebabChar {c : Char} (hvisible : Text.isBlank c = false) :
    (kebabChar c).IsWord := by
  rw [kebabChar]
  split
  · rename_i hupper
    have hlower := Text.isBlank_of_isIdentChar (isIdentChar_toLower hupper)
    exact ⟨List.cons_ne_nil _ _,
      List.forall_mem_cons.mpr ⟨rfl, List.forall_mem_singleton.mpr hlower⟩⟩
  · exact ⟨List.cons_ne_nil _ _, List.forall_mem_singleton.mpr hvisible⟩

theorem tight_hyphenate {name : Text} (hname : name.Tight) : (hyphenate name).Tight := by
  have hkebab : Text.Tight (name.flatMap kebabChar) :=
    hname.flatMap fun _ hvisible => (isWord_kebabChar hvisible).tight
  rw [hyphenate, guardVendor]
  split
  · exact hname
  · split
    · have hhyphen : Text.IsWord ['-'] := by decide
      exact hhyphen.tight.append hkebab
    · exact hkebab

end Property

namespace Declaration

/-- A declaration of which both sides can be seen, without blanks around them. -/
structure IsShown (declaration : Declaration) : Prop where
  property : declaration.property.Tight
  value : declaration.value.Tight

theorem isShown_of_mem_normalize {property : Text} {value : Value} {declaration : Declaration}
    (hmem : declaration ∈ normalize property value) : declaration.IsShown := by
  rw [normalize] at hmem
  split at hmem
  · exact absurd hmem List.not_mem_nil
  · rename_i hname
    obtain ⟨text, htext, rfl⟩ := List.mem_map.mp hmem
    refine ⟨Property.tight_hyphenate (Text.tight_trim fun hblank => hname ?_),
      Value.tight_of_mem_texts _ value text htext⟩
    rw [propertyName, hblank]
    rfl

end Declaration

end Stylesheet
