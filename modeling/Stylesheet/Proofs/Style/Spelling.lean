import Stylesheet.Proofs.Style.Declaration

/-!
# Spellings of a property

All that a declaration takes from a property is its trimmed name in kebab case, and a name that is in kebab case already stays as it is. So it makes no difference whether the words of a property are joined by hyphens or told apart by capitals, and a capital in front is as good as a hyphen there. One word is special: the vendor name `ms` takes a hyphen in front if a capital follows it, and none if a hyphen does.
-/

namespace Stylesheet

namespace Property

variable {c : Char} {name : Text}

/-! ### Capitals -/

theorem isUpper_toLower (hupper : c.isUpper = true) : c.toLower.isUpper = false := by
  apply Text.of_toNat_within (Text.toNat_of_isUpper hupper)
  decide

/-- A small letter can be taken for its capital and back. -/
theorem toUpper_of_isLower (hlower : c.isLower = true) :
    c.toUpper.isUpper = true ∧ c.toUpper.toLower = c := by
  apply Text.of_toNat_within (Text.toNat_of_isLower hlower)
  decide

theorem isUpper_of_mem_kebabChar {d : Char} (hmem : d ∈ kebabChar c) : d.isUpper = false := by
  rw [kebabChar] at hmem
  split at hmem
  · rename_i hupper
    rcases List.mem_pair.mp hmem with rfl | rfl
    · decide
    · exact isUpper_toLower hupper
  · rename_i hsmall
    rw [List.mem_singleton.mp hmem]
    exact eq_false_of_ne_true hsmall

theorem flatMap_kebabChar (hsmall : ∀ c ∈ name, c.isUpper = false) :
    name.flatMap kebabChar = name := by
  induction name with
  | nil => rfl
  | cons c rest ih =>
    obtain ⟨hfirst, hrest⟩ := List.forall_mem_cons.mp hsmall
    rw [List.flatMap_cons, ih hrest, kebabChar, hfirst]
    rfl

/-! ### Kebab case -/

theorem hyphenate_of_isCustom (hcustom : isCustom name = true) : hyphenate name = name := by
  rw [hyphenate, hcustom]
  rfl

theorem hyphenate_of_small (hsmall : ∀ c ∈ name, c.isUpper = false) : hyphenate name = name := by
  have hnone : name.any Char.isUpper = false :=
    List.any_eq_false.mpr fun c hc => by simp [hsmall c hc]
  rw [hyphenate, hnone]
  simp

theorem isUpper_of_mem_hyphenate (hplain : isCustom (hyphenate name) = false) :
    ∀ c ∈ hyphenate name, c.isUpper = false := by
  intro c hmem
  rw [hyphenate] at hplain hmem
  split at hmem
  · rename_i hkept
    rw [if_pos hkept] at hplain
    rw [hplain, Bool.false_or, Bool.not_eq_true', List.any_eq_false] at hkept
    exact eq_false_of_ne_true (hkept c hmem)
  · have hkebab : ∀ c ∈ name.flatMap kebabChar, c.isUpper = false := by
      intro c hc
      obtain ⟨d, -, hd⟩ := List.mem_flatMap.mp hc
      exact isUpper_of_mem_kebabChar hd
    rw [guardVendor] at hmem
    split at hmem
    · rcases List.mem_cons.mp hmem with rfl | hrest
      · decide
      · exact hkebab c hrest
    · exact hkebab c hmem

theorem hyphenate_hyphenate (name : Text) : hyphenate (hyphenate name) = hyphenate name := by
  cases hcustom : isCustom (hyphenate name) with
  | true => exact hyphenate_of_isCustom hcustom
  | false => exact hyphenate_of_small (isUpper_of_mem_hyphenate hcustom)

theorem trim_hyphenate_trim (name : Text) : (hyphenate name.trim).trim = hyphenate name.trim := by
  by_cases hnil : name.trim = []
  · rw [hnil]
    rfl
  · exact Text.trim_of_tight (tight_hyphenate (Text.tight_trim hnil))

/-! ### Words -/

/-- A word of a property name: a small letter and then small letters and digits. -/
structure Word where
  initial : Char
  rest : Text
  isLower_initial : initial.isLower = true
  isSmall_rest : ∀ c ∈ rest, (c.isLower || c.isDigit) = true

namespace Word

def text (word : Word) : Text := word.initial :: word.rest

def capitalized (word : Word) : Text := word.initial.toUpper :: word.rest

variable (word : Word)

theorem isSmall_of_mem {c : Char} (hmem : c ∈ word.text) : (c.isLower || c.isDigit) = true := by
  rcases List.mem_cons.mp hmem with rfl | hrest
  · rw [word.isLower_initial, Bool.true_or]
  · exact word.isSmall_rest c hrest

theorem toNat_of_mem {c : Char} (hmem : c ∈ word.text) :
    (48 ≤ c.toNat ∧ c.toNat ≤ 57) ∨ (97 ≤ c.toNat ∧ c.toNat ≤ 122) := by
  rcases (Bool.or_eq_true ..).mp (word.isSmall_of_mem hmem) with hlower | hdigit
  · exact .inr (Text.toNat_of_isLower hlower)
  · exact .inl (Char.isDigit_iff_toNat.mp hdigit)

theorem isUpper_of_mem {c : Char} (hmem : c ∈ word.text) : c.isUpper = false := by
  rw [Bool.eq_false_iff]
  intro hupper
  have hcapital := Text.toNat_of_isUpper hupper
  have hsmall := word.toNat_of_mem hmem
  omega

theorem ne_hyphen_of_mem {c : Char} (hmem : c ∈ word.text) : c ≠ '-' := by
  rintro rfl
  have hsmall := word.toNat_of_mem hmem
  revert hsmall
  decide

theorem isIdentChar_of_mem {c : Char} (hmem : c ∈ word.text) : Text.isIdentChar c = true := by
  apply Text.isIdentChar_of_isAlphanum
  rw [Bool.or_assoc, word.isSmall_of_mem hmem, Bool.or_true]

theorem isUpper_toUpper_initial : word.initial.toUpper.isUpper = true :=
  (toUpper_of_isLower word.isLower_initial).1

theorem flatMap_kebabChar_capitalized :
    word.capitalized.flatMap kebabChar = '-' :: word.text := by
  obtain ⟨hupper, hlower⟩ := toUpper_of_isLower word.isLower_initial
  have hrest : word.rest.flatMap kebabChar = word.rest :=
    flatMap_kebabChar fun c hc => word.isUpper_of_mem (List.mem_cons_of_mem _ hc)
  rw [capitalized, List.flatMap_cons, hrest, kebabChar, if_pos hupper, hlower]
  rfl

theorem isIdentChar_of_mem_capitalized {c : Char} (hmem : c ∈ word.capitalized) :
    Text.isIdentChar c = true := by
  rcases List.mem_cons.mp hmem with rfl | hrest
  · apply Text.isIdentChar_of_isAlphanum
    rw [word.isUpper_toUpper_initial, Bool.true_or, Bool.true_or]
  · exact word.isIdentChar_of_mem (List.mem_cons_of_mem _ hrest)

end Word

/-- The words joined by hyphens. -/
def kebab (words : List Word) : Text := Text.join ['-'] (words.map Word.text)

/-- The words one after another, each with a capital. -/
def capitals (words : List Word) : Text := words.flatMap Word.capitalized

/-- The words one after another, each but the first with a capital. -/
def camel : List Word → Text
  | [] => []
  | first :: rest => first.text ++ capitals rest

variable {first : Word} {rest words : List Word}

/-! ### From camel case to kebab case -/

theorem kebab_cons (first : Word) (rest : List Word) :
    kebab (first :: rest) = first.text ++ rest.flatMap fun word => '-' :: word.text := by
  rw [kebab, List.map_cons, Text.join_cons, List.flatMap_map]
  rfl

theorem flatMap_kebabChar_capitals (words : List Word) :
    (capitals words).flatMap kebabChar = words.flatMap fun word => '-' :: word.text := by
  rw [capitals, List.flatMap_assoc]
  exact congrArg words.flatMap (funext Word.flatMap_kebabChar_capitalized)

theorem flatMap_kebabChar_camel (first : Word) (rest : List Word) :
    (camel (first :: rest)).flatMap kebabChar = kebab (first :: rest) := by
  rw [camel, List.flatMap_append, flatMap_kebabChar_capitals, kebab_cons,
    flatMap_kebabChar fun _ hc => first.isUpper_of_mem hc]

theorem isUpper_of_mem_kebab {c : Char} (hmem : c ∈ kebab (first :: rest)) :
    c.isUpper = false := by
  rw [← flatMap_kebabChar_camel] at hmem
  obtain ⟨d, -, hd⟩ := List.mem_flatMap.mp hmem
  exact isUpper_of_mem_kebabChar hd

theorem any_isUpper_capitals (first : Word) (rest : List Word) :
    (capitals (first :: rest)).any Char.isUpper = true :=
  List.any_eq_true.mpr ⟨first.initial.toUpper, List.mem_cons_self, first.isUpper_toUpper_initial⟩

/-- The first word goes up to the first hyphen. -/
theorem takeWhile_kebab (first : Word) (rest : List Word) :
    (kebab (first :: rest)).takeWhile (· ≠ '-') = first.text := by
  have hword : ∀ c ∈ first.text, decide (c ≠ '-') = true :=
    fun c hc => decide_eq_true (first.ne_hyphen_of_mem hc)
  rw [kebab_cons, List.takeWhile_append_of_pos hword]
  cases rest with
  | nil => exact List.append_nil _
  | cons next rest =>
    rw [List.flatMap_cons, List.cons_append, List.takeWhile_cons_of_neg (by decide),
      List.append_nil]

theorem guardVendor_kebab (hvendor : first.text ≠ ['m', 's']) :
    guardVendor (kebab (first :: rest)) = kebab (first :: rest) := by
  rw [guardVendor, if_neg]
  intro hstart
  obtain ⟨after, hafter⟩ := List.isPrefixOf_iff_prefix.mp hstart
  apply hvendor
  rw [← takeWhile_kebab first rest, ← hafter]
  rfl

theorem isCustom_cons_of_ne (hc : c ≠ '-') (name : Text) : isCustom (c :: name) = false := by
  simp [isCustom, List.isPrefixOf, hc.symm]

theorem hyphenate_kebab (first : Word) (rest : List Word) :
    hyphenate (kebab (first :: rest)) = kebab (first :: rest) :=
  hyphenate_of_small fun _ hc => isUpper_of_mem_kebab hc

theorem hyphenate_camel (hvendor : first.text ≠ ['m', 's']) :
    hyphenate (camel (first :: rest)) = kebab (first :: rest) := by
  cases rest with
  | nil =>
    have halone : camel [first] = kebab [first] := by
      rw [camel, kebab_cons]
      rfl
    rw [halone, hyphenate_kebab]
  | cons next rest =>
    have hcustom : isCustom (camel (first :: next :: rest)) = false :=
      isCustom_cons_of_ne (first.ne_hyphen_of_mem List.mem_cons_self) _
    have hcapital : (camel (first :: next :: rest)).any Char.isUpper = true := by
      rw [camel, List.any_append, any_isUpper_capitals, Bool.or_true]
    rw [hyphenate, hcustom, hcapital, flatMap_kebabChar_camel]
    exact guardVendor_kebab hvendor

theorem hyphenate_capitals (first : Word) (rest : List Word) :
    hyphenate (capitals (first :: rest)) = '-' :: kebab (first :: rest) := by
  have hhyphen : first.initial.toUpper ≠ '-' := by
    intro heq
    have hupper := first.isUpper_toUpper_initial
    rw [heq] at hupper
    exact absurd hupper (by decide)
  have hcustom : isCustom (capitals (first :: rest)) = false := isCustom_cons_of_ne hhyphen _
  have hname : (capitals (first :: rest)).flatMap kebabChar = '-' :: kebab (first :: rest) := by
    rw [flatMap_kebabChar_capitals, kebab_cons]
    rfl
  rw [hyphenate, hcustom, any_isUpper_capitals, hname]
  rfl

/-! ### What can be seen of a spelling -/

theorem isIdentChar_of_mem_capitals {c : Char} (hmem : c ∈ capitals words) :
    Text.isIdentChar c = true := by
  obtain ⟨word, -, hc⟩ := List.mem_flatMap.mp hmem
  exact word.isIdentChar_of_mem_capitalized hc

theorem isIdentChar_of_mem_camel {c : Char} (hmem : c ∈ camel (first :: rest)) :
    Text.isIdentChar c = true := by
  rcases List.mem_append.mp hmem with hfirst | hrest
  · exact first.isIdentChar_of_mem hfirst
  · exact isIdentChar_of_mem_capitals hrest

theorem isIdentChar_of_mem_kebab {c : Char} (hmem : c ∈ kebab (first :: rest)) :
    Text.isIdentChar c = true := by
  rw [kebab_cons] at hmem
  rcases List.mem_append.mp hmem with hfirst | hrest
  · exact first.isIdentChar_of_mem hfirst
  · obtain ⟨word, -, hc⟩ := List.mem_flatMap.mp hrest
    rcases List.mem_cons.mp hc with rfl | hword
    · decide
    · exact word.isIdentChar_of_mem hword

end Property

namespace Declaration

open Property (Word camel capitals hyphenate isCustom kebab)

variable {property : Text} {first : Word} {rest : List Word}

/-- A name that could stand in an identifier has no blanks to be trimmed. -/
theorem propertyName_eq (hchars : ∀ c ∈ property, Text.isIdentChar c = true) :
    propertyName property = hyphenate property := by
  rw [propertyName, Text.trim_of_visible fun c hc => Text.isBlank_of_isIdentChar (hchars c hc)]

theorem propertyName_camel (hvendor : first.text ≠ ['m', 's']) :
    propertyName (camel (first :: rest)) = kebab (first :: rest) := by
  rw [propertyName_eq fun _ hc => Property.isIdentChar_of_mem_camel hc]
  exact Property.hyphenate_camel hvendor

theorem propertyName_kebab (first : Word) (rest : List Word) :
    propertyName (kebab (first :: rest)) = kebab (first :: rest) := by
  rw [propertyName_eq fun _ hc => Property.isIdentChar_of_mem_kebab hc]
  exact Property.hyphenate_kebab first rest

theorem propertyName_capitals (first : Word) (rest : List Word) :
    propertyName (capitals (first :: rest)) = '-' :: kebab (first :: rest) := by
  rw [propertyName_eq fun _ hc => Property.isIdentChar_of_mem_capitals hc]
  exact Property.hyphenate_capitals first rest

theorem propertyName_hyphen_kebab (first : Word) (rest : List Word) :
    propertyName ('-' :: kebab (first :: rest)) = '-' :: kebab (first :: rest) := by
  rw [← propertyName_capitals, propertyName, propertyName, Property.trim_hyphenate_trim,
    Property.hyphenate_hyphenate]

theorem normalize_of_propertyName {left right : Text}
    (hname : propertyName left = propertyName right) (value : Value) :
    normalize left value = normalize right value := by
  rw [normalize, normalize, hname]

/-- Kebab case is reached in one step and has no capitals but in custom properties, and the declarations of a property are those of its trimmed name in kebab case. So words in camel case declare what they declare in kebab case, and words with a capital each what they declare in kebab case with a hyphen in front. -/
theorem normalize_spelling :
    (∀ name : Text, hyphenate (hyphenate name) = hyphenate name) ∧
      (∀ name : Text, isCustom (hyphenate name) = false →
        ∀ c ∈ hyphenate name, c.isUpper = false) ∧
      (∀ (property : Text) (value : Value),
        normalize property value = normalize (hyphenate property.trim) value) ∧
      ∀ (first : Word) (rest : List Word),
        (first.text ≠ "ms".toList →
          propertyName (camel (first :: rest)) = kebab (first :: rest) ∧
            ∀ value : Value,
              normalize (camel (first :: rest)) value = normalize (kebab (first :: rest)) value) ∧
          propertyName (capitals (first :: rest)) = '-' :: kebab (first :: rest) ∧
            ∀ value : Value,
              normalize (capitals (first :: rest)) value =
                normalize ('-' :: kebab (first :: rest)) value := by
  refine ⟨Property.hyphenate_hyphenate, fun _ => Property.isUpper_of_mem_hyphenate, ?_, ?_⟩
  · intro property value
    apply normalize_of_propertyName
    rw [propertyName, propertyName, Property.trim_hyphenate_trim, Property.hyphenate_hyphenate]
  · intro first rest
    refine ⟨fun hvendor => ?_, propertyName_capitals first rest, ?_⟩
    · have hcamel : propertyName (camel (first :: rest)) = kebab (first :: rest) :=
        propertyName_camel hvendor
      refine ⟨hcamel, normalize_of_propertyName ?_⟩
      rw [hcamel, propertyName_kebab]
    · apply normalize_of_propertyName
      rw [propertyName_capitals, propertyName_hyphen_kebab]

def aspect : Word := ⟨'a', "spect".toList, by decide, List.all_eq_true.mp (by decide)⟩

def ratio : Word := ⟨'r', "atio".toList, by decide, List.all_eq_true.mp (by decide)⟩

/-- The ratio of three to one, and another value as a fallback. -/
def wide : Value := .list [.number ⟨0x4008000000000000⟩, .text " auto".toList]

/-- With hyphens or without, the name is found in the table of unitless properties. -/
theorem normalize_spelling_aspectRatio :
    aspect.text ≠ "ms".toList ∧
      camel [aspect, ratio] = "aspectRatio".toList ∧
      capitals [aspect, ratio] = "AspectRatio".toList ∧
      normalize "aspectRatio".toList wide = normalize "aspect-ratio".toList wide ∧
      normalize "aspect-ratio".toList wide =
        [⟨"aspect-ratio".toList, "3".toList⟩, ⟨"aspect-ratio".toList, "auto".toList⟩] ∧
      normalize "AspectRatio".toList wide = normalize "-aspect-ratio".toList wide := by
  obtain ⟨hcamel, -, hcapitals⟩ := normalize_spelling.2.2.2 aspect [ratio]
  have hvendor : aspect.text ≠ "ms".toList := by decide
  refine ⟨hvendor, by decide, by decide, (hcamel hvendor).2 wide, ?_, hcapitals wide⟩
  decide +kernel

end Declaration

end Stylesheet
