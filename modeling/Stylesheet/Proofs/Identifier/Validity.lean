import Stylesheet.Proofs.Identifier.Default
import Stylesheet.Proofs.Selector.Fragment

/-!
# Valid identifiers

Every identifier is made of the right characters and starts with no digit, because whatever it starts with was made a fragment first: a custom name without the prefix, the product of a generator, or else the prefix. CSS asks for a little more. A hyphen in front must not stand alone or before a digit, and of that no care is taken, so an identifier is valid unless the fragment it starts with is at fault.
-/

namespace Stylesheet

namespace Text

variable {text rest raw : Text}

/-- A fragment of an identifier that does not start with a digit. -/
structure IsName (text : Text) : Prop extends IsFragment text where
  first : ∀ c rest, text = c :: rest → c.isDigit = false

theorem isName_iff :
    text.IsName ↔ text.all isIdentChar = true ∧ text.head?.any (fun c => !c.isDigit) = true := by
  rw [List.all_eq_true]
  constructor
  · intro hname
    obtain ⟨c, tail, rfl⟩ := List.exists_cons_of_ne_nil hname.ne_nil
    exact ⟨hname.chars, by simpa using hname.first c tail rfl⟩
  · rintro ⟨hchars, hfirst⟩
    cases text with
    | nil => exact absurd hfirst Bool.false_ne_true
    | cons c tail =>
      refine ⟨⟨List.cons_ne_nil c tail, hchars⟩, ?_⟩
      intro d later heq
      obtain ⟨rfl, -⟩ := List.cons.inj heq
      simpa using hfirst

instance (text : Text) : Decidable text.IsName := decidable_of_iff _ isName_iff.symm

theorem IsName.append (hname : text.IsName) (hrest : ∀ c ∈ rest, isIdentChar c = true) :
    IsName (text ++ rest) := by
  refine ⟨hname.toIsFragment.append hrest, ?_⟩
  intro c later heq
  obtain ⟨d, tail, rfl⟩ := List.exists_cons_of_ne_nil hname.ne_nil
  obtain ⟨rfl, -⟩ := List.cons.inj heq
  exact hname.first d tail rfl

/-- A hyphen that stands alone or before a digit. -/
def startsAmiss : Text → Bool
  | [] => false
  | c :: rest => c = '-' && rest.head?.all Char.isDigit

/-- What follows a hyphen further on has no part in how a text starts. -/
theorem startsAmiss_hyphen (hne : text ≠ []) (rest : Text) :
    startsAmiss (text ++ '-' :: rest) = startsAmiss (text ++ ['-']) := by
  obtain ⟨c, tail, rfl⟩ := List.exists_cons_of_ne_nil hne
  cases tail <;> rfl

theorem isIdentChar_identChar (c : Char) : isIdentChar (identChar c) = true := by
  rw [identChar]
  split
  · assumption
  · decide

theorem isName_guardDigit (hne : text ≠ []) (hchars : ∀ c ∈ text, isIdentChar c = true) :
    IsName (guardDigit text) := by
  obtain ⟨c, tail, rfl⟩ := List.exists_cons_of_ne_nil hne
  rw [guardDigit]
  split
  · refine ⟨⟨List.cons_ne_nil _ _, List.forall_mem_cons.mpr ⟨by decide, hchars⟩⟩, ?_⟩
    intro d later heq
    obtain ⟨rfl, -⟩ := List.cons.inj heq
    decide
  · rename_i hletter
    refine ⟨⟨hne, hchars⟩, ?_⟩
    intro d later heq
    obtain ⟨rfl, -⟩ := List.cons.inj heq
    exact Bool.eq_false_iff.mpr hletter

theorem isName_sanitize (hne : raw.sanitize ≠ []) : raw.sanitize.IsName := by
  apply isName_guardDigit
  · intro hempty
    exact hne (by rw [sanitize, hempty]; rfl)
  · intro c hc
    obtain ⟨original, -, rfl⟩ := List.mem_map.mp hc
    exact isIdentChar_identChar original

theorem isIdentChar_of_mem_sanitize {c : Char} (hc : c ∈ raw.sanitize) : isIdentChar c = true :=
  (isName_sanitize (List.ne_nil_of_mem hc)).chars c hc

end Text

namespace Identifier

open Text (IsName startsAmiss isIdentChar)

variable {config : Config} {options : Option StyleOptions} {seed : Seed}
  {identifier : Identifier}

/-- An identifier as CSS has it: ASCII letters, digits, hyphens and underscores, with neither a digit in front nor a hyphen that stands alone or before a digit. -/
structure IsValid (identifier : Identifier) : Prop extends IsName identifier where
  ne_hyphen : identifier ≠ ['-']
  second : ∀ c rest, identifier = '-' :: c :: rest → c.isDigit = false

theorem isValid_iff : identifier.IsValid ↔ identifier.IsName ∧ startsAmiss identifier = false := by
  constructor
  · intro hvalid
    refine ⟨hvalid.toIsName, Bool.eq_false_iff.mpr fun hamiss => ?_⟩
    obtain ⟨c, rest, rfl⟩ := List.exists_cons_of_ne_nil hvalid.ne_nil
    rw [startsAmiss, Bool.and_eq_true, decide_eq_true_eq] at hamiss
    obtain ⟨rfl, hdigit⟩ := hamiss
    cases rest with
    | nil => exact hvalid.ne_hyphen rfl
    | cons d later => exact Bool.false_ne_true ((hvalid.second d later rfl).symm.trans hdigit)
  · rintro ⟨hname, hright⟩
    refine ⟨hname, ?_, ?_⟩
    · rintro rfl
      exact Bool.false_ne_true (hright.symm.trans rfl)
    · rintro c rest rfl
      exact hright

instance (identifier : Identifier) : Decidable identifier.IsValid :=
  decidable_of_iff _ isValid_iff.symm

/-! ### Where an identifier starts -/

theorem isIdentChar_of_mem_inBase {n : Nat} {c : Char} (hc : c ∈ Numeral.inBase 36 n) :
    isIdentChar c = true := by
  obtain ⟨value, hvalue, rfl⟩ := Numeral.mem_inBase (by omega) hc
  have hdigits : ∀ value < 36, isIdentChar (Numeral.digit value) = true := by decide
  exact hdigits value hvalue

theorem isIdentChar_of_mem_token {c : Char} (hc : c ∈ token seed) : isIdentChar c = true := by
  rcases List.mem_append.mp hc with hdigest | hcount
  · rcases List.mem_append.mp hdigest with hzero | hdigit
    · rw [List.eq_of_mem_replicate hzero]
      decide
    · exact isIdentChar_of_mem_inBase (List.mem_of_mem_take hdigit)
  · exact isIdentChar_of_mem_inBase hcount

/-- The three ways to make an identifier, by what it starts with. -/
inductive Made (config : Config) (options : Option StyleOptions) (seed : Seed) :
    Identifier → Prop
  | bare {given : StyleOptions} {raw : Text} (hoptions : options = some given)
    (hname : given.name = some raw) (hbare : given.prefixName = false)
    (hne : raw.sanitize ≠ []) : Made config options seed raw.sanitize
  | generated {generate : Seed → Text} (hgenerate : config.generate = some generate)
    (hne : (generate seed).sanitize ≠ []) : Made config options seed (generate seed).sanitize
  | prefixed {rest : Text} (hrest : ∀ c ∈ rest, isIdentChar c = true) :
    Made config options seed (seed.identPrefix ++ '-' :: rest)

theorem made_of_custom? (hcustom : options.bind (custom? seed.identPrefix) = some identifier) :
    Made config options seed identifier := by
  obtain ⟨given, hoptions, hname⟩ := Option.bind_eq_some_iff.mp hcustom
  obtain ⟨raw, hraw, hcandidate⟩ := Option.bind_eq_some_iff.mp hname
  split at hcandidate
  · exact absurd hcandidate nofun
  · rename_i husable
    obtain rfl := Option.some.inj hcandidate
    rw [namedCandidate]
    split
    · exact .prefixed fun c hc => Text.isIdentChar_of_mem_sanitize hc
    · rename_i hbare
      have hne : raw.sanitize ≠ [] := by
        intro hempty
        exact husable (by rw [hempty]; rfl)
      exact .bare hoptions hraw (Bool.eq_false_iff.mpr hbare) hne

theorem made_of_generated? (hgenerated : generated? config seed = some identifier) :
    Made config options seed identifier := by
  obtain ⟨generate, hgenerate, hproduct⟩ := Option.bind_eq_some_iff.mp hgenerated
  split at hproduct
  · rename_i husable
    obtain rfl := Option.some.inj hproduct
    rw [isUsable, Bool.and_eq_true, Bool.not_eq_true'] at husable
    exact .generated hgenerate (List.isEmpty_eq_false_iff.mp husable.1)
  · exact absurd hproduct nofun

/-- The marks between the prefix and the token start with a hyphen. -/
theorem made_byDefault (debug : Bool) (seed : Seed) :
    Made config options seed (byDefault debug seed) := by
  have htoken : ∀ c ∈ token seed, isIdentChar c = true := fun c hc => isIdentChar_of_mem_token hc
  have hlabel : ∃ rest, labelMark debug seed.label ++ '-' :: token seed = '-' :: rest ∧
      ∀ c ∈ rest, isIdentChar c = true := by
    unfold labelMark
    split
    · exact ⟨_, rfl, htoken⟩
    · rename_i raw _
      split
      · refine ⟨raw.sanitize ++ '-' :: token seed, rfl, ?_⟩
        intro c hc
        rcases List.mem_append.mp hc with hlabel | hrest
        · exact Text.isIdentChar_of_mem_sanitize hlabel
        · rcases List.mem_cons.mp hrest with rfl | hmem
          · decide
          · exact htoken c hmem
      · exact ⟨_, rfl, htoken⟩
  obtain ⟨rest, hrest, hchars⟩ := hlabel
  have hwhole : byDefault debug seed =
      seed.identPrefix ++ (kindMark seed.kind ++ '-' :: rest) := by
    rw [← hrest, byDefault, token, List.append_assoc, List.append_assoc]
  rw [hwhole]
  cases hkind : seed.kind with
  | style => exact .prefixed hchars
  | keyframes =>
    have hmarked : ∀ c ∈ 'k' :: 'f' :: '-' :: rest, isIdentChar c = true := by
      simpa using ⟨by decide, by decide, by decide, hchars⟩
    exact .prefixed hmarked
  | global =>
    have hmarked : ∀ c ∈ 'g' :: '-' :: rest, isIdentChar c = true := by
      simpa using ⟨by decide, by decide, hchars⟩
    exact .prefixed hmarked

theorem made_issue (config : Config) (options : Option StyleOptions) (seed : Seed) :
    Made config options seed (issue config options seed) := by
  rw [issue]
  cases hcustom : options.bind (custom? seed.identPrefix) with
  | some identifier => exact made_of_custom? hcustom
  | none =>
    cases hgenerated : generated? config seed with
    | some identifier => exact made_of_generated? hgenerated
    | none => exact made_byDefault config.debug seed

theorem isName_of_made (hmade : Made config options seed identifier)
    (hfront : seed.identPrefix.IsName) : identifier.IsName := by
  cases hmade with
  | bare _ _ _ hne => exact Text.isName_sanitize hne
  | generated _ hne => exact Text.isName_sanitize hne
  | prefixed hrest =>
    apply hfront.append
    intro c hc
    rcases List.mem_cons.mp hc with rfl | hmem
    · decide
    · exact hrest c hmem

end Identifier

end Stylesheet
