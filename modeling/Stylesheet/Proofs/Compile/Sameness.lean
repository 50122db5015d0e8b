import Stylesheet.Request

/-!
# Sameness and compilation

Sameness overlooks nothing but the sign of a zero and whether a NaN is quiet. A declaration shows zero without a sign and no NaN at all, so requests that are the same compile to the same rules, whatever selector or name they are compiled for.
-/

namespace Stylesheet

/-! ### Numbers -/

namespace Binary64

variable {x y : Binary64}

/-- The quiet bit is the first one of the fraction. -/
@[simp] theorem exponentField_quiet (x : Binary64) : x.quiet.exponentField = x.exponentField := by
  have hbit : (0x0008000000000000 : UInt64).toNat / 2 ^ 52 = 0 := by decide
  show (x.bits ||| 0x0008000000000000).toNat / 2 ^ 52 % 2 ^ 11 = x.bits.toNat / 2 ^ 52 % 2 ^ 11
  rw [UInt64.toNat_or, Nat.or_div_two_pow, hbit, Nat.or_zero]

theorem fractionField_quiet_ne_zero (x : Binary64) : x.quiet.fractionField ≠ 0 := by
  have hbit : (0x0008000000000000 : UInt64).toNat % 2 ^ 52 ≠ 0 := by decide
  show (x.bits ||| 0x0008000000000000).toNat % 2 ^ 52 ≠ 0
  rw [UInt64.toNat_or, Nat.or_mod_two_pow]
  intro hzero
  exact hbit (Nat.or_eq_zero_iff.mp hzero).2

theorem isNaN_quiet (hnan : x.isNaN = true) : x.quiet.isNaN = true := by
  rw [isNaN, Bool.and_eq_true] at hnan ⊢
  rw [exponentField_quiet]
  exact ⟨hnan.1, decide_eq_true (fractionField_quiet_ne_zero x)⟩

theorem plusZero_of_isNaN (hnan : x.isNaN = true) : x.plusZero = x.quiet := by
  have hzero : x ≠ negativeZero := by
    rintro rfl
    exact absurd hnan (by decide)
  rw [plusZero, if_neg hzero, if_pos hnan]

theorem plusZero_of_not_isNaN (hnumber : x.isNaN = false) :
    x.plusZero = if x = negativeZero then zero else x := by
  rw [plusZero, hnumber, if_neg Bool.false_ne_true]

@[simp] theorem isNaN_plusZero (x : Binary64) : x.plusZero.isNaN = x.isNaN := by
  cases hnan : x.isNaN with
  | true => rw [plusZero_of_isNaN hnan, isNaN_quiet hnan]
  | false =>
    rw [plusZero_of_not_isNaN hnan]
    split
    · decide
    · exact hnan

@[simp] theorem isFinite_plusZero (x : Binary64) : x.plusZero.isFinite = x.isFinite := by
  rw [plusZero]
  split
  · rename_i hzero
    rw [hzero]
    decide
  · split
    · simp [isFinite]
    · rfl

/-- Two numbers have the same sum with zero just if they have the same bits, if both are zeros, or if both are NaNs with the same quiet form. -/
theorem plusZero_eq_iff : x.plusZero = y.plusZero ↔
    x = y ∨ (x ∈ [zero, negativeZero] ∧ y ∈ [zero, negativeZero]) ∨
      (x.isNaN = true ∧ y.isNaN = true ∧ x.quiet = y.quiet) := by
  constructor
  · intro hsame
    have hboth : y.isNaN = x.isNaN := by rw [← isNaN_plusZero y, ← hsame, isNaN_plusZero]
    cases hnan : x.isNaN with
    | true =>
      rw [plusZero_of_isNaN hnan, plusZero_of_isNaN (hboth.trans hnan)] at hsame
      exact .inr (.inr ⟨rfl, hboth.trans hnan, hsame⟩)
    | false =>
      rw [plusZero_of_not_isNaN hnan, plusZero_of_not_isNaN (hboth.trans hnan)] at hsame
      by_cases hx : x = negativeZero <;> by_cases hy : y = negativeZero <;> simp_all
  · rintro (rfl | ⟨hx, hy⟩ | ⟨hx, hy, hquiet⟩)
    · rfl
    · have hzero : ∀ z ∈ [zero, negativeZero], z.plusZero = zero := by decide
      rw [hzero x hx, hzero y hy]
    · rw [plusZero_of_isNaN hx, plusZero_of_isNaN hy, hquiet]

/-- A NaN that signals and its quiet form. -/
example : (⟨0xfff0000000000001⟩ : Binary64).plusZero = ⟨0xfff8000000000001⟩ := by decide

theorem styleText?_of_plusZero (hsame : x.plusZero = y.plusZero) :
    x.styleText? = y.styleText? := by
  have hfinite : x.isFinite = y.isFinite := by simpa using congrArg isFinite hsame
  rw [styleText?, styleText?, hfinite, hsame]

end Binary64

/-! ### Declarations -/

namespace Value

mutual

theorem texts_of_same (property : Text) : ∀ left right : Value, same left right = true →
    left.texts property = right.texts property
  | .absent, .absent, _ => rfl
  | .flag _, .flag _, _ => rfl
  | .number left, .number right, hsame => by
    rw [texts, texts, textOfNumber, textOfNumber,
      Binary64.styleText?_of_plusZero (of_decide_eq_true hsame)]
  | .text left, .text right, hsame => by
    rw [of_decide_eq_true hsame]
  | .list left, .list right, hsame => textsOfItems_of_same property left right hsame
  | .nested _, .nested _, _ => rfl

theorem textsOfItems_of_same (property : Text) : ∀ left right : List Value,
    sameItems left right = true → textsOfItems property left = textsOfItems property right
  | [], [], _ => rfl
  | left :: lefts, right :: rights, hsame => by
    rw [sameItems, Bool.and_eq_true] at hsame
    rw [textsOfItems, textsOfItems, texts_of_same property left right hsame.1,
      textsOfItems_of_same property lefts rights hsame.2]

end

end Value

namespace Compile

/-- A key that is no property has no declarations, and neither has a nested description. -/
theorem entryDeclarations_classify (key : Text) (value : Value) :
    entryDeclarations (Entry.classify key value) =
      if KeyKind.of key = .plain then Declaration.normalize key value else [] := by
  unfold Entry.classify
  cases value with
  | nested body =>
    have hnested : Declaration.normalize key (.nested body) = [] := by
      rw [Declaration.normalize]
      split <;> rfl
    rw [hnested, ite_self]
    cases KeyKind.of key <;> rfl
  | _ => cases KeyKind.of key <;> rfl

theorem ownDeclarations_cons (key : Text) (value : Value) (rest : Description) :
    ownDeclarations ((key, value) :: rest) =
      entryDeclarations (Entry.classify key value) ++ ownDeclarations rest := rfl

theorem ownDeclarations_of_same : ∀ left right : Description, left.same right = true →
    ownDeclarations left = ownDeclarations right
  | [], [], _ => rfl
  | (key, left) :: lefts, (other, right) :: rights, hsame => by
    rw [Description.same, Value.sameEntries, Bool.and_eq_true, Bool.and_eq_true] at hsame
    obtain ⟨⟨hkey, hvalue⟩, hrest⟩ := hsame
    obtain rfl := of_decide_eq_true hkey
    rw [ownDeclarations_cons, ownDeclarations_cons, ownDeclarations_of_same lefts rights hrest,
      entryDeclarations_classify, entryDeclarations_classify, Declaration.normalize,
      Declaration.normalize, Value.texts_of_same _ left right hvalue]

theorem ownRule_of_same (selector : Text) {left right : Description}
    (hsame : left.same right = true) : ownRule selector left = ownRule selector right := by
  rw [ownRule, ownRule, ownDeclarations_of_same left right hsame]

/-! ### Rules -/

mutual

theorem rulesUnder_of_same (selector key : Text) : ∀ left right : Value,
    left.same right = true → rulesUnder selector key left = rulesUnder selector key right
  | .nested left, .nested right, hsame => by
    have hown (inner : Text) : ownRule inner left = ownRule inner right :=
      ownRule_of_same inner hsame
    have hnested (inner : Text) : nestedRules inner left = nestedRules inner right :=
      nestedRules_of_same inner left right hsame
    rw [rulesUnder, rulesUnder]
    simp only [hown, hnested]
  | .absent, .absent, _ => rfl
  | .flag _, .flag _, _ => rfl
  | .number _, .number _, _ => rfl
  | .text _, .text _, _ => rfl
  | .list _, .list _, _ => rfl

theorem nestedRules_of_same (selector : Text) : ∀ left right : List (Text × Value),
    Value.sameEntries left right = true → nestedRules selector left = nestedRules selector right
  | [], [], _ => rfl
  | (key, left) :: lefts, (other, right) :: rights, hsame => by
    rw [Value.sameEntries, Bool.and_eq_true, Bool.and_eq_true] at hsame
    obtain ⟨⟨hkey, hvalue⟩, hrest⟩ := hsame
    obtain rfl := of_decide_eq_true hkey
    rw [nestedRules, nestedRules, rulesUnder_of_same selector key left right hvalue,
      nestedRules_of_same selector lefts rights hrest]

end

theorem style_of_same (mode : RenderMode) (selector : Text) {left right : Description}
    (hsame : left.same right = true) : style mode selector left = style mode selector right := by
  rw [style, style, rules, rules, ownRule_of_same selector hsame,
    nestedRules_of_same selector left right hsame]

theorem keptStops_of_same : ∀ left right : Stops, left.same right = true →
    keptStops left = keptStops right
  | [], [], _ => rfl
  | (label, left) :: lefts, (other, right) :: rights, hsame => by
    rw [Stops.same, Bool.and_eq_true, Bool.and_eq_true] at hsame
    obtain ⟨⟨hlabel, hbody⟩, hrest⟩ := hsame
    obtain rfl := of_decide_eq_true hlabel
    have hstop : stop? label left = stop? label right := by
      rw [stop?, stop?, ownDeclarations_of_same left right hbody]
    have hlater := keptStops_of_same lefts rights hrest
    simp only [keptStops, List.filterMap_cons, hstop] at hlater ⊢
    rw [hlater]

end Compile

/-! ### Requests -/

namespace Request

/-- Sameness of requests: the same kind of request for the same content. -/
def same : Request → Request → Bool
  | style left options, style right others => left.same right && options = others
  | keyframes left, keyframes right => left.same right
  | global selector left, global other right => selector = other && left.same right
  | _, _ => false

theorem compile_of_same (mode : RenderMode) (identifier : Identifier) {left right : Request}
    (hsame : left.same right = true) :
    left.compile mode identifier = right.compile mode identifier := by
  cases left <;> cases right <;> simp only [same, Bool.and_eq_true, Bool.false_eq_true] at hsame
  · exact Compile.style_of_same mode _ hsame.1
  · rw [compile, compile, Compile.keyframes, Compile.keyframes, Compile.keyframesRules,
      Compile.keyframesRules, Compile.keptStops_of_same _ _ hsame]
  · rw [compile, compile, of_decide_eq_true hsame.1, Compile.style_of_same mode _ hsame.2]

end Request

end Stylesheet
