import Stylesheet.Proofs.Compile.Shape

/-!
# Entry by entry

What a description compiles to is put together from what its entries add: declarations of its own, or the rules of a nested description. A key has two things to say about such rules, under which selector list they stand and whether an at-rule wraps them, and everything else is left to the nested description.
-/

namespace Stylesheet

namespace Compile

variable {selector key : Text} {value : Value} {body : Description}

/-! ### What a key says -/

/-- The selector list that holds below a key; there is none below a descendant key without parts. -/
def below? (selector key : Text) : Option Text :=
  match KeyKind.of key with
  | .atRule => some selector
  | .modifier => some (Selector.resolveModifier selector key)
  | .plain =>
    if Selector.split key = [] then none else some (Selector.joinDescendant selector key)

def guarded (key : Text) (rules : List Rule) : List Rule :=
  if KeyKind.of key = .atRule then wrap key rules else rules

@[simp] theorem guarded_nil (key : Text) : guarded key [] = [] := by
  rw [guarded]
  split <;> rfl

theorem guarded_eq_nil_iff {inner : List Rule} : guarded key inner = [] ↔ inner = [] := by
  refine ⟨fun hnone => ?_, fun hnone => hnone ▸ guarded_nil key⟩
  rw [guarded, wrap] at hnone
  split at hnone
  · split at hnone
    · rename_i hempty
      exact List.isEmpty_iff.mp hempty
    · exact absurd hnone (List.cons_ne_nil _ _)
  · exact hnone

/-- Whether anything is skipped does not depend on the selector. -/
theorem below?_eq_none_iff (selector : Text) :
    below? selector key = none ↔ KeyKind.of key = .plain ∧ Selector.split key = [] := by
  rw [below?]
  cases KeyKind.of key <;> simp

theorem rulesUnder_nested (selector key : Text) (body : Description) :
    rulesUnder selector key (.nested body) =
      (below? selector key).elim [] fun inner => guarded key (rules inner body) := by
  cases hkind : KeyKind.of key with
  | atRule => simp only [rulesUnder, below?, guarded, hkind, if_true, Option.elim_some, rules]
  | modifier =>
    simp only [rulesUnder, below?, guarded, hkind, reduceCtorEq, if_false, Option.elim_some, rules]
  | plain =>
    simp only [rulesUnder, below?, guarded, hkind, reduceCtorEq, if_false, List.isEmpty_iff,
      Selector.joinDescendant_eq_nil_iff]
    split <;> rfl

theorem rulesUnder_of_not_nested (hvalue : value.nested? = none) :
    rulesUnder selector key value = [] := by
  cases value with
  | nested body => exact absurd hvalue (Option.some_ne_none body)
  | _ => rfl

/-! ### What an entry is -/

theorem classify_of_not_nested (hvalue : value.nested? = none) : Entry.classify key value =
    match KeyKind.of key with
    | .atRule => .ignored key .atRuleWithoutBlock
    | .modifier => .ignored key .modifierWithoutBlock
    | .plain => .declaration key value := by
  unfold Entry.classify
  cases value with
  | nested body => exact absurd hvalue (Option.some_ne_none body)
  | _ => cases KeyKind.of key <;> rfl

theorem entryDeclarations_nested (key : Text) (body : Description) :
    entryDeclarations (Entry.classify key (.nested body)) = [] := by
  unfold Entry.classify
  cases KeyKind.of key <;> rfl

/-! ### Entries in a row -/

theorem ownDeclarations_append (before after : Description) :
    ownDeclarations (before ++ after) = ownDeclarations before ++ ownDeclarations after := by
  rw [ownDeclarations, Entry.ofDescription, List.map_append, List.flatMap_append]
  rfl

theorem nestedRules_append (selector : Text) (before after : Description) :
    nestedRules selector (before ++ after) =
      nestedRules selector before ++ nestedRules selector after := by
  induction before with
  | nil => rfl
  | cons entry rest ih =>
    rw [List.cons_append, nestedRules, nestedRules, ih, List.append_assoc]

end Compile

end Stylesheet
