import Stylesheet.Proofs.Compile.Sameness
import Stylesheet.Proofs.Selector.Nesting

/-!
# The shape of compiled rules

What a description says is decided by its keys and values alone: the root only shows in the selectors. Two roots, well-bracketed or not, lead to the same tree of blocks and at-rules, and read in order the tree has just the declarations of the description, its own before those of the nested ones.

The point at issue is the descendant that is passed over when its selector comes out empty. The compiler looks at the composed list, which hangs on the root, but `joinDescendant_eq_nil_iff` says that the list is empty only when the key has no parts.
-/

namespace Stylesheet

namespace Rule

/-! ### Rules that only differ in selectors -/

/-- Style blocks and at-rules with the same headings and declarations, whatever the selectors. -/
inductive Alike : List Rule → List Rule → Prop
  | nil : Alike [] []
  | style (left right : Text) (declarations : List Declaration) {lefts rights : List Rule}
    (hrest : Alike lefts rights) :
    Alike (.style left declarations :: lefts) (.style right declarations :: rights)
  | atRule (heading : Text) {inner others lefts rights : List Rule} (hinner : Alike inner others)
    (hrest : Alike lefts rights) :
    Alike (.atRule heading inner :: lefts) (.atRule heading others :: rights)

theorem Alike.append {lefts rights moreLefts moreRights : List Rule} (halike : Alike lefts rights)
    (hmore : Alike moreLefts moreRights) : Alike (lefts ++ moreLefts) (rights ++ moreRights) := by
  induction halike with
  | nil => exact hmore
  | style left right declarations _ ih => exact .style left right declarations ih
  | atRule heading hinner _ _ ih => exact .atRule heading hinner ih

theorem Alike.eq_nil_iff {lefts rights : List Rule} (halike : Alike lefts rights) :
    lefts = [] ↔ rights = [] := by
  cases halike <;> simp

/-! ### Declarations in order -/

mutual

/-- The declarations of a rule and of every rule it wraps, from left to right. -/
def declarations : Rule → List Declaration
  | .style _ declarations => declarations
  | .atRule _ rules => declarationsOfAll rules
  | .keyframes _ stops => stops.flatMap Stop.declarations

def declarationsOfAll : List Rule → List Declaration
  | [] => []
  | rule :: rest => declarations rule ++ declarationsOfAll rest

end

theorem declarationsOfAll_append (rules more : List Rule) :
    declarationsOfAll (rules ++ more) = declarationsOfAll rules ++ declarationsOfAll more := by
  induction rules with
  | nil => rfl
  | cons rule rest ih =>
    rw [List.cons_append, declarationsOfAll, declarationsOfAll, ih, List.append_assoc]

mutual

theorem count_eq_length : ∀ rule : Rule, count rule = (declarations rule).length
  | .style _ _ => rfl
  | .atRule _ rules => countAll_eq_length rules
  | .keyframes _ stops => by rw [count, declarations]

theorem countAll_eq_length : ∀ rules : List Rule, countAll rules = (declarationsOfAll rules).length
  | [] => rfl
  | rule :: rest => by
    rw [countAll, declarationsOfAll, List.length_append, count_eq_length rule,
      countAll_eq_length rest]

end

end Rule

/-! ### The declarations of a description -/

namespace Description

/-- What the plain entries stand for, in order; an entry with a nested description is not plain. -/
def plainDeclarations (description : Description) : List Declaration :=
  description.flatMap fun (key, value) =>
    if KeyKind.of key = .plain ∧ value.nested?.isNone then Declaration.normalize key value else []

mutual

/-- The declarations of the nested descriptions, one description after another. -/
def nestedDeclarations : List (Text × Value) → List Declaration
  | [] => []
  | (key, value) :: rest => declarationsUnder key value ++ nestedDeclarations rest

/-- Only a descendant key without parts keeps the declarations below it from being seen. -/
def declarationsUnder (key : Text) : Value → List Declaration
  | .nested body =>
    if KeyKind.of key = .plain ∧ Selector.split key = [] then []
    else plainDeclarations body ++ nestedDeclarations body
  | _ => []

end

/-- Own declarations first, then those of the nested descriptions in the order of their keys. -/
def declarations (description : Description) : List Declaration :=
  description.plainDeclarations ++ nestedDeclarations description

theorem plainDeclarations_eq (description : Description) :
    description.plainDeclarations = Compile.ownDeclarations description := by
  induction description with
  | nil => rfl
  | cons entry rest ih =>
    obtain ⟨key, value⟩ := entry
    have hentry : Compile.entryDeclarations (Entry.classify key value) =
        if KeyKind.of key = .plain ∧ value.nested?.isNone then Declaration.normalize key value
        else [] := by
      unfold Entry.classify
      cases KeyKind.of key <;> cases value <;> rfl
    rw [Compile.ownDeclarations_cons, hentry, ← ih]
    rfl

end Description

namespace Selector

/-! ### Keys that lead nowhere -/

variable {key : Text}

theorem joinList_ne_nil {part : Text} {parts : List Text} (hpart : part ∈ parts) (hne : part ≠ []) :
    joinList parts ≠ [] := by
  obtain ⟨c, hc⟩ := List.exists_mem_of_ne_nil part hne
  exact List.ne_nil_of_mem (mem_joinList hpart hc)

/-- Whatever list a descendant stands under, nothing comes of its key just if the key has no parts. -/
theorem joinDescendant_eq_nil_iff (current : Text) :
    joinDescendant current key = [] ↔ split key = [] := by
  refine ⟨fun hjoined => ?_, joinDescendant_of_split_eq_nil current⟩
  by_contra hparts
  obtain ⟨raw, hraw⟩ := List.exists_mem_of_ne_nil _ hparts
  have hpart : raw.collapse ∈ keyParts key := List.mem_map_of_mem hraw
  -- Some selector comes of the first part, with or without a list to stand under.
  obtain ⟨inner, hinner, hne⟩ : ∃ inner ∈ descend (split current) raw.collapse, inner ≠ [] := by
    rw [descend]
    split
    · exact ⟨_, List.mem_singleton.mpr rfl, (tight_of_mem_keyParts hpart).ne_nil⟩
    · rename_i hroots
      obtain ⟨root, hroot⟩ := List.exists_mem_of_ne_nil _ fun hnil =>
        hroots (List.isEmpty_iff.mpr hnil)
      exact ⟨_, List.mem_map_of_mem hroot, by simp⟩
  exact joinList_ne_nil (List.mem_flatMap.mpr ⟨_, hpart, hinner⟩) hne hjoined

end Selector

namespace Compile

open Rule (Alike declarationsOfAll declarationsOfAll_append)

/-! ### Two roots -/

theorem alike_ownRule (left right : Text) (description : Description) :
    Alike (ownRule left description) (ownRule right description) := by
  rw [ownRule, ownRule]
  split
  · exact .nil
  · exact .style left right _ .nil

theorem alike_wrap (heading : Text) {lefts rights : List Rule} (halike : Alike lefts rights) :
    Alike (wrap heading lefts) (wrap heading rights) := by
  cases halike with
  | nil => exact .nil
  | style left right declarations hrest => exact .atRule _ (.style left right _ hrest) .nil
  | atRule inner hinner hrest => exact .atRule _ (.atRule inner hinner hrest) .nil

mutual

theorem alike_rulesUnder : ∀ (value : Value) (key left right : Text),
    Alike (rulesUnder left key value) (rulesUnder right key value)
  | .nested body, key, left, right => by
    have hbody (left right : Text) : Alike (ownRule left body ++ nestedRules left body)
        (ownRule right body ++ nestedRules right body) :=
      (alike_ownRule left right body).append (alike_nestedRules body left right)
    cases hkind : KeyKind.of key with
    | atRule =>
      simp only [rulesUnder, hkind]
      exact alike_wrap key (hbody left right)
    | modifier =>
      simp only [rulesUnder, hkind]
      exact hbody _ _
    | plain =>
      simp only [rulesUnder, hkind, List.isEmpty_iff, Selector.joinDescendant_eq_nil_iff]
      split
      · exact .nil
      · exact hbody _ _
  | .absent, _, _, _ => .nil
  | .flag _, _, _, _ => .nil
  | .number _, _, _, _ => .nil
  | .text _, _, _, _ => .nil
  | .list _, _, _, _ => .nil

theorem alike_nestedRules : ∀ (entries : List (Text × Value)) (left right : Text),
    Alike (nestedRules left entries) (nestedRules right entries)
  | [], _, _ => .nil
  | (key, value) :: rest, left, right =>
    (alike_rulesUnder value key left right).append (alike_nestedRules rest left right)

end

theorem alike_rules (left right : Text) (description : Description) :
    Alike (rules left description) (rules right description) :=
  (alike_ownRule left right description).append (alike_nestedRules description left right)

/-! ### What is declared -/

theorem declarations_ownRule (selector : Text) (description : Description) :
    declarationsOfAll (ownRule selector description) = description.plainDeclarations := by
  rw [ownRule, Description.plainDeclarations_eq]
  split
  · rename_i hempty
    exact (List.isEmpty_iff.mp hempty).symm
  · exact List.append_nil _

theorem declarations_wrap (heading : Text) (rules : List Rule) :
    declarationsOfAll (wrap heading rules) = declarationsOfAll rules := by
  rw [wrap]
  split
  · rename_i hempty
    rw [List.isEmpty_iff.mp hempty]
  · exact List.append_nil _

mutual

theorem declarations_rulesUnder : ∀ (value : Value) (key selector : Text),
    declarationsOfAll (rulesUnder selector key value) = Description.declarationsUnder key value
  | .nested body, key, selector => by
    have hbody (inner : Text) :
        declarationsOfAll (ownRule inner body ++ nestedRules inner body) =
          Description.plainDeclarations body ++ Description.nestedDeclarations body := by
      rw [declarationsOfAll_append, declarations_ownRule, declarations_nestedRules body inner]
    rw [Description.declarationsUnder]
    cases hkind : KeyKind.of key with
    | atRule =>
      simp only [rulesUnder, hkind, declarations_wrap, hbody, reduceCtorEq, false_and, if_false]
    | modifier => simp only [rulesUnder, hkind, hbody, reduceCtorEq, false_and, if_false]
    | plain =>
      simp only [rulesUnder, hkind, List.isEmpty_iff, Selector.joinDescendant_eq_nil_iff, true_and]
      split
      · rfl
      · exact hbody _
  | .absent, _, _ => rfl
  | .flag _, _, _ => rfl
  | .number _, _, _ => rfl
  | .text _, _, _ => rfl
  | .list _, _, _ => rfl

theorem declarations_nestedRules : ∀ (entries : List (Text × Value)) (selector : Text),
    declarationsOfAll (nestedRules selector entries) = Description.nestedDeclarations entries
  | [], _ => rfl
  | (key, value) :: rest, selector => by
    rw [nestedRules, declarationsOfAll_append, Description.nestedDeclarations,
      declarations_rulesUnder value key selector, declarations_nestedRules rest selector]

end

theorem declarations_rules (selector : Text) (description : Description) :
    declarationsOfAll (rules selector description) = description.declarations := by
  rw [rules, declarationsOfAll_append, declarations_ownRule, declarations_nestedRules]
  rfl

/-- Two roots lead to rules that only differ in selectors, and the rules declare what the description does, each declaration once and in order. -/
theorem alike_style (mode : RenderMode) (left right : Text) (description : Description) :
    Alike (style mode left description).rules (style mode right description).rules ∧
      declarationsOfAll (style mode left description).rules = description.declarations ∧
      (style mode left description).count = description.declarations.length := by
  have hshape : Alike (rules left description) (rules right description) :=
    (alike_ownRule left right description).append (alike_nestedRules description left right)
  have hdeclared := declarations_rules left description
  refine ⟨hshape, hdeclared, ?_⟩
  show Rule.countAll (rules left description) = _
  rw [Rule.countAll_eq_length, hdeclared]

end Compile

end Stylesheet
