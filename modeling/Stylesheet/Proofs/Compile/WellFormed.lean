import Stylesheet.Proofs.Compile.Walk
import Stylesheet.Proofs.Style.Declaration

/-!
# Well-formed rules

Under a list with selectors in it a description compiles to rules that have all they need: blocks with a selector and with declarations, and at-rules with a heading and with something inside. It does not matter what is left open in a key or in the list it started from. A modifier or descendant puts every selector it stands under into what comes of it, and a character there that is neither blank nor a comma is enough for the composed list to have a selector again.

Every such rule has a text and counts for at least one declaration. So the rules, their text and their count are empty together.
-/

namespace Stylesheet

namespace Rule

/-! ### Rules that have all they need -/

/-- Style blocks with a selector and with declarations that show something, and at-rules around such rules; animations are no part of it. -/
inductive WellFormed : Rule → Prop
  | style {selector : Text} {declarations : List Declaration}
    (hselector : Selector.split selector ≠ []) (hsome : declarations ≠ [])
    (hshown : ∀ declaration ∈ declarations, declaration.IsShown) :
    WellFormed (.style selector declarations)
  | atRule {heading : Text} {rules : List Rule} (hcollapsed : heading.collapse = heading)
    (hat : heading.head? = some '@') (hsome : rules ≠ [])
    (hrules : ∀ rule ∈ rules, WellFormed rule) : WellFormed (.atRule heading rules)

variable {rule : Rule} {rules : List Rule}

theorem text_ne_nil (mode : RenderMode) (rule : Rule) : text mode rule ≠ [] := by
  have hclose : closeBrace mode ≠ [] := by cases mode <;> exact List.cons_ne_nil _ _
  cases rule with
  | style selector declarations => exact List.append_ne_nil_of_right_ne_nil _ hclose
  | atRule heading rules => exact List.append_ne_nil_of_right_ne_nil _ hclose
  | keyframes name stops => exact List.append_ne_nil_of_right_ne_nil _ hclose

theorem render_eq_nil_iff (mode : RenderMode) : render mode rules = [] ↔ rules = [] := by
  refine ⟨fun hnone => ?_, fun hnone => hnone ▸ rfl⟩
  cases rules with
  | nil => rfl
  | cons rule rest =>
    rw [render, List.map_cons, Text.join_cons] at hnone
    exact absurd (List.append_eq_nil_iff.mp hnone).1 (text_ne_nil mode rule)

theorem countAll_pos (hsome : rules ≠ []) (hrules : ∀ rule ∈ rules, 0 < count rule) :
    0 < countAll rules := by
  obtain ⟨rule, rest, rfl⟩ := List.exists_cons_of_ne_nil hsome
  have hfirst := hrules rule List.mem_cons_self
  rw [countAll]
  omega

theorem WellFormed.count_pos (hrule : rule.WellFormed) : 0 < rule.count := by
  induction hrule with
  | style _ hsome _ => exact List.length_pos_iff.mpr hsome
  | atRule _ _ hsome _ ih => exact countAll_pos hsome ih

theorem countAll_eq_zero_iff (hrules : ∀ rule ∈ rules, rule.WellFormed) :
    countAll rules = 0 ↔ rules = [] := by
  refine ⟨fun hzero => ?_, fun hnone => hnone ▸ rfl⟩
  by_contra hsome
  have hpositive := countAll_pos hsome fun rule hrule => (hrules rule hrule).count_pos
  omega

end Rule

namespace Compile

/-! ### Compiling -/

variable {selector key inner : Text}

/-- A list with a selector leads to such lists only. -/
theorem split_below?_ne_nil (hselector : Selector.split selector ≠ [])
    (hbelow : below? selector key = some inner) : Selector.split inner ≠ [] := by
  rw [below?] at hbelow
  cases hkind : KeyKind.of key with
  | atRule =>
    simp only [hkind, Option.some.injEq] at hbelow
    exact hbelow ▸ hselector
  | modifier =>
    simp only [hkind, Option.some.injEq] at hbelow
    rw [← hbelow]
    exact Selector.split_resolveModifier_ne_nil hselector
      (Selector.split_ne_nil_of_modifier hkind)
  | plain =>
    simp only [hkind] at hbelow
    split at hbelow
    · exact absurd hbelow.symm (Option.some_ne_none inner)
    · rename_i hkey
      rw [← Option.some.inj hbelow]
      exact Selector.split_joinDescendant_ne_nil hselector hkey

/-- Collapsing an at-rule key keeps its start. -/
theorem head?_collapse (hkind : KeyKind.of key = .atRule) : key.collapse.head? = some '@' := by
  have hat : key.trimStart.head? = some '@' := by
    rw [KeyKind.of] at hkind
    split at hkind
    · rename_i hkey
      exact of_decide_eq_true hkey
    · split at hkind <;> exact absurd hkind (by decide)
  obtain ⟨rest, hstart⟩ := List.head?_eq_some_iff.mp hat
  -- The first visible character is the same before and after.
  have hvisible : key.visible = '@' :: Text.visible rest := by
    rw [← Text.visible_trimStart, hstart]
    rfl
  obtain ⟨c, others, hcollapse, hc⟩ :=
    (Text.tight_collapse (hvisible ▸ List.cons_ne_nil _ _)).starts
  have hsame := Text.visible_collapse key
  rw [hcollapse, hvisible, Text.visible, List.filter_cons_of_pos (by simp [hc])] at hsame
  rw [hcollapse, (List.cons.inj hsame).1]
  rfl

theorem wellFormed_ownRule (hselector : Selector.split selector ≠ []) (description : Description) :
    ∀ rule ∈ ownRule selector description, rule.WellFormed := by
  intro rule hrule
  rw [ownRule] at hrule
  split at hrule
  · exact absurd hrule List.not_mem_nil
  · rename_i hsome
    rw [List.mem_singleton.mp hrule]
    refine .style hselector (hsome ∘ List.isEmpty_iff.mpr) fun declaration hdeclaration => ?_
    obtain ⟨entry, hentry, hmem⟩ := List.mem_flatMap.mp hdeclaration
    cases entry with
    | declaration property value => exact Declaration.isShown_of_mem_normalize hmem
    | _ => exact absurd hmem List.not_mem_nil

theorem wellFormed_guarded {rules : List Rule} (hrules : ∀ rule ∈ rules, rule.WellFormed)
    (key : Text) : ∀ rule ∈ guarded key rules, rule.WellFormed := by
  intro rule hrule
  rw [guarded] at hrule
  split at hrule
  · rename_i hkind
    rw [wrap] at hrule
    split at hrule
    · exact absurd hrule List.not_mem_nil
    · rename_i hsome
      rw [List.mem_singleton.mp hrule]
      exact .atRule key.collapse_collapse (head?_collapse hkind) (hsome ∘ List.isEmpty_iff.mpr)
        hrules
  · exact hrules rule hrule

mutual

theorem wellFormed_rulesUnder : ∀ (value : Value) (key selector : Text),
    Selector.split selector ≠ [] → ∀ rule ∈ rulesUnder selector key value, rule.WellFormed
  | .nested body, key, selector, hselector => by
    rw [rulesUnder_nested]
    cases hbelow : below? selector key with
    | none => exact List.forall_mem_nil _
    | some inner =>
      have hinner := split_below?_ne_nil hselector hbelow
      refine wellFormed_guarded (List.forall_mem_append.mpr ⟨?_, ?_⟩) key
      · exact wellFormed_ownRule hinner body
      · exact wellFormed_nestedRules body inner hinner
  | .absent, _, _, _ => List.forall_mem_nil _
  | .flag _, _, _, _ => List.forall_mem_nil _
  | .number _, _, _, _ => List.forall_mem_nil _
  | .text _, _, _, _ => List.forall_mem_nil _
  | .list _, _, _, _ => List.forall_mem_nil _

theorem wellFormed_nestedRules : ∀ (entries : List (Text × Value)) (selector : Text),
    Selector.split selector ≠ [] → ∀ rule ∈ nestedRules selector entries, rule.WellFormed
  | [], _, _ => List.forall_mem_nil _
  | (key, value) :: rest, selector, hselector =>
    List.forall_mem_append.mpr ⟨wellFormed_rulesUnder value key selector hselector,
      wellFormed_nestedRules rest selector hselector⟩

end

theorem wellFormed_rules {root : Text} (hroot : Selector.split root ≠ [])
    (description : Description) : ∀ rule ∈ rules root description, rule.WellFormed :=
  List.forall_mem_append.mpr ⟨wellFormed_ownRule hroot description,
    wellFormed_nestedRules description root hroot⟩

/-- All rules are well-formed, the rules, their text and their count are empty together, and what comes after the block of the description itself is nested, as the mark of the walk tells. -/
theorem wellFormed_style (mode : RenderMode) {root : Text} (hroot : Selector.split root ≠ [])
    (description : Description) :
    (∀ rule ∈ (style mode root description).rules, rule.WellFormed) ∧
      ((style mode root description).rules = [] ↔ (style mode root description).text = []) ∧
      ((style mode root description).text = [] ↔ (style mode root description).count = 0) ∧
      (∃ nested, (style mode root description).rules = ownRule root description ++ nested ∧
        ((style mode root description).hasNested = true ↔ nested ≠ [])) ∧
      walked mode root description = style mode root description := by
  have hrules := wellFormed_rules hroot description
  have htext : (style mode root description).text = [] ↔ rules root description = [] :=
    Rule.render_eq_nil_iff mode
  have hcount : (style mode root description).count = 0 ↔ rules root description = [] :=
    Rule.countAll_eq_zero_iff hrules
  refine ⟨hrules, htext.symm, htext.trans hcount.symm,
    ⟨nestedRules root description, rfl, ?_⟩, walked_eq_style mode root description⟩
  show (!(nestedRules root description).isEmpty) = true ↔ _
  rw [Bool.not_eq_true', List.isEmpty_eq_false_iff]

/-- Brackets and quotes are left open at every level, one key has no parts, and nothing is declared at the top. -/
def openEnds : Description :=
  [(" @media  print".toList,
      .nested [("&:is(\x22, b".toList, .nested [("lineHeight".toList, .number ⟨0x3ff0000000000000⟩)]),
        (" , ".toList, .nested [("color".toList, .text "red".toList)])]),
    ("[a='".toList, .nested [("@supports x".toList, .nested [("color".toList, .flag true)])])]

theorem wellFormed_openEnds :
    Selector.split ".a(, b".toList ≠ [] ∧
      (∀ rule ∈ (style .pretty ".a(, b".toList openEnds).rules, rule.WellFormed) ∧
      (style .pretty ".a(, b".toList openEnds).text =
        "@media print \x7b .a(, b:is(\x22, b \x7b line-height: 1; \x7d \x7d".toList ∧
      (style .pretty ".a(, b".toList openEnds).count = 1 ∧
      ownRule ".a(, b".toList openEnds = [] ∧
      (style .pretty ".a(, b".toList openEnds).hasNested = true := by
  have hroot : Selector.split ".a(, b".toList ≠ [] := by decide +kernel
  obtain ⟨hrules, -, -, -, -⟩ := wellFormed_style .pretty hroot openEnds
  exact ⟨hroot, hrules, by decide +kernel, by decide +kernel, by decide +kernel,
    by decide +kernel⟩

end Compile

end Stylesheet
