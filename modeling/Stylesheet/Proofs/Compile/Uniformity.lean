import Stylesheet.Proofs.Compile.Shape
import Stylesheet.Proofs.Rule.Reading
import Stylesheet.Proofs.Selector.Mold

/-!
# Rule text and the identifier in it

The text that a description compiles to for a class comes from a mold, whatever is balanced in the description or not: one and the same mold for all identifiers. Every selector list in it has a gap, as a key either has no parts, and then there is no rule, or leads from a list with a gap to another. So no text serves two identifiers, and the memory of delivered texts can do without those that have an identifier of their own.
-/

namespace Stylesheet

open Text (IsFragment)

namespace Mold

variable {mold : Mold} {identifier : Identifier}

/-- A selector list as it is written. -/
def selectorText (mold : Mold) : RenderMode → Mold
  | .pretty => mold
  | .minified => join [','] mold.split

theorem selectorText_fill (hidentifier : IsFragment identifier) (mold : Mold)
    (mode : RenderMode) : Rule.selectorText (fill identifier mold) mode =
      fill identifier (mold.selectorText mode) := by
  cases mode with
  | pretty => rfl
  | minified => rw [Rule.selectorText, split_fill hidentifier, selectorText, fill_join]

theorem mem_selectorText (hgap : none ∈ mold) (mode : RenderMode) :
    none ∈ mold.selectorText mode := by
  cases mode with
  | pretty => exact hgap
  | minified =>
    obtain ⟨part, hpart, hpartGap⟩ := exists_mem_split hgap
    exact mem_join hpart hpartGap

/-- A style block under a selector list. -/
def block (mode : RenderMode) (mold : Mold) (declarations : List Declaration) : Mold :=
  mold.selectorText mode ++ ofText (Rule.openBrace mode)
    ++ ofText (Rule.declarationsText declarations mode) ++ ofText (Rule.closeBrace mode)

/-- An at-rule around rules that have their texts from these molds. -/
def group (mode : RenderMode) (heading : Text) (molds : List Mold) : Mold :=
  ofText heading ++ ofText (Rule.openBrace mode)
    ++ molds.flatMap (ofText (Rule.innerGap mode) ++ ·) ++ ofText (Rule.closeBrace mode)

theorem block_fill (hidentifier : IsFragment identifier) (mode : RenderMode) (mold : Mold)
    (declarations : List Declaration) :
    Rule.text mode (.style (fill identifier mold) declarations) =
      fill identifier (mold.block mode declarations) := by
  rw [Rule.text, Rule.blockText, selectorText_fill hidentifier, block]
  simp only [fill_append, fill_ofText]

theorem group_fill (mode : RenderMode) (heading : Text) {rules : List Rule} {molds : List Mold}
    (htexts : rules.map (Rule.text mode) = molds.map (fill identifier)) :
    Rule.text mode (.atRule heading rules) = fill identifier (group mode heading molds) := by
  rw [Rule.text, Rule.innerText_eq, htexts, group, List.flatMap_map]
  simp only [fill_append, fill_ofText, fill_flatMap]

theorem mem_block (hgap : none ∈ mold) (mode : RenderMode) (declarations : List Declaration) :
    none ∈ mold.block mode declarations := by
  apply List.mem_append_left
  apply List.mem_append_left
  exact List.mem_append_left _ (mem_selectorText hgap mode)

theorem mem_group {molds : List Mold} (hmold : mold ∈ molds) (hgap : none ∈ mold)
    (mode : RenderMode) (heading : Text) : none ∈ group mode heading molds := by
  apply List.mem_append_left
  apply List.mem_append_right
  exact List.mem_flatMap.mpr ⟨mold, hmold, List.mem_append_right _ hgap⟩

end Mold

namespace Compile

variable {mode : RenderMode} {mold : Mold} {family other : Identifier → List Rule}

/-! ### Families of rules -/

/-- For every identifier the rules have their texts from the same molds, and every mold has a gap. -/
def Molded (mode : RenderMode) (family : Identifier → List Rule) : Prop :=
  ∃ molds : List Mold, (∀ mold ∈ molds, none ∈ mold) ∧
    ∀ identifier, IsFragment identifier →
      (family identifier).map (Rule.text mode) = molds.map (Mold.fill identifier)

theorem Molded.nil : Molded mode fun _ => [] :=
  ⟨[], List.forall_mem_nil _, fun _ _ => rfl⟩

theorem Molded.append (hfamily : Molded mode family) (hother : Molded mode other) :
    Molded mode fun identifier => family identifier ++ other identifier := by
  obtain ⟨molds, hgaps, htexts⟩ := hfamily
  obtain ⟨more, hmoreGaps, hmoreTexts⟩ := hother
  refine ⟨molds ++ more, List.forall_mem_append.mpr ⟨hgaps, hmoreGaps⟩, ?_⟩
  intro identifier hidentifier
  rw [List.map_append, List.map_append, htexts identifier hidentifier,
    hmoreTexts identifier hidentifier]

theorem Molded.congr (hfamily : Molded mode family)
    (hsame : ∀ identifier, IsFragment identifier → other identifier = family identifier) :
    Molded mode other := by
  obtain ⟨molds, hgaps, htexts⟩ := hfamily
  refine ⟨molds, hgaps, ?_⟩
  intro identifier hidentifier
  rw [hsame identifier hidentifier, htexts identifier hidentifier]

theorem Molded.singleton {rule : Identifier → Rule} (hgap : none ∈ mold)
    (htext : ∀ identifier, IsFragment identifier →
      Rule.text mode (rule identifier) = mold.fill identifier) :
    Molded mode fun identifier => [rule identifier] :=
  ⟨[mold], List.forall_mem_singleton.mpr hgap, fun identifier hidentifier =>
    congrArg ([·]) (htext identifier hidentifier)⟩

theorem molded_ownRule (mode : RenderMode) (hgap : none ∈ mold) (description : Description) :
    Molded mode fun identifier => ownRule (mold.fill identifier) description := by
  by_cases hempty : (ownDeclarations description).isEmpty
  · exact Molded.nil.congr fun _ _ => if_pos hempty
  · have hstyle : Molded mode fun identifier =>
        [.style (mold.fill identifier) (ownDeclarations description)] :=
      .singleton (Mold.mem_block hgap mode _) fun _ hidentifier =>
        Mold.block_fill hidentifier mode mold _
    exact hstyle.congr fun _ _ => if_neg hempty

/-- An at-rule is left out for every identifier or for none. -/
theorem Molded.wrap (hfamily : Molded mode family) (heading : Text) :
    Molded mode fun identifier => Compile.wrap heading (family identifier) := by
  obtain ⟨molds, hgaps, htexts⟩ := hfamily
  have hempty {identifier : Identifier} (hidentifier : IsFragment identifier) :
      (family identifier).isEmpty ↔ molds = [] := by
    rw [List.isEmpty_iff, ← List.map_eq_nil_iff (f := Rule.text mode),
      htexts identifier hidentifier, List.map_eq_nil_iff]
  by_cases hnone : molds = []
  · refine Molded.nil.congr fun identifier hidentifier => ?_
    exact if_pos ((hempty hidentifier).mpr hnone)
  · obtain ⟨mold, hmold⟩ := List.exists_mem_of_ne_nil molds hnone
    have hatRule : Molded mode fun identifier =>
        [.atRule heading.collapse (family identifier)] :=
      .singleton (Mold.mem_group hmold (hgaps mold hmold) mode heading.collapse)
        fun identifier hidentifier => Mold.group_fill mode _ (htexts identifier hidentifier)
    exact hatRule.congr fun identifier hidentifier => if_neg (hnone ∘ (hempty hidentifier).mp)

/-! ### Whole descriptions -/

mutual

theorem molded_rulesUnder (mode : RenderMode) : ∀ (value : Value) (key : Text) (mold : Mold),
    none ∈ mold → Molded mode fun identifier => rulesUnder (mold.fill identifier) key value
  | .nested body, key, mold, hgap => by
    have hbody (inner : Mold) (hinner : none ∈ inner) : Molded mode fun identifier =>
        ownRule (inner.fill identifier) body ++ nestedRules (inner.fill identifier) body :=
      (molded_ownRule mode hinner body).append (molded_nestedRules mode body inner hinner)
    cases hkind : KeyKind.of key with
    | atRule =>
      simp only [rulesUnder, hkind]
      exact (hbody mold hgap).wrap key
    | modifier =>
      have hkey := Selector.split_ne_nil_of_modifier hkind
      refine (hbody _ (Mold.mem_resolveModifier hgap hkey)).congr fun identifier hidentifier => ?_
      simp only [rulesUnder, hkind, Mold.resolveModifier_fill hidentifier hgap]
    | plain =>
      simp only [rulesUnder, hkind, List.isEmpty_iff, Selector.joinDescendant_eq_nil_iff]
      split
      · exact .nil
      · rename_i hkey
        refine (hbody _ (Mold.mem_joinDescendant hgap hkey)).congr fun identifier hidentifier => ?_
        rw [Mold.joinDescendant_fill hidentifier hgap]
  | .absent, _, _, _ => .nil
  | .flag _, _, _, _ => .nil
  | .number _, _, _, _ => .nil
  | .text _, _, _, _ => .nil
  | .list _, _, _, _ => .nil

theorem molded_nestedRules (mode : RenderMode) : ∀ (entries : List (Text × Value)) (mold : Mold),
    none ∈ mold → Molded mode fun identifier => nestedRules (mold.fill identifier) entries
  | [], _, _ => .nil
  | (key, value) :: rest, mold, hgap =>
    (molded_rulesUnder mode value key mold hgap).append (molded_nestedRules mode rest mold hgap)

end

/-- The mold of a class selector. -/
def classMold : Mold := [some '.', none]

theorem fill_classMold (identifier : Identifier) :
    classMold.fill identifier = identifier.classSelector :=
  congrArg ('.' :: ·) (List.append_nil identifier)

theorem molded_rules (mode : RenderMode) (description : Description) :
    Molded mode fun identifier => rules identifier.classSelector description := by
  have hgap : none ∈ classMold := by decide
  have hparts :=
    (molded_ownRule mode hgap description).append (molded_nestedRules mode description _ hgap)
  refine hparts.congr fun identifier _ => ?_
  simp only [fill_classMold, rules]

theorem exists_mold (mode : RenderMode) (description : Description) :
    ∃ mold : Mold, (mold ≠ [] → none ∈ mold) ∧
      ∀ identifier : Identifier, IsFragment identifier →
        (style mode identifier.classSelector description).text = mold.fill identifier := by
  obtain ⟨molds, hgaps, htexts⟩ := molded_rules mode description
  refine ⟨Mold.join (Rule.outerGap mode) molds, ?_, ?_⟩
  · intro hne
    have hsome : molds ≠ [] := by
      rintro rfl
      exact hne rfl
    obtain ⟨mold, hmold⟩ := List.exists_mem_of_ne_nil molds hsome
    exact Mold.mem_join hmold (hgaps mold hmold)
  · intro identifier hidentifier
    rw [Mold.fill_join, ← htexts identifier hidentifier]
    rfl

/-- The text for a class is one sequence of constants for all identifiers, with the identifier between any two. There are at least two constants unless nothing is written, so no text serves two identifiers. -/
theorem text_style_eq_join (mode : RenderMode) (description : Description) :
    ∃ constants : List Text, constants ≠ [] ∧
      (∀ identifier : Identifier, IsFragment identifier →
        (style mode identifier.classSelector description).text =
          Text.join identifier constants) ∧
      (∀ identifier : Identifier, IsFragment identifier →
        (style mode identifier.classSelector description).text ≠ [] → 2 ≤ constants.length) ∧
      ∀ left right : Identifier, IsFragment left → IsFragment right → left ≠ right →
        (style mode left.classSelector description).text ≠ [] →
          (style mode left.classSelector description).text ≠
            (style mode right.classSelector description).text := by
  obtain ⟨mold, hmold, htext⟩ := exists_mold mode description
  have hgap {identifier : Identifier} (hidentifier : IsFragment identifier)
      (hne : (style mode identifier.classSelector description).text ≠ []) : none ∈ mold := by
    apply hmold
    rintro rfl
    exact hne (htext identifier hidentifier)
  refine ⟨mold.constants, mold.constants_ne_nil, ?_, ?_, ?_⟩
  · intro identifier hidentifier
    rw [Mold.join_constants, htext identifier hidentifier]
  · intro identifier hidentifier hne
    have hcount := List.count_pos_iff.mpr (hgap hidentifier hne)
    rw [Mold.length_constants]
    omega
  · intro left right hleft hright hdiffer hne hsame
    rw [htext left hleft, htext right hright] at hsame
    exact hdiffer (Mold.eq_of_fill_eq (hgap hleft hne) hsame)

/-- A quotation mark is closed by the next key, and the comma behind it cuts at the key after that. -/
def openQuotes : Description :=
  [("& \x22".toList, .nested [("&\x22, b".toList,
    .nested [(":hover".toList, .nested [("color".toList, .text "red".toList)])])])]

example : (style .minified (Identifier.classSelector "a-1".toList) openQuotes).text =
    ".a-1 \x22\x22:hover,b:hover\x7bcolor:red\x7d".toList := by decide +kernel

end Compile

end Stylesheet
