import Stylesheet.Proofs.Compile.Entries

/-!
# Down a path of keys

A body may stand below other keys, one per level. The at-rules among them say what is wrapped around the rules of the body and the others say under which list the body is compiled, and the two do not get in each other's way: an at-rule key leaves the list as it is, any other key wraps nothing, and where a key leads nowhere nothing is left to wrap. So at-rules may be moved past the other keys as long as each kind keeps its order.
-/

namespace Stylesheet

/-- A body below a path of keys, the first of them outermost. -/
def Description.under (path : List Text) (body : Description) : Description :=
  path.foldr (fun key inner => [(key, .nested inner)]) body

namespace Compile

open Description (under)

variable {root key : Text} {path : List Text} {body : Description}

/-- The selector list that a path leads to. -/
def reach? (root : Text) (path : List Text) : Option Text := path.foldlM below? root

/-! ### What each kind of key leaves to the other -/

theorem below?_of_isAtRuleKey (hkey : isAtRuleKey key = true) : below? root key = some root := by
  rw [below?, KeyKind.of, if_pos hkey]

theorem guarded_of_not_isAtRuleKey (hkey : isAtRuleKey key = false) (inner : List Rule) :
    guarded key inner = inner := by
  have hkind : KeyKind.of key ≠ .atRule := by
    rw [KeyKind.of, if_neg (by simp [hkey])]
    split <;> exact KeyKind.noConfusion
  rw [guarded, if_neg hkind]

theorem reach?_filter (root : Text) (path : List Text) :
    reach? root (path.filter (!isAtRuleKey ·)) = reach? root path := by
  have hstep : (fun selector key =>
      if !isAtRuleKey key then below? selector key else pure selector) = below? := by
    funext selector key
    cases hkey : isAtRuleKey key with
    | true => exact (below?_of_isAtRuleKey hkey).symm
    | false => rfl
  rw [reach?, List.foldlM_filter, hstep, reach?]

theorem foldr_guarded_filter (path : List Text) (inner : List Rule) :
    (path.filter isAtRuleKey).foldr guarded inner = path.foldr guarded inner := by
  have hstep : (fun key rules => if isAtRuleKey key then guarded key rules else rules) =
      guarded := by
    funext key rules
    cases hkey : isAtRuleKey key with
    | true => rfl
    | false => exact (guarded_of_not_isAtRuleKey hkey rules).symm
  rw [List.foldr_filter, hstep]

/-! ### Rules at the end of a path -/

theorem foldr_guarded_nil (path : List Text) : path.foldr guarded [] = [] := by
  induction path with
  | nil => rfl
  | cons key rest ih => rw [List.foldr_cons, ih, guarded_nil]

theorem nestedRules_below (root key : Text) (body : Description) :
    nestedRules root [(key, .nested body)] =
      (below? root key).elim [] fun inner => guarded key (rules inner body) := by
  rw [nestedRules, nestedRules, List.append_nil, rulesUnder_nested]

theorem rules_below (root key : Text) (body : Description) :
    rules root [(key, .nested body)] = nestedRules root [(key, .nested body)] := by
  have hown : ownDeclarations [(key, .nested body)] = [] := by
    rw [ownDeclarations_cons, entryDeclarations_nested]
    rfl
  rw [rules, ownRule, hown]
  rfl

/-- The path leads to a list or nowhere, and its at-rules go around whatever is found there. -/
theorem rules_under (root : Text) (path : List Text) (body : Description) :
    rules root (under path body) =
      path.foldr guarded ((reach? root path).elim [] fun inner => rules inner body) := by
  induction path generalizing root with
  | nil => rfl
  | cons key rest ih =>
    have hpath : under (key :: rest) body = [(key, .nested (under rest body))] := rfl
    rw [hpath, rules_below, nestedRules_below, reach?, List.foldlM_cons, List.foldr_cons]
    cases below? root key with
    | none =>
      show [] = guarded key (rest.foldr guarded [])
      rw [foldr_guarded_nil, guarded_nil]
    | some inner => exact congrArg (guarded key) (ih inner)

/-- Everything below a path of at least one key is nested. -/
theorem nestedRules_under (hpath : path ≠ []) :
    nestedRules root (under path body) = rules root (under path body) := by
  obtain ⟨key, rest, rfl⟩ := List.exists_cons_of_ne_nil hpath
  exact (rules_below root key (under rest body)).symm

/-- Two paths with the same at-rule keys in order and the same other keys in order lead to the same. -/
theorem style_under {left right : List Text}
    (hheadings : left.filter isAtRuleKey = right.filter isAtRuleKey)
    (hselectors : left.filter (!isAtRuleKey ·) = right.filter (!isAtRuleKey ·))
    (mode : RenderMode) (root : Text) (body : Description) :
    style mode root (under left body) = style mode root (under right body) := by
  have hrules : rules root (under left body) = rules root (under right body) := by
    rw [rules_under, rules_under, ← reach?_filter root left, ← foldr_guarded_filter left,
      hselectors, hheadings, reach?_filter, foldr_guarded_filter]
  have hempty : left = [] ↔ right = [] := by
    rw [← List.length_eq_zero_iff, ← List.length_eq_zero_iff,
      List.length_eq_length_filter_add isAtRuleKey, hheadings, hselectors,
      ← List.length_eq_length_filter_add]
  by_cases hleft : left = []
  · rw [hleft, hempty.mp hleft]
  · rw [style, style, nestedRules_under hleft, nestedRules_under (mt hempty.mpr hleft), hrules]

def interleaved : List Text :=
  ["@media print".toList, "&:hover".toList, " @supports (gap: 0)".toList, "a, b".toList]

def apart : List Text :=
  ["&:hover".toList, "a, b".toList, "@media print".toList, " @supports (gap: 0)".toList]

theorem style_under_interleaved :
    interleaved.filter isAtRuleKey = apart.filter isAtRuleKey ∧
      interleaved.filter (!isAtRuleKey ·) = apart.filter (!isAtRuleKey ·) ∧
      style .minified ".x".toList (under interleaved [("gap".toList, .text "0".toList)]) =
        style .minified ".x".toList (under apart [("gap".toList, .text "0".toList)]) ∧
      (style .minified ".x".toList (under apart [("gap".toList, .text "0".toList)])).text =
        ("@media print\x7b@supports (gap: 0)\x7b".toList ++
          ".x:hover a,.x:hover b\x7bgap:0\x7d\x7d\x7d".toList) := by
  have hheadings : interleaved.filter isAtRuleKey = apart.filter isAtRuleKey := by decide +kernel
  have hselectors : interleaved.filter (!isAtRuleKey ·) = apart.filter (!isAtRuleKey ·) := by
    decide +kernel
  exact ⟨hheadings, hselectors, style_under hheadings hselectors .minified _ _, by decide +kernel⟩

end Compile

end Stylesheet
