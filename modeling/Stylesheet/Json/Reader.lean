import Stylesheet.Json.Tree

/-!
# Reading JSON text

Each token takes at least one character, so cutting a text into tokens ends; the tree is then built by a single pass over the tokens. The state of that pass is what may come next together with the brackets that are still open, innermost first.
-/

namespace Stylesheet

namespace Json

/-! ### Cutting into tokens -/

private theorem stringRest?_length {text : Text} {literal : StringLiteral} {after : Text}
    (hread : stringRest? text = some (literal, after)) : after.length < text.length := by
  fun_induction stringRest? text generalizing literal after with
  | case1 => simp at hread
  | case2 rest => simp at hread; simp [← hread.2]
  | case3 a b c d rest ih =>
    simp only [Option.bind_eq_some_iff, Option.map_eq_some_iff] at hread
    obtain ⟨_, _, ⟨_, inner⟩, hrest, heq⟩ := hread
    have := ih hrest
    cases heq
    simp only [List.length_cons]
    omega
  | case4 c rest hnot ih =>
    simp only [Option.bind_eq_some_iff, Option.map_eq_some_iff] at hread
    obtain ⟨_, _, ⟨_, inner⟩, hrest, heq⟩ := hread
    have := ih hrest
    cases heq
    simp only [List.length_cons]
    omega
  | case5 => simp at hread
  | case6 c rest _ _ _ _ ih =>
    simp only [Option.map_eq_some_iff] at hread
    obtain ⟨⟨_, inner⟩, hrest, heq⟩ := hread
    have := ih hrest
    cases heq
    simp only [List.length_cons]
    omega

private theorem dropWhile_length (p : Char → Bool) (text : Text) :
    (text.dropWhile p).length ≤ text.length :=
  (List.dropWhile_suffix p).length_le

theorem tokenRest?_length {c : Char} {rest after : Text} {token : Token}
    (hread : tokenRest? c rest = some (token, after)) : after.length ≤ rest.length := by
  unfold tokenRest? at hread
  split at hread
  case h_7 =>
    simp only [Option.map_eq_some_iff] at hread
    obtain ⟨⟨_, _⟩, hrest, heq⟩ := hread
    cases heq
    exact Nat.le_of_lt (stringRest?_length hrest)
  case h_8 =>
    split at hread <;> simp only [Option.map_eq_some_iff] at hread <;>
      obtain ⟨_, _, heq⟩ := hread <;> cases heq <;> exact dropWhile_length _ _
  all_goals cases hread; exact Nat.le_refl _

def tokens? : Text → Option (List Token)
  | [] => some []
  | c :: rest =>
    if isSpace c then tokens? rest
    else match _hread : tokenRest? c rest with
      | none => none
      | some (token, after) => (tokens? after).map (token :: ·)
termination_by text => text.length
decreasing_by
  · simp
  · have := tokenRest?_length _hread
    simp only [List.length_cons]
    omega

/-! ### Building the tree -/

/-- An open bracket with what was read inside it, last first; in an object the key of the value that is being read stands apart. -/
inductive Open
  | array (items : List Tree)
  | object (members : List (StringLiteral × Tree)) (key : StringLiteral)

/-- What may come next. -/
inductive Expected
  /-- A value. -/
  | value
  /-- A value or the end of the array just begun. -/
  | firstItem
  /-- A key or the end of the object just begun. -/
  | firstKey
  /-- A key, with the members before it. -/
  | key (members : List (StringLiteral × Tree))
  /-- The colon after a key. -/
  | colon (members : List (StringLiteral × Tree)) (key : StringLiteral)
  /-- A comma or a closing bracket, after a whole value. -/
  | after (tree : Tree)

structure Builder where
  expected : Expected
  brackets : List Open

namespace Builder

def start : Builder := ⟨.value, []⟩

/-- The start of a value; `closable` is the tree that stands there if the bracket closes at once. -/
def beginValue? (brackets : List Open) : Token → Option Builder
  | .value tree => some ⟨.after tree, brackets⟩
  | .string literal => some ⟨.after (.string literal), brackets⟩
  | .beginArray => some ⟨.firstItem, .array [] :: brackets⟩
  | .beginObject => some ⟨.firstKey, brackets⟩
  | _ => none

def step? (state : Builder) (token : Token) : Option Builder :=
  match state.expected, state.brackets, token with
  | .value, brackets, token => beginValue? brackets token
  | .firstItem, .array _ :: brackets, .endArray => some ⟨.after (.array []), brackets⟩
  | .firstItem, brackets, token => beginValue? brackets token
  | .firstKey, brackets, .endObject => some ⟨.after (.object []), brackets⟩
  | .firstKey, brackets, .string key => some ⟨.colon [] key, brackets⟩
  | .key members, brackets, .string key => some ⟨.colon members key, brackets⟩
  | .colon members key, brackets, .colon => some ⟨.value, .object members key :: brackets⟩
  | .after tree, .array items :: brackets, .comma => some ⟨.value, .array (tree :: items) :: brackets⟩
  | .after tree, .array items :: brackets, .endArray =>
    some ⟨.after (.array (tree :: items).reverse), brackets⟩
  | .after tree, .object members key :: brackets, .comma =>
    some ⟨.key ((key, tree) :: members), brackets⟩
  | .after tree, .object members key :: brackets, .endObject =>
    some ⟨.after (.object ((key, tree) :: members).reverse), brackets⟩
  | _, _, _ => none

/-- The tree, once a whole value was read and every bracket is closed. -/
def finish? (state : Builder) : Option Tree :=
  match state.expected, state.brackets with
  | .after tree, [] => some tree
  | _, _ => none

end Builder

namespace Tree

def ofTokens? (tokens : List Token) : Option Tree :=
  (tokens.foldlM Builder.step? Builder.start).bind Builder.finish?

def ofText? (text : Text) : Option Tree := (tokens? text).bind ofTokens?

end Tree

end Json

end Stylesheet
