import Stylesheet.Compile.Style
import Stylesheet.Proofs.Selector.Nesting

/-!
# Nested descriptions

A description within a description is reached through keys, and each style block comes from such a body. The compiler hands a selector list down as text and splits it again at every key. What the block stands under is still what the keys say one after another, part by part: the list of the root nested under each key on the path to the body.
-/

namespace Stylesheet

namespace Rule

mutual

/-- The style blocks of a rule, in order, within at-rules or not. -/
def blocks : Rule → List (Text × List Declaration)
  | .style selector declarations => [(selector, declarations)]
  | .atRule _ rules => blocksOfAll rules
  | .keyframes _ _ => []

def blocksOfAll : List Rule → List (Text × List Declaration)
  | [] => []
  | rule :: rest => blocks rule ++ blocksOfAll rest

end

theorem blocksOfAll_append (rules more : List Rule) :
    blocksOfAll (rules ++ more) = blocksOfAll rules ++ blocksOfAll more := by
  induction rules with
  | nil => rfl
  | cons rule rest ih => rw [List.cons_append, blocksOfAll, blocksOfAll, ih, List.append_assoc]

end Rule

namespace Compile

open Selector (Denotes IsKey nest)

/-! ### Bodies -/

/-- A nested description and the keys through which it is reached, at-rules included. -/
structure Body where
  path : List Text
  description : Description

mutual

/-- The bodies below a description, each before those it contains. -/
def bodies (path : List Text) : List (Text × Value) → List Body
  | [] => []
  | (key, value) :: rest => bodiesUnder path key value ++ bodies path rest

/-- A descendant without a selector is passed over. -/
def bodiesUnder (path : List Text) (key : Text) : Value → List Body
  | .nested body =>
    if KeyKind.of key = .plain ∧ Selector.split key = [] then []
    else ⟨path ++ [key], body⟩ :: bodies (path ++ [key]) body
  | _ => []

end

mutual

/-- The keys of modifiers and descendants at any depth, also below at-rules. -/
def selectorKeys : List (Text × Value) → List Text
  | [] => []
  | (key, value) :: rest => selectorKeysUnder key value ++ selectorKeys rest

def selectorKeysUnder (key : Text) : Value → List Text
  | .nested body =>
    if KeyKind.of key = .atRule then selectorKeys body else key :: selectorKeys body
  | _ => []

end

/-- The block of a body, with its selectors part by part, if there are declarations in it. -/
def Body.block? (roots : List Text) (body : Body) : Option (List Text × List Declaration) :=
  if (ownDeclarations body.description).isEmpty then none
  else some (body.path.foldl nest roots, ownDeclarations body.description)

/-- A block with its selector list split. -/
def splitBlock (block : Text × List Declaration) : List Text × List Declaration :=
  (Selector.split block.1, block.2)

/-! ### Blocks -/

theorem blocks_wrap (heading : Text) (rules : List Rule) :
    Rule.blocksOfAll (wrap heading rules) = Rule.blocksOfAll rules := by
  rw [wrap]
  split
  · rename_i hempty
    rw [List.isEmpty_iff.mp hempty]
  · rw [Rule.blocksOfAll, Rule.blocks, Rule.blocksOfAll, List.append_nil]

variable {roots path : List Text} {selector : Text}

/-- The own block of a body comes before the blocks of the bodies in it. -/
theorem blocks_body {body : Description} (hselector : Denotes selector (path.foldl nest roots))
    (hnested : (Rule.blocksOfAll (nestedRules selector body)).map splitBlock =
      (bodies path body).filterMap (Body.block? roots)) :
    (Rule.blocksOfAll (ownRule selector body ++ nestedRules selector body)).map splitBlock =
      (Body.mk path body :: bodies path body).filterMap (Body.block? roots) := by
  rw [Rule.blocksOfAll_append, List.map_append, hnested, List.filterMap_cons, ownRule,
    Body.block?]
  split
  · rfl
  · show splitBlock (selector, ownDeclarations body) :: _ = _
    rw [splitBlock, hselector.split_eq]
    rfl

mutual

theorem blocks_rulesUnder (roots : List Text) : ∀ (value : Value) (key selector : Text)
    (path : List Text), Denotes selector (path.foldl nest roots) →
    (∀ other ∈ selectorKeysUnder key value, IsKey other) →
    (Rule.blocksOfAll (rulesUnder selector key value)).map splitBlock =
      (bodiesUnder path key value).filterMap (Body.block? roots)
  | .nested body, key, selector, path, hselector, hkeys => by
    have hpath : (path ++ [key]).foldl nest roots = nest (path.foldl nest roots) key := by
      rw [List.foldl_append]
      rfl
    -- Whatever the kind of the key, what remains is that the inner list denotes the nested parts.
    have hbody (inner : Text) (hinner : Denotes inner (nest (path.foldl nest roots) key))
        (hbelow : ∀ other ∈ selectorKeys body, IsKey other) :
        (Rule.blocksOfAll (ownRule inner body ++ nestedRules inner body)).map splitBlock =
          (Body.mk (path ++ [key]) body :: bodies (path ++ [key]) body).filterMap
            (Body.block? roots) := by
      rw [← hpath] at hinner
      exact blocks_body hinner (blocks_nestedRules roots body inner (path ++ [key]) hinner hbelow)
    rw [selectorKeysUnder] at hkeys
    cases hkind : KeyKind.of key with
    | atRule =>
      rw [hkind, if_pos rfl] at hkeys
      have hrules : rulesUnder selector key (.nested body) =
          wrap key (ownRule selector body ++ nestedRules selector body) := by
        simp only [rulesUnder, hkind]
      have hsame : nest (path.foldl nest roots) key = path.foldl nest roots := by
        rw [nest, hkind]
      rw [hrules, blocks_wrap, bodiesUnder, if_neg (by simp [hkind])]
      refine hbody selector ?_ hkeys
      rw [hsame]
      exact hselector
    | modifier =>
      rw [hkind, if_neg (by decide)] at hkeys
      obtain ⟨hkey, hbelow⟩ := List.forall_mem_cons.mp hkeys
      have hrules : rulesUnder selector key (.nested body) =
          ownRule (Selector.resolveModifier selector key) body
            ++ nestedRules (Selector.resolveModifier selector key) body := by
        simp only [rulesUnder, hkind]
      rw [hrules, bodiesUnder, if_neg (by simp [hkind])]
      exact hbody _ (hselector.resolveModifier hkey hkind) hbelow
    | plain =>
      rw [hkind, if_neg (by decide)] at hkeys
      obtain ⟨hkey, hbelow⟩ := List.forall_mem_cons.mp hkeys
      by_cases hparts : Selector.split key = []
      · have hrules : rulesUnder selector key (.nested body) = [] := by
          simp [rulesUnder, hkind, Selector.joinDescendant_of_split_eq_nil selector hparts]
        rw [hrules, bodiesUnder, if_pos ⟨hkind, hparts⟩]
        rfl
      · have hinner := hselector.joinDescendant hkey hkind hparts
        have hrules : rulesUnder selector key (.nested body) =
            ownRule (Selector.joinDescendant selector key) body
              ++ nestedRules (Selector.joinDescendant selector key) body := by
          simp [rulesUnder, hkind, hinner.ne_nil]
        rw [hrules, bodiesUnder, if_neg fun hboth => hparts hboth.2]
        exact hbody _ hinner hbelow
  | .absent, _, _, _, _, _ => rfl
  | .flag _, _, _, _, _, _ => rfl
  | .number _, _, _, _, _, _ => rfl
  | .text _, _, _, _, _, _ => rfl
  | .list _, _, _, _, _, _ => rfl

theorem blocks_nestedRules (roots : List Text) : ∀ (entries : List (Text × Value))
    (selector : Text) (path : List Text), Denotes selector (path.foldl nest roots) →
    (∀ key ∈ selectorKeys entries, IsKey key) →
    (Rule.blocksOfAll (nestedRules selector entries)).map splitBlock =
      (bodies path entries).filterMap (Body.block? roots)
  | [], _, _, _, _ => rfl
  | (key, value) :: rest, selector, path, hselector, hkeys => by
    rw [selectorKeys] at hkeys
    rw [nestedRules, bodies, Rule.blocksOfAll_append, List.map_append, List.filterMap_append,
      blocks_rulesUnder roots value key selector path hselector
        fun other hother => hkeys other (List.mem_append_left _ hother),
      blocks_nestedRules roots rest selector path hselector
        fun other hother => hkeys other (List.mem_append_right _ hother)]

end

/-- Every style block comes from a body with declarations, in order, and stands under the parts of the root nested under each key on the path. -/
theorem blocks_style (mode : RenderMode) {root : Text} (hroot : Selector.WellBracketed root)
    (hparts : Selector.split root ≠ []) {description : Description}
    (hkeys : ∀ key ∈ selectorKeys description, IsKey key) :
    (Rule.blocksOfAll (style mode root description).rules).map splitBlock =
      (Body.mk [] description :: bodies [] description).filterMap
        (Body.block? (Selector.split root)) := by
  have hdenotes := Selector.denotes_split hroot hparts
  exact blocks_body hdenotes
    (blocks_nestedRules (Selector.split root) description root [] hdenotes hkeys)

/-- A modifier with marks at the top and inside of brackets, and below an at-rule descendants with a comma in quotes. -/
def printLinks : Description :=
  [("&:hover, :is(&, x)".toList, .nested [("color".toList, .text "red".toList)]),
    ("@media print".toList,
      .nested [("ul, [title=',']".toList, .nested [("color".toList, .text "blue".toList)])])]

theorem blocks_printLinks :
    Selector.WellBracketed ".a, .b".toList ∧ Selector.split ".a, .b".toList ≠ [] ∧
      (∀ key ∈ selectorKeys printLinks, IsKey key) ∧
      (Rule.blocksOfAll (style .pretty ".a, .b".toList printLinks).rules).map splitBlock =
        (Body.mk [] printLinks :: bodies [] printLinks).filterMap
          (Body.block? (Selector.split ".a, .b".toList)) ∧
      (Rule.blocksOfAll (style .pretty ".a, .b".toList printLinks).rules).map
          (fun block => (splitBlock block).1) =
        [[".a:hover".toList, ":is(.a, x)".toList, ".b:hover".toList, ":is(.b, x)".toList],
          [".a ul".toList, ".b ul".toList, ".a [title=',']".toList, ".b [title=',']".toList]] := by
  have hroot : Selector.WellBracketed ".a, .b".toList := by decide +kernel
  have hparts : Selector.split ".a, .b".toList ≠ [] := by decide +kernel
  have hkeys : ∀ key ∈ selectorKeys printLinks, IsKey key := by decide +kernel
  exact ⟨hroot, hparts, hkeys, blocks_style .pretty hroot hparts hkeys, by decide +kernel⟩

end Compile

end Stylesheet
