import Stylesheet.Compile.Notice
import Stylesheet.Rule

/-!
# Compiling descriptions

A description compiles against a selector into flat rules: its own declarations first, in one style block, and then the rules of its nested descriptions in the order of their keys. Nothing is written for a description without declarations, and an at-rule that would wrap nothing is left out. `notices` walks through the description in the same order and tells what was passed over.
-/

namespace Stylesheet

/-- The rules for a description with their text, the number of their declarations, and whether any of them comes from a nested description. -/
structure Compiled where
  rules : List Rule
  text : Text
  count : Nat
  hasNested : Bool

def Compiled.ofRules (mode : RenderMode) (rules : List Rule) (hasNested : Bool) : Compiled :=
  ⟨rules, Rule.render mode rules, Rule.countAll rules, hasNested⟩

namespace Compile

/-! ### Rules -/

def entryDeclarations : Entry → List Declaration
  | .declaration property value => Declaration.normalize property value
  | _ => []

/-- The declarations that stand directly in a description. -/
def ownDeclarations (description : Description) : List Declaration :=
  (Entry.ofDescription description).flatMap entryDeclarations

def ownRule (selector : Text) (description : Description) : List Rule :=
  if (ownDeclarations description).isEmpty then []
  else [.style selector (ownDeclarations description)]

def wrap (heading : Text) (rules : List Rule) : List Rule :=
  if rules.isEmpty then [] else [.atRule heading.collapse rules]

mutual

/-- The rules of the nested descriptions among the entries. -/
def nestedRules (selector : Text) : List (Text × Value) → List Rule
  | [] => []
  | (key, value) :: rest => rulesUnder selector key value ++ nestedRules selector rest

def rulesUnder (selector key : Text) : Value → List Rule
  | .nested body =>
    match KeyKind.of key with
    | .atRule => wrap key (ownRule selector body ++ nestedRules selector body)
    | .modifier =>
      let inner := Selector.resolveModifier selector key
      ownRule inner body ++ nestedRules inner body
    | .plain =>
      let inner := Selector.joinDescendant selector key
      if inner.isEmpty then [] else ownRule inner body ++ nestedRules inner body
  | _ => []

end

def rules (selector : Text) (description : Description) : List Rule :=
  ownRule selector description ++ nestedRules selector description

/-- Compiles against a selector, which is used as it is. -/
def style (mode : RenderMode) (selector : Text) (description : Description) : Compiled :=
  .ofRules mode (rules selector description) !(nestedRules selector description).isEmpty

/-! ### Notices -/

def declarationNotices (property : Text) (value : Value) : List Notice :=
  if (Declaration.propertyName property).isEmpty then []
  else unwritableNotices (Declaration.propertyName property) value

mutual

def notices (selector : Text) : List (Text × Value) → List Notice
  | [] => []
  | (key, value) :: rest => noticesUnder selector key value ++ notices selector rest

def noticesUnder (selector key : Text) : Value → List Notice
  | .nested body =>
    match KeyKind.of key with
    | .atRule => notices selector body
    | .modifier => notices (Selector.resolveModifier selector key) body
    | .plain =>
      let inner := Selector.joinDescendant selector key
      if inner.isEmpty then [.emptyDescendant selector] else notices inner body
  | value =>
    match Entry.classify key value with
    | .declaration property value => declarationNotices property value
    | .ignored key reason => [.ignored key selector reason]
    | _ => []

end

end Compile

end Stylesheet
