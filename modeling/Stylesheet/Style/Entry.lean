import Stylesheet.Style.Value

/-!
# Entries of a description

The start of a key and the shape of its value decide what an entry means. A key that starts with `@` belongs to an at-rule; otherwise one that starts with `:` or `[`, or holds an `&`, is a modifier of the current selector; every other key names a descendant if its value is a nested description and a property if not. At-rules and modifiers without a nested description mean nothing.
-/

namespace Stylesheet

inductive KeyKind
  | atRule
  | modifier
  | plain
deriving DecidableEq

def isAtRuleKey (key : Text) : Bool := key.trimStart.head? = some '@'

def isModifierKey (key : Text) : Bool :=
  key.trimStart.head? = some ':' || key.trimStart.head? = some '[' || key.any (· = '&')

def KeyKind.of (key : Text) : KeyKind :=
  if isAtRuleKey key then .atRule else if isModifierKey key then .modifier else .plain

inductive IgnoredReason
  | atRuleWithoutBlock
  | modifierWithoutBlock
deriving DecidableEq

def IgnoredReason.message : IgnoredReason → Text
  | .atRuleWithoutBlock => "at-rule without a nested block".toList
  | .modifierWithoutBlock => "modifier without a nested block".toList

inductive Entry
  | declaration (property : Text) (value : Value)
  | modifier (pattern : Text) (body : Description)
  | atRule (heading : Text) (body : Description)
  | descendant (selector : Text) (body : Description)
  | ignored (key : Text) (reason : IgnoredReason)

namespace Entry

def classify (key : Text) (value : Value) : Entry :=
  match KeyKind.of key, value with
  | .atRule, .nested body => .atRule key body
  | .atRule, _ => .ignored key .atRuleWithoutBlock
  | .modifier, .nested body => .modifier key body
  | .modifier, _ => .ignored key .modifierWithoutBlock
  | .plain, .nested body => .descendant key body
  | .plain, value => .declaration key value

def ofDescription (description : Description) : List Entry :=
  description.map fun (key, value) => classify key value

end Entry

end Stylesheet
