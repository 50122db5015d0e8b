import Stylesheet.Number.Binary64
import Stylesheet.Ordered

/-!
# Style descriptions

A description maps keys to values in insertion order; a value may itself hold a list of values or a nested description. Two descriptions are the same if they have the same keys with the same values in the same order, where numbers are told apart by the bits of their sums with zero: `-0` and `0` are one number, and so are a NaN and its quiet form. The stops of an animation map labels to descriptions in the same way.
-/

namespace Stylesheet

inductive Value
  /-- A value that is not there. -/
  | absent
  /-- A switch, as conditional styling leaves it. -/
  | flag (on : Bool)
  | number (value : Binary64)
  | text (value : Text)
  /-- Alternatives, each of which becomes a declaration of its own. -/
  | list (items : List Value)
  | nested (body : List (Text × Value))

abbrev Description := Ordered Value

abbrev Stops := Ordered Description

namespace Value

def nested? : Value → Option Description
  | .nested body => some body
  | _ => none

/-! ### Sameness -/

mutual

def same : Value → Value → Bool
  | .absent, .absent => true
  | .flag left, .flag right => left = right
  | .number left, .number right => left.plusZero = right.plusZero
  | .text left, .text right => left = right
  | .list left, .list right => sameItems left right
  | .nested left, .nested right => sameEntries left right
  | _, _ => false

def sameItems : List Value → List Value → Bool
  | [], [] => true
  | left :: lefts, right :: rights => same left right && sameItems lefts rights
  | _, _ => false

def sameEntries : List (Text × Value) → List (Text × Value) → Bool
  | [], [] => true
  | (key, left) :: lefts, (other, right) :: rights =>
    key = other && same left right && sameEntries lefts rights
  | _, _ => false

end

end Value

def Description.same (left right : Description) : Bool := Value.sameEntries left right

def Stops.same : Stops → Stops → Bool
  | [], [] => true
  | (label, left) :: lefts, (other, right) :: rights =>
    label = other && Description.same left right && same lefts rights
  | _, _ => false

end Stylesheet
