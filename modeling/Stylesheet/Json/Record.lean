import Stylesheet.Json.Value

/-!
# Records in JSON

A record is an object with known field names, each given at most once, or an array with the fields in their fixed order, of which the last ones may be missing. Values of unknown names are skipped without a look at what they mean.
-/

namespace Stylesheet

namespace Json

namespace Record

/-- Enters the members of an object into the fields given so far. -/
def addMembers? (names : List Text) (given : Ordered Tree) :
    List (StringLiteral × Tree) → Option (Ordered Tree)
  | [] => some given
  | (key, tree) :: rest =>
    key.text?.bind fun key =>
      if key ∈ names then
        if (given.find? key).isSome then none
        else addMembers? names (given.insert key tree) rest
      else addMembers? names given rest

/-- The trees of the fields that a record gives. -/
def fields? (names : List Text) : Tree → Option (Ordered Tree)
  | .object members => addMembers? names [] members
  | .array items => if items.length ≤ names.length then some (names.zip items) else none
  | _ => none

/-! ### Values of fields -/

def text? : Tree → Option Text
  | .string literal => literal.text?
  | _ => none

def boolean? : Tree → Option Bool
  | .boolean value => some value
  | _ => none

/-- An unsigned integer of sixty-four bits, written without point and exponent. -/
def word? : Tree → Option Nat
  | .number literal => literal.word?
  | _ => none

/-- One of several constants by its name, or an object with that name and the value `null`. -/
def variant? {α : Type} (variants : Ordered α) : Tree → Option α
  | .string literal => literal.text?.bind variants.find?
  | .object [(key, .null)] => key.text?.bind variants.find?
  | _ => none

/-- A field that may be missing or `null`; the outer option tells whether it is well formed. -/
def optional {α : Type} (read? : Tree → Option α) (fields : Ordered Tree) (name : String) :
    Option (Option α) :=
  match fields.find? name.toList with
  | none => some none
  | some .null => some none
  | some tree => (read? tree).map some

/-- A field that may be missing but not `null`. -/
def orDefault {α : Type} (read? : Tree → Option α) (default : α) (fields : Ordered Tree)
    (name : String) : Option α :=
  match fields.find? name.toList with
  | none => some default
  | some tree => read? tree

end Record

end Json

end Stylesheet
