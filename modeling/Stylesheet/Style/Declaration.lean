import Stylesheet.Number.Display
import Stylesheet.Style.Property
import Stylesheet.Style.Value

/-!
# Declarations

A property and a value give one declaration for each text the value stands for: a finite number with the unit of its property, a text that is not blank, trimmed, and the texts of the items of a list one after another. Nothing else is ever shown.
-/

namespace Stylesheet

structure Declaration where
  property : Text
  value : Text
deriving DecidableEq

namespace Value

def textOfNumber (property : Text) (value : Binary64) : List Text :=
  match value.styleText? with
  | none => []
  | some digits => [digits ++ (Property.unitClass property).suffix]

def textOfText (value : Text) : List Text := if value.trim.isEmpty then [] else [value.trim]

mutual

/-- The texts of a value of a property in kebab case. -/
def texts (property : Text) : Value → List Text
  | .number value => textOfNumber property value
  | .text value => textOfText value
  | .list items => textsOfItems property items
  | .absent | .flag _ | .nested _ => []

def textsOfItems (property : Text) : List Value → List Text
  | [] => []
  | item :: rest => texts property item ++ textsOfItems property rest

end

mutual

/-- How many numbers of a value are left out because they are not finite. -/
def unwritable : Value → Nat
  | .number value => if value.isFinite then 0 else 1
  | .list items => unwritableItems items
  | .absent | .flag _ | .text _ | .nested _ => 0

def unwritableItems : List Value → Nat
  | [] => 0
  | item :: rest => unwritable item + unwritableItems rest

end

end Value

namespace Declaration

/-- The name under which a property is written. -/
def propertyName (property : Text) : Text := Property.hyphenate property.trim

/-- The declarations of a property as it is spelled in a description; a blank property has none. -/
def normalize (property : Text) (value : Value) : List Declaration :=
  if (propertyName property).isEmpty then []
  else (value.texts (propertyName property)).map fun text => ⟨propertyName property, text⟩

end Declaration

end Stylesheet
