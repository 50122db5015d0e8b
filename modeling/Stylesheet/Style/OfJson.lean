import Stylesheet.Json.Value
import Stylesheet.Style.Value

/-!
# Descriptions from JSON

Every JSON value is a style value, and an object is a nested description with its members in order. What is asked for as a description must be an object, and so must each body of a set of animation stops. When stops come from a value, a repeated label has already left only its last body; `Stops.ofMemberText?` takes them from the text itself, where every body counts.
-/

namespace Stylesheet

inductive DescriptionError
  | notAMapping (found : Json.Kind)
  | malformed (detail : Text)
deriving DecidableEq

def DescriptionError.message : DescriptionError → Text
  | .notAMapping found => "style description must be a mapping, found ".toList ++ found.name
  | .malformed detail => "malformed style description: ".toList ++ detail

namespace Value

mutual

def ofJson : Json → Value
  | .null => .absent
  | .boolean value => .flag value
  | .number value => .number value
  | .string value => .text value
  | .array items => .list (ofItems items)
  | .object members => .nested (ofMembers members)

def ofItems : List Json → List Value
  | [] => []
  | item :: rest => ofJson item :: ofItems rest

def ofMembers : List (Text × Json) → List (Text × Value)
  | [] => []
  | (key, value) :: rest => (key, ofJson value) :: ofMembers rest

end

end Value

namespace Description

def ofJson : Json → Except DescriptionError Description
  | .object members => .ok (Value.ofMembers members)
  | json => .error (.notAMapping json.kind)

end Description

namespace Stops

/-- The members with their bodies as descriptions, one for one; repeated labels stay. -/
def ofMembers : List (Text × Json) → Except DescriptionError (List (Text × Description))
  | [] => .ok []
  | (label, json) :: rest =>
    match Description.ofJson json with
    | .error error => .error error
    | .ok body => (ofMembers rest).map ((label, body) :: ·)

/-- The first body that is not an object decides the error. -/
def ofJson : Json → Except DescriptionError Stops
  | .object members => ofMembers members
  | json => .error (.notAMapping json.kind)

end Stops

/-! ### From text -/

def Json.ofText (text : Text) : Except DescriptionError Json :=
  match Json.ofText? text with
  | some json => .ok json
  | none => .error (.malformed "not JSON".toList)

def Description.ofText (text : Text) : Except DescriptionError Description :=
  (Json.ofText text).bind Description.ofJson

def Stops.ofText (text : Text) : Except DescriptionError Stops :=
  (Json.ofText text).bind Stops.ofJson

/-- Stops from the members as they stand in the text: each body must be an object, also one that a later body under the same label replaces. -/
def Stops.ofMemberText? (text : Text) : Option Stops :=
  ((Json.Tree.ofText? text).bind Json.Tree.members?).bind fun members =>
    (Stops.ofMembers members).toOption.map Ordered.ofPairs

end Stylesheet
