import Stylesheet.Hash.Write
import Stylesheet.Style.Value

/-!
# Hashing descriptions

The writes of a description name each alternative and announce each length, so that the whole description can be read back from them; a number goes in as its sum with zero, as it is compared.
-/

namespace Stylesheet

open Hash (Write)

namespace Value

mutual

def writes : Value → List Write
  | .absent => [.tag 0]
  | .flag on => [.tag 1, .flag on]
  | .number value => [.tag 2, .bits value.plusZero.bits]
  | .text value => [.tag 3, .text value]
  | .list items => .tag 4 :: .size items.length :: itemWrites items
  | .nested body => .tag 5 :: .size body.length :: entryWrites body

def itemWrites : List Value → List Write
  | [] => []
  | item :: rest => writes item ++ itemWrites rest

def entryWrites : List (Text × Value) → List Write
  | [] => []
  | (key, value) :: rest => .text key :: (writes value ++ entryWrites rest)

end

end Value

def Description.writes (description : Description) : List Write :=
  .size description.length :: Value.entryWrites description

def Stops.writes (stops : Stops) : List Write :=
  .size stops.length :: stops.flatMap fun (label, body) => .text label :: Description.writes body

end Stylesheet
