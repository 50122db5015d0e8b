import Stylesheet.Text.Basic

/-!
# Insertion-ordered maps

A map from texts is the list of its entries in the order in which their keys first came. Inserting under a key that is already there replaces the value and keeps the place; `replaced?` is the value that such an insertion takes out.
-/

namespace Stylesheet

abbrev Ordered (α : Type) := List (Text × α)

namespace Ordered

variable {α : Type}

def insert (key : Text) (value : α) : Ordered α → Ordered α
  | [] => [(key, value)]
  | (other, old) :: rest =>
    if other = key then (key, value) :: rest else (other, old) :: insert key value rest

def find? (key : Text) : Ordered α → Option α
  | [] => none
  | (other, value) :: rest => if other = key then some value else find? key rest

/-- Inserts the pairs one after another. -/
def insertAll (entries : Ordered α) (pairs : List (Text × α)) : Ordered α :=
  pairs.foldl (fun map pair => insert pair.1 pair.2 map) entries

def ofPairs (pairs : List (Text × α)) : Ordered α := insertAll [] pairs

end Ordered

end Stylesheet
