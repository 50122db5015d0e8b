import Stylesheet.Hash.Write

/-!
# The memory of deliveries

The digests of the rule texts that the sink already has, each at most once. Only so many are remembered: when the memory is full it starts over.
-/

namespace Stylesheet

namespace Cache

abbrev Memory := List UInt64

namespace Memory

def isFull (limit : Nat) (memory : Memory) : Bool := limit ≤ memory.length

def add (limit : Nat) (digest : UInt64) (memory : Memory) : Memory :=
  if memory.isFull limit then [digest] else memory.insert digest

def forget (digests : List UInt64) (memory : Memory) : Memory :=
  memory.filter fun digest => digest ∉ digests

end Memory

end Cache

end Stylesheet
