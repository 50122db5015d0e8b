import Stylesheet.Identifier

/-!
# Cache entries

An entry is one compilation that the cache remembers. Only its use changes while it lives: a hit counts and moves the time of its last use forward, never back. Times are in milliseconds on a clock whose zero means nothing, and a span that would be negative is empty.
-/

namespace Stylesheet

abbrev Time := Int

/-- The milliseconds from `earlier` to `now`. -/
def Time.since (now earlier : Time) : Nat := (now - earlier).toNat

namespace Cache

structure Entry where
  identifier : Identifier
  text : Text
  createdAt : Time
  lastUsedAt : Time
  uses : Nat
  /-- Whether the text is past the queue. -/
  materialized : Bool
deriving DecidableEq

namespace Entry

def create (identifier : Identifier) (text : Text) (now : Time) (materialized : Bool) : Entry :=
  ⟨identifier, text, now, now, 1, materialized⟩

/-- Uses are counted up to the largest number of sixty-four bits. -/
def usesLimit : Nat := UInt64.size - 1

def touch (now : Time) (entry : Entry) : Entry :=
  { entry with lastUsedAt := max entry.lastUsedAt now, uses := min (entry.uses + 1) usesLimit }

def idle (now : Time) (entry : Entry) : Nat := Time.since now entry.lastUsedAt

def age (now : Time) (entry : Entry) : Nat := Time.since now entry.createdAt

/-- The size of an entry apart from its texts. -/
def fixedBytes : Nat := 96

def bytes (entry : Entry) : Nat := fixedBytes + entry.identifier.byteSize + entry.text.byteSize

end Entry

end Cache

end Stylesheet
