import Stylesheet.Hash.Bytes
import Stylesheet.Text.Basic

/-!
# Hashing structured values

A value is hashed through the sequence of its writes, and the writes become words. A word enters the state by an addition and a multiplication with an odd constant, so for a fixed state different words give different states, and the final rotation loses nothing.
-/

namespace Stylesheet

namespace Hash

inductive Write
  /-- Which alternative of a sum follows. -/
  | tag (index : Nat)
  | flag (on : Bool)
  | bits (word : UInt64)
  /-- How many elements follow. -/
  | size (count : Nat)
  | text (value : Text)
deriving DecidableEq

/-- The words of a write; a text takes the hash of its UTF-8 bytes and an end mark. -/
def Write.words : Write → List UInt64
  | .tag index => [UInt64.ofNat index]
  | .flag on => [if on then 1 else 0]
  | .bits word => [word]
  | .size count => [UInt64.ofNat count]
  | .text value => [ofBytes value.utf8, 0xff]

def multiplier : UInt64 := 0xf1357aea2e62a9c5

def addWord (state word : UInt64) : UInt64 := (state + word) * multiplier

def finish (state : UInt64) : UInt64 := (state <<< 26) ||| (state >>> 38)

def ofWrites (writes : List Write) : UInt64 :=
  finish ((writes.flatMap Write.words).foldl addWord 0)

/-- An optional text is a sum of nothing and a text. -/
def optionWrites : Option Text → List Write
  | none => [.tag 0]
  | some value => [.tag 1, .text value]

def ofText (value : Text) : UInt64 := ofWrites [.text value]

end Hash

end Stylesheet
