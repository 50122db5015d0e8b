import Stylesheet.Json.Reader
import Stylesheet.Ordered

/-!
# JSON values

The value of a parse tree: escapes are decoded, numbers become doubles and objects become insertion-ordered maps. A tree has no value if a string holds half of a surrogate pair, a number leaves the range of the doubles, or more than `nestingLimit` brackets are open at once.
-/

namespace Stylesheet

inductive Json
  | null
  | boolean (value : Bool)
  | number (value : Binary64)
  | string (value : Text)
  | array (items : List Json)
  | object (members : List (Text × Json))

namespace Json

inductive Kind
  | null
  | boolean
  | number
  | string
  | array
  | object
deriving DecidableEq

def kind : Json → Kind
  | .null => .null
  | .boolean _ => .boolean
  | .number _ => .number
  | .string _ => .string
  | .array _ => .array
  | .object _ => .object

def Kind.name : Kind → Text
  | .null => "null".toList
  | .boolean => "boolean".toList
  | .number => "number".toList
  | .string => "string".toList
  | .array => "array".toList
  | .object => "object".toList

/-! ### Strings -/

def isHighSurrogate (code : Nat) : Bool := 0xD800 ≤ code && code < 0xDC00

def isLowSurrogate (code : Nat) : Bool := 0xDC00 ≤ code && code < 0xE000

def surrogatePair (high low : Nat) : Char :=
  Char.ofNat (0x10000 + (high - 0xD800) * 0x400 + (low - 0xDC00))

/-- The text of a string literal; surrogates count only in pairs. -/
def StringLiteral.text? : StringLiteral → Option Text
  | [] => some []
  | .char c :: rest => (text? rest).map (c :: ·)
  | .escape high :: .escape low :: rest =>
    if isHighSurrogate high then
      if isLowSurrogate low then (text? rest).map (surrogatePair high low :: ·) else none
    else if isLowSurrogate high then none
    else (text? (.escape low :: rest)).map (Char.ofNat high :: ·)
  | .escape code :: rest =>
    if isHighSurrogate code || isLowSurrogate code then none
    else (text? rest).map (Char.ofNat code :: ·)

/-! ### Values -/

def nestingLimit : Nat := 127

mutual

/-- The value of a tree that may open `room` more brackets inside one another. -/
def Tree.valueWithin? (room : Nat) : Tree → Option Json
  | .null => some .null
  | .boolean value => some (.boolean value)
  | .number literal => literal.scaled?.map .number
  | .string literal => literal.text?.map .string
  | .array items => if room = 0 then none else (itemsWithin? (room - 1) items).map .array
  | .object members =>
    if room = 0 then none
    else (membersWithin? (room - 1) members).map fun pairs => .object (Ordered.ofPairs pairs)

def Tree.itemsWithin? (room : Nat) : List Tree → Option (List Json)
  | [] => some []
  | tree :: rest =>
    (valueWithin? room tree).bind fun value => (itemsWithin? room rest).map (value :: ·)

def Tree.membersWithin? (room : Nat) : List (StringLiteral × Tree) → Option (List (Text × Json))
  | [] => some []
  | (key, tree) :: rest =>
    key.text?.bind fun key =>
      (valueWithin? room tree).bind fun value => (membersWithin? room rest).map ((key, value) :: ·)

end

def Tree.value? (tree : Tree) : Option Json := tree.valueWithin? nestingLimit

/-- The members of an object with their values, in the order of the text and with keys repeated as they are there. -/
def Tree.members? : Tree → Option (List (Text × Json))
  | .object members => membersWithin? (nestingLimit - 1) members
  | _ => none

def ofText? (text : Text) : Option Json := (Tree.ofText? text).bind Tree.value?

end Json

end Stylesheet
