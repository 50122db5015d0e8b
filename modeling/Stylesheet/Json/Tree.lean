import Stylesheet.Number.Literal

/-!
# The grammar of JSON text

`Tree.ofText?` reads JSON text into its parse tree and checks nothing but the grammar: strings keep their escapes and numbers their digits, so a reader that skips a value can skip one that has no meaning. Only space, tab, line feed and carriage return stand between tokens. The text is first cut into tokens, and one pass over the tokens with a stack of open brackets builds the tree.
-/

namespace Stylesheet

namespace Json

/-- One element of a string literal: a character, or the sixteen bits of an escape with four hexadecimal digits. -/
inductive Unit16
  | char (c : Char)
  | escape (code : Nat)
deriving DecidableEq

abbrev StringLiteral := List Unit16

inductive Tree
  | null
  | boolean (value : Bool)
  | number (literal : Literal)
  | string (literal : StringLiteral)
  | array (items : List Tree)
  | object (members : List (StringLiteral × Tree))

inductive Token
  | beginArray
  | endArray
  | beginObject
  | endObject
  | colon
  | comma
  | value (tree : Tree)
  | string (literal : StringLiteral)

/-! ### Tokens -/

def simpleEscape? : Char → Option Char
  | '\x22' => some '\x22'
  | '\x5c' => some '\x5c'
  | '/' => some '/'
  | 'b' => some '\x08'
  | 'f' => some '\x0c'
  | 'n' => some '\n'
  | 'r' => some '\r'
  | 't' => some '\t'
  | _ => none

/-- The rest of a string literal after its opening quote, and the text after its closing quote. -/
def stringRest? : Text → Option (StringLiteral × Text)
  | [] => none
  | '\x22' :: rest => some ([], rest)
  | '\x5c' :: 'u' :: a :: b :: c :: d :: rest =>
    (Numeral.ofHex? [a, b, c, d]).bind fun code =>
      (stringRest? rest).map fun (units, after) => (.escape code :: units, after)
  | '\x5c' :: c :: rest =>
    (simpleEscape? c).bind fun escaped =>
      (stringRest? rest).map fun (units, after) => (.char escaped :: units, after)
  | c :: rest =>
    if c.toNat < 0x20 || c = '\x5c' then none
    else (stringRest? rest).map fun (units, after) => (.char c :: units, after)

def isSpace (c : Char) : Bool := c = ' ' || c = '\t' || c = '\n' || c = '\r'

/-- The characters that a number can hold; whatever follows a number in JSON text is none of them. -/
def isNumeric (c : Char) : Bool :=
  Literal.isDigit c || c = '.' || c = 'e' || c = 'E' || c = '+' || c = '-'

def isLetter (c : Char) : Bool := 'a' ≤ c && c ≤ 'z'

def keyword? (word : Text) : Option Tree :=
  if word = "null".toList then some .null
  else if word = "true".toList then some (.boolean true)
  else if word = "false".toList then some (.boolean false)
  else none

/-- The token that begins with the character `c`, and the text after it. -/
def tokenRest? (c : Char) (rest : Text) : Option (Token × Text) :=
  match c with
  | '[' => some (.beginArray, rest)
  | ']' => some (.endArray, rest)
  | '\x7b' => some (.beginObject, rest)
  | '\x7d' => some (.endObject, rest)
  | ':' => some (.colon, rest)
  | ',' => some (.comma, rest)
  | '\x22' => (stringRest? rest).map fun (literal, after) => (.string literal, after)
  | _ =>
    if isLetter c then
      (keyword? (c :: rest.takeWhile isLetter)).map fun tree => (.value tree, rest.dropWhile isLetter)
    else
      (Literal.ofText? (c :: rest.takeWhile isNumeric)).map fun literal =>
        (.value (.number literal), rest.dropWhile isNumeric)

end Json

end Stylesheet
