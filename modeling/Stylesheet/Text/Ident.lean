import Stylesheet.Text.Basic

/-!
# Identifier fragments

Any text becomes a fragment of an identifier: it is trimmed, every character that is not an ASCII letter, a digit, `-` or `_` becomes `-`, and a leading digit gets an underscore in front. Blank text becomes the empty fragment.
-/

namespace Stylesheet

namespace Text

def isIdentChar (c : Char) : Bool := c.isAlphanum || c = '-' || c = '_'

def identChar (c : Char) : Char := if isIdentChar c then c else '-'

def guardDigit : Text → Text
  | [] => []
  | c :: rest => if c.isDigit then '_' :: c :: rest else c :: rest

def sanitize (raw : Text) : Text := guardDigit (raw.trim.map identChar)

end Text

end Stylesheet
