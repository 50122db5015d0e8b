/-!
# Text

Text is a list of characters, so every function on it is a recursion on a list. A character is blank when Unicode gives it the property `White_Space`; trimming, collapsing and splitting into words go by that property and by nothing else, so a zero-width space or a byte order mark is ordinary text. Upper case, digits and letters are the ASCII ones.
-/

namespace Stylesheet

abbrev Text := List Char

namespace Text

/-! ### Blank characters -/

/-- First and last code points of the ranges with the property `White_Space`. -/
def blankRanges : List (Nat × Nat) :=
  [(0x9, 0xD), (0x20, 0x20), (0x85, 0x85), (0xA0, 0xA0), (0x1680, 0x1680), (0x2000, 0x200A),
    (0x2028, 0x2029), (0x202F, 0x202F), (0x205F, 0x205F), (0x3000, 0x3000)]

def inRanges (ranges : List (Nat × Nat)) (c : Char) : Bool :=
  ranges.any fun range => range.1 ≤ c.toNat && c.toNat ≤ range.2

def isBlank (c : Char) : Bool := inRanges blankRanges c

def trimStart (text : Text) : Text := text.dropWhile isBlank

def trimEnd (text : Text) : Text := (text.reverse.dropWhile isBlank).reverse

def trim (text : Text) : Text := trimEnd (trimStart text)

/-! ### Cutting and joining -/

/-- The stretches between the characters that satisfy `p`, empty ones included. -/
def pieces (p : Char → Bool) : Text → List Text
  | [] => [[]]
  | c :: rest =>
    if p c then [] :: pieces p rest
    else match pieces p rest with
      | [] => [[c]]
      | piece :: others => (c :: piece) :: others

/-- The longest stretches without a blank character. -/
def words (text : Text) : List Text := (pieces isBlank text).filter fun word => !word.isEmpty

def join (separator : Text) (parts : List Text) : Text := separator.intercalate parts

/-- Every run of blanks becomes one space and the ends are trimmed. -/
def collapse (text : Text) : Text := join [' '] (words text)

/-- Replaces the occurrences of `pattern` from left to right; `skip` characters still belong to the occurrence replaced last. -/
def replaceFrom (pattern replacement : Text) : Nat → Text → Text
  | _, [] => []
  | skip + 1, _ :: rest => replaceFrom pattern replacement skip rest
  | 0, c :: rest =>
    if pattern.isPrefixOf (c :: rest) then
      replacement ++ replaceFrom pattern replacement (pattern.length - 1) rest
    else c :: replaceFrom pattern replacement 0 rest

/-- Every occurrence of the nonempty `pattern`, left to right and without overlap, becomes `replacement`. -/
def replaceAll (pattern replacement text : Text) : Text := replaceFrom pattern replacement 0 text

/-- Every character `mark` becomes the text `replacement`. -/
def substitute (mark : Char) (replacement : Text) (text : Text) : Text :=
  text.flatMap fun c => if c = mark then replacement else [c]

def contains (pattern : Text) : Text → Bool
  | [] => pattern.isEmpty
  | c :: rest => pattern.isPrefixOf (c :: rest) || contains pattern rest

/-! ### Size in UTF-8 -/

def utf8 (text : Text) : List UInt8 := text.flatMap String.utf8EncodeChar

def byteSize (text : Text) : Nat := text.utf8.length

end Text

end Stylesheet
