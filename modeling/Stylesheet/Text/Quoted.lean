import Stylesheet.Text.Extending
import Stylesheet.Text.Unassigned
import Stylesheet.Number.Numeral

/-!
# Quoted text

Text between quotation marks, as it stands in descriptions of a configuration: quotation marks, backslashes and the usual control characters take a backslash and a letter, and every other character that cannot be seen by itself is written by its code point in hexadecimal. What cannot be seen by itself is what is invisible, what is drawn on the character before and what is no character at all; where a character stands in the text makes no difference.
-/

namespace Stylesheet

namespace Text

/-- Ranges of characters that show nothing: controls, formats, the separators other than the space (general categories `Cc`, `Cf`, `Zl`, `Zp` and `Zs`), and the Hangul fillers. The zero-width non-joiner and the tags are among the extending characters. -/
def invisibleRanges : List (Nat × Nat) :=
  [(0x0, 0x1F), (0x7F, 0xA0), (0xAD, 0xAD), (0x600, 0x605), (0x61C, 0x61C), (0x6DD, 0x6DD),
    (0x70F, 0x70F), (0x890, 0x891), (0x8E2, 0x8E2), (0x115F, 0x1160), (0x1680, 0x1680),
    (0x180E, 0x180E), (0x2000, 0x200B), (0x200D, 0x200F), (0x2028, 0x202F), (0x205F, 0x2064),
    (0x2066, 0x206F), (0x3000, 0x3000), (0x3164, 0x3164), (0xFEFF, 0xFEFF), (0xFFA0, 0xFFA0),
    (0xFFF9, 0xFFFB), (0x110BD, 0x110BD), (0x110CD, 0x110CD), (0x13430, 0x1343F),
    (0x1BCA0, 0x1BCA3), (0x1D173, 0x1D17A), (0xE0001, 0xE0001)]

def isUnseen (c : Char) : Bool :=
  inRanges invisibleRanges c || inRanges extendingRanges c || inRanges unassignedRanges c

def quotedChar (c : Char) : Text :=
  match c with
  | '\x22' => ['\x5c', '\x22']
  | '\x5c' => ['\x5c', '\x5c']
  | '\t' => ['\x5c', 't']
  | '\n' => ['\x5c', 'n']
  | '\r' => ['\x5c', 'r']
  | '\x00' => ['\x5c', '0']
  | c =>
    if isUnseen c then ['\x5c', 'u', '\x7b'] ++ Numeral.inBase 16 c.toNat ++ ['\x7d'] else [c]

def quoted (text : Text) : Text := '\x22' :: text.flatMap quotedChar ++ ['\x22']

end Text

end Stylesheet
