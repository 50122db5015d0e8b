import Stylesheet.Text.Basic

/-!
# Selector lists

A selector list is cut at its top-level commas: those outside quotes and outside round and square brackets, where a closing bracket without an opening one is ignored. Nested keys combine with the list they stand under. A modifier puts the current selector in place of each `&`, or in front if there is none; a descendant follows the current selector after a space. A list on either side makes every combination.
-/

namespace Stylesheet

namespace Selector

/-! ### Top-level commas -/

/-- Where a left-to-right scan stands: the number of open brackets, and the quotation mark of an open string. -/
structure Scan where
  depth : Nat
  quote : Option Char
deriving DecidableEq

namespace Scan

def start : Scan := ⟨0, none⟩

def step (state : Scan) (c : Char) : Scan :=
  match state.quote with
  | some mark => if c = mark then ⟨state.depth, none⟩ else state
  | none =>
    if c = '\x22' || c = '\x27' then ⟨state.depth, some c⟩
    else if c = '(' || c = '[' then ⟨state.depth + 1, none⟩
    else if c = ')' || c = ']' then ⟨state.depth - 1, none⟩
    else state

def isCut (state : Scan) (c : Char) : Bool := c = ',' && state.depth = 0 && state.quote.isNone

end Scan

/-- The stretches between the commas that cut, untrimmed. -/
def cut (state : Scan) : Text → List Text
  | [] => [[]]
  | c :: rest =>
    if state.isCut c then [] :: cut state rest
    else match cut (state.step c) rest with
      | [] => [[c]]
      | part :: others => (c :: part) :: others

/-- The selectors of a list, trimmed; blank ones do not count. -/
def split (list : Text) : List Text :=
  ((cut .start list).map Text.trim).filter fun part => !part.isEmpty

def separator : Text := [',', ' ']

def joinList (parts : List Text) : Text := Text.join separator parts

/-! ### Nesting -/

/-- The parts of a key, with their inner blanks collapsed. -/
def keyParts (key : Text) : List Text := (split key).map Text.collapse

/-- A modifier part applied to one selector. -/
def modify (root part : Text) : Text :=
  if part.any (· = '&') then Text.substitute '&' root part else root ++ part

/-- The selectors that a modifier applies to; without any it stands alone. -/
def modifierRoots (current : Text) : List Text :=
  if (split current).isEmpty then [[]] else split current

def resolveModifier (current pattern : Text) : Text :=
  joinList <| (modifierRoots current).flatMap fun root =>
    (keyParts pattern).map fun part => modify root part

/-- The selectors of one descendant part under every current selector. -/
def descend (roots : List Text) (part : Text) : List Text :=
  if roots.isEmpty then [part] else roots.map fun root => root ++ ' ' :: part

def joinDescendant (current key : Text) : Text :=
  joinList <| (keyParts key).flatMap fun part => descend (split current) part

end Selector

end Stylesheet
