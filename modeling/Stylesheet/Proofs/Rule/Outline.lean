import Stylesheet.Rule

/-!
# Outlines

An outline is what rule text says, whatever its layout: blocks of declarations under their selectors, and groups of blocks under a heading. Rules have an outline, in which an animation is a group and its stops are blocks under their labels; and an outline can be read from text by someone who does not know the layout.

The reader only goes by braces, semicolons and colons. When a brace opens it cannot tell yet whether a block or a group begins. That is settled when the brace closes: what holds declarations is a block, what holds other parts is a group, and nothing is read from text in which something holds both or neither.
-/

namespace Stylesheet

inductive Outline
  | block (selectors : List Text) (declarations : List Declaration)
  | group (heading : Text) (parts : List Outline)

namespace Outline

/-! ### The outline of rules -/

def ofBlock (selector : Text) (declarations : List Declaration) : Outline :=
  .block (Selector.split selector) declarations

mutual

def ofRule : Rule → Outline
  | .style selector declarations => ofBlock selector declarations
  | .atRule heading rules => .group heading (ofRules rules)
  | .keyframes name stops =>
    .group (Rule.keyframesHeading name) (stops.map fun stop => ofBlock stop.label stop.declarations)

def ofRules : List Rule → List Outline
  | [] => []
  | rule :: rest => ofRule rule :: ofRules rest

end

/-! ### Reading -/

def isDelimiter (c : Char) : Bool := c = '\x7b' || c = '\x7d' || c = ';'

/-- The property and the value on the two sides of the first colon. -/
def declaration? (text : Text) : Option Declaration :=
  if ':' ∈ text then
    some ⟨Text.trim (text.takeWhile (· ≠ ':')), Text.trim ((text.dropWhile (· ≠ ':')).drop 1)⟩
  else none

/-- An open brace with the text in front of it and what was read after it. -/
structure Frame where
  heading : Text := []
  declarations : List Declaration := []
  parts : List Outline := []

namespace Frame

def add (part : Outline) (frame : Frame) : Frame := { frame with parts := frame.parts ++ [part] }

def declare (declaration : Declaration) (frame : Frame) : Frame :=
  { frame with declarations := frame.declarations ++ [declaration] }

/-- What the frame turns out to be when its brace closes. -/
def close? (frame : Frame) : Option Outline :=
  match frame.declarations, frame.parts with
  | _ :: _, [] => some (ofBlock frame.heading frame.declarations)
  | [], _ :: _ => some (.group frame.heading.trim frame.parts)
  | _, _ => none

end Frame

structure Reader where
  /-- The text since the last delimiter. -/
  pending : Text := []
  /-- What stands around the pending text; the outermost frame has no brace. -/
  current : Frame := {}
  /-- The frames around the current one, the innermost first. -/
  outer : List Frame := []

namespace Reader

def add (part : Outline) (state : Reader) : Reader :=
  { state with current := state.current.add part }

def opened (state : Reader) : Reader :=
  { current := { heading := state.pending }, outer := state.current :: state.outer }

/-- Takes the pending text for a declaration. -/
def declared? (state : Reader) : Option Reader :=
  (declaration? state.pending).map fun declaration =>
    { state with pending := [], current := state.current.declare declaration }

/-- A semicolon is not needed behind the last declaration. -/
def settled? (state : Reader) : Option Reader :=
  if state.pending.trim.isEmpty then some { state with pending := [] } else state.declared?

def closed? (state : Reader) : Option Reader :=
  match state.outer with
  | [] => none
  | frame :: outer =>
    state.settled?.bind fun settled => settled.current.close?.map fun part =>
      { current := frame.add part, outer }

def step? (state : Reader) (c : Char) : Option Reader :=
  if c = '\x7b' then some state.opened
  else if c = ';' then state.declared?
  else if c = '\x7d' then state.closed?
  else some { state with pending := state.pending ++ [c] }

def run? (text : Text) (state : Reader) : Option Reader := text.foldlM step? state

/-- The parts that were read, once every brace is closed and nothing is left over. -/
def finished? (state : Reader) : Option (List Outline) :=
  if state.pending.trim.isEmpty && state.outer.isEmpty && state.current.declarations.isEmpty then
    some state.current.parts
  else none

end Reader

def ofText? (text : Text) : Option (List Outline) :=
  (({} : Reader).run? text).bind Reader.finished?

end Outline

end Stylesheet
