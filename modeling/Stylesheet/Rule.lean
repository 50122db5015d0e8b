import Stylesheet.Selector
import Stylesheet.Style.Declaration

/-!
# Rules

Rules are flat: a style block holds declarations under one selector list, and only at-rules wrap other rules. The pretty form separates everything by single spaces and ends every declaration with a semicolon; the minified form drops this, and the blanks around the commas of selector lists, and leaves values alone.
-/

namespace Stylesheet

structure Stop where
  label : Text
  declarations : List Declaration
deriving DecidableEq

inductive Rule
  | style (selector : Text) (declarations : List Declaration)
  | atRule (heading : Text) (rules : List Rule)
  | keyframes (name : Text) (stops : List Stop)

inductive RenderMode
  | pretty
  | minified
deriving DecidableEq

namespace Rule

/-! ### Counting -/

mutual

/-- The number of declarations in a rule and in every rule it wraps. -/
def count : Rule → Nat
  | .style _ declarations => declarations.length
  | .atRule _ rules => countAll rules
  | .keyframes _ stops => (stops.flatMap Stop.declarations).length

def countAll : List Rule → Nat
  | [] => 0
  | rule :: rest => count rule + countAll rest

end

/-! ### Rendering -/

/-- A selector list or stop label as it is written. -/
def selectorText (selector : Text) : RenderMode → Text
  | .pretty => selector
  | .minified => Text.join [','] (Selector.split selector)

def openBrace : RenderMode → Text
  | .pretty => [' ', '\x7b']
  | .minified => ['\x7b']

def closeBrace : RenderMode → Text
  | .pretty => [' ', '\x7d']
  | .minified => ['\x7d']

def declarationsText (declarations : List Declaration) : RenderMode → Text
  | .pretty => declarations.flatMap fun d => ' ' :: d.property ++ [':', ' '] ++ d.value ++ [';']
  | .minified => Text.join [';'] (declarations.map fun d => d.property ++ ':' :: d.value)

def blockText (mode : RenderMode) (selector : Text) (declarations : List Declaration) : Text :=
  selectorText selector mode ++ openBrace mode ++ declarationsText declarations mode
    ++ closeBrace mode

/-- What stands in front of each rule inside another. -/
def innerGap : RenderMode → Text
  | .pretty => [' ']
  | .minified => []

def keyframesHeading (name : Text) : Text := "@keyframes ".toList ++ name

mutual

def text (mode : RenderMode) : Rule → Text
  | .style selector declarations => blockText mode selector declarations
  | .atRule heading rules => heading ++ openBrace mode ++ innerText mode rules ++ closeBrace mode
  | .keyframes name stops =>
    keyframesHeading name ++ openBrace mode
      ++ (stops.flatMap fun stop => innerGap mode ++ blockText mode stop.label stop.declarations)
      ++ closeBrace mode

def innerText (mode : RenderMode) : List Rule → Text
  | [] => []
  | rule :: rest => innerGap mode ++ text mode rule ++ innerText mode rest

end

/-- What stands between rules at the top. -/
def outerGap : RenderMode → Text
  | .pretty => ['\n']
  | .minified => []

def render (mode : RenderMode) (rules : List Rule) : Text :=
  Text.join (outerGap mode) (rules.map (text mode))

end Rule

end Stylesheet
