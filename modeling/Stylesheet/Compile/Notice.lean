import Stylesheet.Log
import Stylesheet.Style.Declaration
import Stylesheet.Style.Entry

/-!
# Notices of the compiler

What a description holds and what leaves no trace in the rules is told on the level of debugging.
-/

namespace Stylesheet

namespace Compile

inductive Notice
  | notFinite (property : Text)
  | emptyDescendant (selector : Text)
  | ignored (key selector : Text) (reason : IgnoredReason)
  | emptyStopLabel (name : Text)
  | nestedInStop (key label : Text)
deriving DecidableEq

def Notice.message : Notice → Text
  | .notFinite property => "skipping non-finite value for ".toList ++ ticked property
  | .emptyDescendant selector =>
    "skipping empty descendant selector under ".toList ++ ticked selector
  | .ignored key selector reason =>
    "ignoring ".toList ++ ticked key ++ " under ".toList ++ ticked selector ++ ": ".toList
      ++ reason.message
  | .emptyStopLabel name =>
    "skipping keyframe stop with an empty label in ".toList ++ ticked name
  | .nestedInStop key label =>
    "ignoring nested key ".toList ++ ticked key ++ " in keyframe stop ".toList ++ ticked label

def Notice.record (notice : Notice) : LogRecord := ⟨.debug, notice.message⟩

/-- One notice for each number of a value that cannot be written. -/
def unwritableNotices (property : Text) (value : Value) : List Notice :=
  List.replicate value.unwritable (.notFinite property)

end Compile

end Stylesheet
