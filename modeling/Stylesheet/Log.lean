import Stylesheet.Text.Basic

/-!
# Log records

What is worth telling is a value of a type of notices, and a record is its wording with a level. A reader who asks for a level gets the records of that level and of the more severe ones.
-/

namespace Stylesheet

inductive Level
  | warn
  | info
  | debug
  | trace
deriving DecidableEq

namespace Level

def rank : Level → Nat
  | .warn => 0
  | .info => 1
  | .debug => 2
  | .trace => 3

def name : Level → Text
  | .warn => "warn".toList
  | .info => "info".toList
  | .debug => "debug".toList
  | .trace => "trace".toList

/-- Whether a reader at level `limit` gets records of this level. -/
def reaches (level limit : Level) : Bool := level.rank ≤ limit.rank

end Level

structure LogRecord where
  level : Level
  message : Text
deriving DecidableEq

def LogRecord.text (entry : LogRecord) : Text := entry.level.name ++ ' ' :: entry.message

/-- A text between backticks. -/
def ticked (text : Text) : Text := '\x60' :: text ++ ['\x60']

end Stylesheet
