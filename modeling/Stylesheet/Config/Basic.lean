import Stylesheet.Fingerprint
import Stylesheet.Rule
import Stylesheet.Sink.Host

/-!
# Configuration

What a cache goes by: the look of identifiers and of rule text, when text is handed to the sink, the bounds that keep the cache small, and the hooks. Durations are in milliseconds.
-/

namespace Stylesheet

/-- When compiled rule text is handed to the sink. -/
inductive InsertionMode
  | sync
  | deferred
  | idle
deriving DecidableEq

/-- What an identifier is made from. -/
structure Seed where
  kind : RuleKind
  identPrefix : Text
  fingerprint : Fingerprint
  /-- Larger for every identifier that a cache issues. -/
  sequence : Nat
  label : Option Text
deriving DecidableEq

structure Config where
  identPrefix : Text := "css".toList
  caching : Bool := true
  insertion : InsertionMode := .sync
  minify : Bool := false
  /-- How many entries a sweep leaves in each store. -/
  maxEntries : Nat := 10000
  /-- Whether rule text that the sink already has is kept from it. -/
  deduplicate : Bool := true
  /-- Readable identifiers and a record of every compilation. -/
  debug : Bool := false
  maxIdle : Nat := 600000
  sweepInterval : Nat := 60000
  sweepDebounce : Nat := 1000
  sink : SinkId := .builtin
  /-- Changes rule text on its way to the sink. -/
  postProcess : Option (Text → Text) := none
  /-- Makes whole identifiers. -/
  generate : Option (Seed → Text) := none

namespace Config

def renderMode (config : Config) : RenderMode := if config.minify then .minified else .pretty

/-- The rule text as it leaves the cache; empty text is left alone. -/
def finish (config : Config) (text : Text) : Text :=
  match config.postProcess with
  | some change => if text.isEmpty then text else change text
  | none => text

end Config

end Stylesheet
