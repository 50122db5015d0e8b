import Stylesheet.Config.Basic
import Stylesheet.Json.Record
import Stylesheet.Text.Ident

/-!
# Updates of a configuration

An update names the settings to change and leaves the others. A prefix is made a fragment of an identifier first, and one that comes out empty does not count. Updates can be read from JSON records; hooks and sinks cannot.
-/

namespace Stylesheet

structure ConfigUpdate where
  identPrefix : Option Text := none
  caching : Option Bool := none
  insertion : Option InsertionMode := none
  minify : Option Bool := none
  maxEntries : Option Nat := none
  deduplicate : Option Bool := none
  debug : Option Bool := none
  maxIdle : Option Nat := none
  sweepInterval : Option Nat := none
  sweepDebounce : Option Nat := none
  sink : Option SinkId := none
  postProcess : Option (Text → Text) := none
  generate : Option (Seed → Text) := none

namespace Config

def updatedPrefix (current : Text) (raw : Option Text) : Text :=
  match raw with
  | none => current
  | some raw => if raw.sanitize.isEmpty then current else raw.sanitize

def apply (config : Config) (update : ConfigUpdate) : Config where
  identPrefix := updatedPrefix config.identPrefix update.identPrefix
  caching := update.caching.getD config.caching
  insertion := update.insertion.getD config.insertion
  minify := update.minify.getD config.minify
  maxEntries := update.maxEntries.getD config.maxEntries
  deduplicate := update.deduplicate.getD config.deduplicate
  debug := update.debug.getD config.debug
  maxIdle := update.maxIdle.getD config.maxIdle
  sweepInterval := update.sweepInterval.getD config.sweepInterval
  sweepDebounce := update.sweepDebounce.getD config.sweepDebounce
  sink := update.sink.getD config.sink
  postProcess := update.postProcess.or config.postProcess
  generate := update.generate.or config.generate

end Config

namespace ConfigUpdate

/-- The given prefix, if it leaves nothing of an identifier. -/
def unusablePrefix? (update : ConfigUpdate) : Option Text :=
  update.identPrefix.filter fun raw => raw.sanitize.isEmpty

/-- Whole milliseconds of a duration, as far as sixty-four bits go. -/
def wholeMillis (seconds nanoseconds : Nat) : Nat :=
  min (seconds * 1000 + nanoseconds / 1000000) (UInt64.size - 1)

/-! ### From JSON -/

def fieldNames : List Text :=
  ["identifierPrefix".toList, "enableCache".toList, "insertionMode".toList, "minify".toList,
    "maxCacheEntries".toList, "deduplicate".toList, "debug".toList, "maxIdleMs".toList,
    "sweepIntervalMs".toList, "sweepDebounceMs".toList]

def insertionModes : Ordered InsertionMode :=
  [("sync".toList, .sync), ("deferred".toList, .deferred), ("idle".toList, .idle)]

open Json.Record in
def ofTree? (tree : Json.Tree) : Option ConfigUpdate := do
  let fields ← fields? fieldNames tree
  let identPrefix ← optional text? fields "identifierPrefix"
  let caching ← optional boolean? fields "enableCache"
  let insertion ← optional (variant? insertionModes) fields "insertionMode"
  let minify ← optional boolean? fields "minify"
  let maxEntries ← optional word? fields "maxCacheEntries"
  let deduplicate ← optional boolean? fields "deduplicate"
  let debug ← optional boolean? fields "debug"
  let maxIdle ← optional word? fields "maxIdleMs"
  let sweepInterval ← optional word? fields "sweepIntervalMs"
  let sweepDebounce ← optional word? fields "sweepDebounceMs"
  return {
    identPrefix, caching, insertion, minify, maxEntries, deduplicate, debug, maxIdle,
    sweepInterval, sweepDebounce }

def ofText? (text : Text) : Option ConfigUpdate := (Json.Tree.ofText? text).bind ofTree?

end ConfigUpdate

end Stylesheet
