import Stylesheet.Config.Update
import Stylesheet.Text.Quoted

/-!
# Configurations in words

The one-line descriptions of configurations and updates that go into the log. Hooks show only whether they are there.
-/

namespace Stylesheet

namespace Describe

def boolean (value : Bool) : Text := if value then "true".toList else "false".toList

def insertion : InsertionMode → Text
  | .sync => "Sync".toList
  | .deferred => "Deferred".toList
  | .idle => "Idle".toList

/-- Whole seconds and thousandths without trailing zeros; below a second, milliseconds. -/
def duration (millis : Nat) : Text :=
  if millis = 0 then "0ns".toList
  else if millis < 1000 then Numeral.decimal millis ++ "ms".toList
  else
    let thousandths := Numeral.padded 3 (Numeral.decimal (millis % 1000))
    let shown := (thousandths.reverse.dropWhile (· = '0')).reverse
    let fraction := if shown.isEmpty then [] else '.' :: shown
    Numeral.decimal (millis / 1000) ++ fraction ++ ['s']

def optional {α : Type} (describe : α → Text) : Option α → Text
  | none => "None".toList
  | some value => "Some(".toList ++ describe value ++ [')']

/-- A record by its name and fields, of which there are more than shown. -/
def record (name : String) (fields : List (String × Text)) : Text :=
  let shown := fields.map fun (field, value) => field.toList ++ ": ".toList ++ value
  name.toList ++ " \x7b ".toList ++ Text.join ", ".toList shown ++ ", .. \x7d".toList

def config (config : Config) : Text :=
  record "StyleConfig"
    [("identifier_prefix", config.identPrefix.quoted),
      ("enable_cache", boolean config.caching),
      ("insertion_mode", insertion config.insertion),
      ("minify", boolean config.minify),
      ("max_cache_entries", Numeral.decimal config.maxEntries),
      ("deduplicate", boolean config.deduplicate),
      ("debug", boolean config.debug),
      ("max_idle", duration config.maxIdle),
      ("sweep_interval", duration config.sweepInterval),
      ("sweep_debounce", duration config.sweepDebounce),
      ("post_processor", boolean config.postProcess.isSome),
      ("identifier_generator", boolean config.generate.isSome)]

def update (update : ConfigUpdate) : Text :=
  record "ConfigUpdate"
    [("identifier_prefix", optional Text.quoted update.identPrefix),
      ("enable_cache", optional boolean update.caching),
      ("insertion_mode", optional insertion update.insertion),
      ("minify", optional boolean update.minify),
      ("max_cache_entries", optional Numeral.decimal update.maxEntries),
      ("deduplicate", optional boolean update.deduplicate),
      ("debug", optional boolean update.debug),
      ("max_idle_ms", optional Numeral.decimal update.maxIdle),
      ("sweep_interval_ms", optional Numeral.decimal update.sweepInterval),
      ("sweep_debounce_ms", optional Numeral.decimal update.sweepDebounce),
      ("sink", boolean update.sink.isSome)]

end Describe

end Stylesheet
