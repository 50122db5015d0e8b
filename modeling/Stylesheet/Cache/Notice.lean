import Stylesheet.Compile.Notice
import Stylesheet.Config.Describe
import Stylesheet.Identifier
import Stylesheet.Style.OfJson

/-!
# Notices of the cache

What the cache tells about its work. Rejected input and failures of a sink are never errors for the caller; they are counted and told here.
-/

namespace Stylesheet

/-- Why a request is not answered with an identifier of its own. -/
inductive Rejection
  | badDescription (error : DescriptionError)
  | noStops
  | noSelector
  | noRules (fingerprint : Fingerprint)
deriving DecidableEq

def Rejection.message : Rejection → Text
  | .badDescription error => error.message
  | .noStops => "empty keyframe stop set".toList
  | .noSelector => "empty global selector".toList
  | .noRules fingerprint => fingerprint.hex ++ " compiled to no rules".toList

inductive Notice
  | compiler (notice : Compile.Notice)
  | unusablePrefix (raw : Text)
  | unusableName (raw : Text)
  | unusableProduct (produced : Text)
  | reconfigured (description : Text)
  | hit (fingerprint : Fingerprint) (identifier : Identifier)
  | compiled (identifier : Identifier) (text : Text)
  | missed (fingerprint : Fingerprint) (identifier : Identifier)
  | alreadyDelivered
  | memoryFull
  | deliveryFailed (failure : SinkFailure)
  | dropped (identifier : Identifier)
  | insertionSweep (removed : Nat)
  | evicted (removed : Nat)
  | cleared
  | releaseFailed (failure : SinkFailure)
  | destroyed
  | rejected (reason : Rejection)
  | sweeperStopped
deriving DecidableEq

namespace Notice

def level : Notice → Level
  | .compiler notice => notice.record.level
  | .unusablePrefix _ | .unusableName _ | .unusableProduct _ => .warn
  | .reconfigured _ => .debug
  | .hit .. => .trace
  | .compiled .. => .info
  | .missed .. | .alreadyDelivered | .memoryFull => .trace
  | .deliveryFailed _ => .warn
  | .dropped _ => .debug
  | .insertionSweep _ => .trace
  | .evicted _ | .cleared => .debug
  | .releaseFailed _ => .warn
  | .destroyed => .info
  | .rejected _ => .warn
  | .sweeperStopped => .debug

def message : Notice → Text
  | .compiler notice => notice.message
  | .unusablePrefix raw => "ignoring empty identifier prefix ".toList ++ ticked raw
  | .unusableName raw =>
    "custom name ".toList ++ ticked raw ++ " has no usable characters".toList
  | .unusableProduct produced =>
    "identifier generator returned ".toList ++ ticked produced
      ++ ", using the default scheme".toList
  | .reconfigured description => "Reconfigured: ".toList ++ description
  | .hit fingerprint identifier =>
    "Cache hit for ".toList ++ fingerprint.hex ++ " -> ".toList ++ identifier
  | .compiled identifier text =>
    "Compiled ".toList ++ identifier ++ " (".toList ++ Numeral.decimal text.byteSize
      ++ " bytes): ".toList ++ text
  | .missed fingerprint identifier =>
    "Cache miss for ".toList ++ fingerprint.hex ++ ", compiled ".toList ++ identifier
  | .alreadyDelivered => "Rule text already delivered, skipping sink".toList
  | .memoryFull => "Dedup memory full, starting over".toList
  | .deliveryFailed failure =>
    "Materialization failed, entry left uncached: ".toList ++ failure.deliveryMessage
  | .dropped identifier =>
    "Dropped ".toList ++ identifier ++ " after failed deferred materialization".toList
  | .insertionSweep removed =>
    "Insertion sweep removed ".toList ++ Numeral.decimal removed ++ " entries".toList
  | .evicted removed => "Evicted ".toList ++ Numeral.decimal removed ++ " entries".toList
  | .cleared => "Cache cleared".toList
  | .releaseFailed failure => "Sink release failed: ".toList ++ failure.releaseMessage
  | .destroyed => "Style cache destroyed".toList
  | .rejected reason => "Rejected invalid input: ".toList ++ reason.message
  | .sweeperStopped => "Cache dropped, stopping sweeper".toList

def record (notice : Notice) : LogRecord := ⟨notice.level, notice.message⟩

end Notice

end Stylesheet
