import Stylesheet.Number.Numeral
import Stylesheet.Ordered
import Stylesheet.Sink.Sheet

/-!
# A rack of sheets

A rack holds the builtin sheet and any number of named ones. A named sheet behaves in one way on deliveries and in one way on releases, where it can be told to refuse or to break down, and the rack keeps a record of every call to a named sheet. A sheet that fails is left as it was.
-/

namespace Stylesheet

inductive SinkBehaviour
  | accept
  | refuse
  /-- Refuses the texts that hold the given one. -/
  | refuseHolding (pattern : Text)
  | crash (payload : Option Text)

namespace SinkBehaviour

def refusal (text : Text) : SinkFailure :=
  .refused ("refusing ".toList ++ Numeral.decimal text.byteSize ++ " bytes".toList)

def deliveryFailure? (text : Text) : SinkBehaviour → Option SinkFailure
  | .accept => none
  | .refuse => some (refusal text)
  | .refuseHolding pattern => if Text.contains pattern text then some (refusal text) else none
  | .crash payload => some (.crashed payload)

/-- A release is never refused. -/
def releaseFailure? : SinkBehaviour → Option SinkFailure
  | .crash payload => some (.crashed payload)
  | _ => none

end SinkBehaviour

/-- A behaviour with the name under which calls are recorded. -/
structure SinkMode where
  name : Text
  behaviour : SinkBehaviour

def SinkMode.ok : SinkMode := ⟨"ok".toList, .accept⟩

structure NamedSheet where
  onDelivery : SinkMode := .ok
  onRelease : SinkMode := .ok
  sheet : Sheet := []

inductive SinkCall
  | deliver (sink mode text : Text)
  | release (sink mode : Text)

structure Rack where
  builtin : Sheet := []
  named : Ordered NamedSheet := []
  /-- Calls to named sheets, the latest first. -/
  calls : List SinkCall := []

namespace Rack

def sheetNamed (name : Text) (rack : Rack) : NamedSheet := (rack.named.find? name).getD {}

def setSheet (name : Text) (sheet : NamedSheet) (rack : Rack) : Rack :=
  { rack with named := rack.named.insert name sheet }

def setModes (name : Text) (onDelivery onRelease : SinkMode) (rack : Rack) : Rack :=
  rack.setSheet name { rack.sheetNamed name with onDelivery, onRelease }

def record (call : SinkCall) (rack : Rack) : Rack := { rack with calls := call :: rack.calls }

def deliver : SinkId → Text → Rack → Except SinkFailure Unit × Rack
  | .builtin, text, rack => (.ok (), { rack with builtin := rack.builtin.add text })
  | .named name, text, rack =>
    let target := rack.sheetNamed name
    let rack := rack.record (.deliver name target.onDelivery.name text)
    match target.onDelivery.behaviour.deliveryFailure? text with
    | some failure => (.error failure, rack)
    | none => (.ok (), rack.setSheet name { target with sheet := target.sheet.add text })

def release : SinkId → Rack → Except SinkFailure Unit × Rack
  | .builtin, rack => (.ok (), { rack with builtin := [] })
  | .named name, rack =>
    let target := rack.sheetNamed name
    let rack := rack.record (.release name target.onRelease.name)
    match target.onRelease.behaviour.releaseFailure? with
    | some failure => (.error failure, rack)
    | none => (.ok (), rack.setSheet name { target with sheet := [] })

def host : Host Rack := ⟨deliver, release⟩

end Rack

end Stylesheet
