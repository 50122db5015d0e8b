import Stylesheet.Compile.Style

/-!
# Compiling animations

A set of stops compiles into one keyframes rule with the stops in their order. Only the declarations that stand directly in a stop count; a stop without any, or with a blank label, is left out, and without stops there is no rule.
-/

namespace Stylesheet

namespace Compile

def stopLabel (label : Text) : Text := Selector.joinList (Selector.keyParts label)

def stop? (label : Text) (body : Description) : Option Stop :=
  if (stopLabel label).isEmpty || (ownDeclarations body).isEmpty then none
  else some ⟨stopLabel label, ownDeclarations body⟩

def keptStops (stops : Stops) : List Stop := stops.filterMap fun (label, body) => stop? label body

def keyframesRules (name : Text) (stops : Stops) : List Rule :=
  if (keptStops stops).isEmpty then [] else [.keyframes name (keptStops stops)]

def keyframes (mode : RenderMode) (name : Text) (stops : Stops) : Compiled :=
  .ofRules mode (keyframesRules name stops) false

/-! ### Notices -/

def stopEntryNotices (label : Text) : Entry → List Notice
  | .declaration property value => declarationNotices property value
  | .modifier key _ | .atRule key _ | .descendant key _ | .ignored key _ => [.nestedInStop key label]

def stopNotices (name label : Text) (body : Description) : List Notice :=
  if (stopLabel label).isEmpty then [.emptyStopLabel name]
  else (Entry.ofDescription body).flatMap (stopEntryNotices (stopLabel label))

def keyframesNotices (name : Text) (stops : Stops) : List Notice :=
  stops.flatMap fun (label, body) => stopNotices name label body

end Compile

end Stylesheet
