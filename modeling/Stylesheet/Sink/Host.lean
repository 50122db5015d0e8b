import Stylesheet.Text.Basic

/-!
# Sinks

A sink makes rule text effective and belongs to the world around the cache: it may refuse a text or break down over it, and its state is its own. A host runs all sinks; the cache only knows which one it is to use.
-/

namespace Stylesheet

inductive SinkId
  /-- The sheet in memory that a cache starts with. -/
  | builtin
  | named (name : Text)
deriving DecidableEq

inductive SinkFailure
  | refused (reason : Text)
  /-- The sink broke down, with a text or with something else to show for it. -/
  | crashed (payload : Option Text)
deriving DecidableEq

namespace SinkFailure

def payloadText (payload : Option Text) : Text :=
  payload.getD "non-string panic payload".toList

def deliveryMessage : SinkFailure → Text
  | .refused reason => reason
  | .crashed payload => "sink panicked: ".toList ++ payloadText payload

def releaseMessage : SinkFailure → Text
  | .refused reason => reason
  | .crashed payload => "sink panicked on release: ".toList ++ payloadText payload

end SinkFailure

/-- Runs the sinks, whose common state is of type `σ`. -/
structure Host (σ : Type) where
  deliver : SinkId → Text → σ → Except SinkFailure Unit × σ
  /-- Drops everything that was delivered to the sink. -/
  release : SinkId → σ → Except SinkFailure Unit × σ

end Stylesheet
