import Stylesheet.Hash.Write
import Stylesheet.Number.Numeral

/-!
# Fingerprints

A request is known by a hash of sixty-four bits over its kind, its content and the settings that shape its output. Requests that differ and still share a fingerprint share an entry; that risk is accepted.
-/

namespace Stylesheet

/-- What a request asks for: the class of an element, an animation, or rules for a selector of its own. -/
inductive RuleKind
  | style
  | keyframes
  | global
deriving DecidableEq

namespace RuleKind

def tag : RuleKind → Nat
  | .style => 0
  | .keyframes => 1
  | .global => 2

def name : RuleKind → Text
  | .style => "style".toList
  | .keyframes => "keyframes".toList
  | .global => "global".toList

end RuleKind

structure Fingerprint where
  word : UInt64
deriving DecidableEq

namespace Fingerprint

def hex (fingerprint : Fingerprint) : Text := Numeral.hex16 fingerprint.word

def base36 (fingerprint : Fingerprint) : Text := Numeral.base36 fingerprint.word

end Fingerprint

end Stylesheet
