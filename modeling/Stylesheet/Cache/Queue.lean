import Stylesheet.Cache.Entry

/-!
# The queue

Rule text that is not to be delivered at once waits in one queue, whatever its mode. A flush takes items of one mode, oldest first, and the others keep their places.
-/

namespace Stylesheet

namespace Cache

/-- A rule text that waits, with the fingerprint and identifier of the request it belongs to. -/
structure Waiting where
  kind : RuleKind
  fingerprint : Fingerprint
  identifier : Identifier
  text : Text
  mode : InsertionMode
  repeatable : Bool
deriving DecidableEq

abbrev Queue := List Waiting

/-- The first `budget` items of a mode, and what is left of the queue. -/
def Queue.drain (mode : InsertionMode) : Nat → Queue → List Waiting × Queue
  | _, [] => ([], [])
  | 0, queue => ([], queue)
  | budget + 1, item :: rest =>
    if item.mode = mode then
      let drained := drain mode budget rest
      (item :: drained.1, drained.2)
    else
      let drained := drain mode (budget + 1) rest
      (drained.1, item :: drained.2)

end Cache

end Stylesheet
