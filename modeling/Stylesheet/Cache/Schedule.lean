import Stylesheet.Cache.Entry

/-!
# The schedule of maintenance

Maintenance runs after an insertion unless one ran just before, and on a timer if it was asked for or a whole interval has passed. What was asked for inside the debounce window waits for the next run.
-/

namespace Stylesheet

namespace Cache

structure Schedule where
  requested : Bool := false
  lastRun : Option Time := none
deriving DecidableEq

namespace Schedule

def request (schedule : Schedule) : Schedule := { schedule with requested := true }

def withinDebounce (now : Time) (debounce : Nat) (schedule : Schedule) : Bool :=
  match schedule.lastRun with
  | none => false
  | some last => Time.since now last < debounce

def isDue (now : Time) (interval : Nat) (schedule : Schedule) : Bool :=
  schedule.requested
    || match schedule.lastRun with
      | none => true
      | some last => interval ≤ Time.since now last

/-- A run answers every request made before it. -/
def ran (now : Time) : Schedule := ⟨false, some now⟩

end Schedule

end Cache

end Stylesheet
