import Stylesheet.Cache.Session

/-!
# Maintenance

A sweep can be asked for at any time. Maintenance is a sweep that is counted and put on record in the schedule: it follows every insertion outside the debounce window, and a timer runs it when it is due.
-/

namespace Stylesheet

namespace Session

variable {σ : Type}

def tellEvicted (removed : Nat) (session : Session σ) : Session σ :=
  if removed = 0 then session else session.tell (.evicted removed)

/-- Sweeps both stores and returns how many entries went. -/
def evictAt (now : Time) (session : Session σ) : Nat × Session σ :=
  let removed := (session.cache.evicted now).length
  (removed, (session.modify (Cache.swept now)).tellEvicted removed)

/-- One run of maintenance. -/
def maintain (now : Time) (session : Session σ) : Nat × Session σ :=
  let outcome := session.evictAt now
  (outcome.1, outcome.2.modify fun cache => { cache.countRun with schedule := .ran now })

/-- What follows an insertion: a run of maintenance, unless there was one just before. -/
def afterInsertion (now : Time) (session : Session σ) : Session σ :=
  let asked := session.modify fun cache => { cache with schedule := cache.schedule.request }
  if session.cache.schedule.withinDebounce now session.cache.config.sweepDebounce then asked
  else
    let outcome := asked.maintain now
    outcome.2.tell (.insertionSweep outcome.1)

/-- Runs maintenance if it is due. -/
def maintainAt (now : Time) (session : Session σ) : Bool × Session σ :=
  if session.cache.schedule.isDue now session.cache.config.sweepInterval then
    (true, (session.maintain now).2)
  else (false, session)

end Session

end Stylesheet
