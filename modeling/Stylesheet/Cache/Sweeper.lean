import Stylesheet.Cache.Maintenance

/-!
# The sweeper

A sweeper runs maintenance every period for as long as its cache lives, and ends at the first tick after that. It ticks for the first time when it first gets to run. A tick in time is followed by the next one a period after its deadline; after a tick that comes more than the slack late the period starts anew.
-/

namespace Stylesheet

structure Sweeper where
  /-- In milliseconds. -/
  period : Nat
  /-- The time of the next tick; none before the first run. -/
  deadline : Option Time := none
  finished : Bool := false
  period_pos : 0 < period := by decide

namespace Sweeper

/-- A period of nothing is taken as a millisecond. -/
def every (millis : Nat) : Sweeper where
  period := max millis 1
  period_pos := by omega

/-- How late a tick may come without moving the ones after it, in milliseconds. -/
def slack : Nat := 5

def nextDeadline (sweeper : Sweeper) (now deadline : Time) : Time :=
  if deadline + slack < now then now + sweeper.period else deadline + sweeper.period

theorem lt_nextDeadline (sweeper : Sweeper) {now deadline : Time} (hdue : deadline ≤ now) :
    deadline < sweeper.nextDeadline now deadline := by
  have := sweeper.period_pos
  simp only [nextDeadline, Time] at *
  split <;> omega

variable {σ : Type}

/-- Ticks until the deadline lies ahead, or until the cache is gone. -/
def tickFrom (now : Time) (sweeper : Sweeper) (deadline : Time) (session : Option (Session σ)) :
    Sweeper × Option (Session σ) :=
  if _hdue : deadline ≤ now then
    match session with
    | none => ({ sweeper with finished := true }, none)
    | some session =>
      tickFrom now sweeper (sweeper.nextDeadline now deadline) (some (session.maintainAt now).2)
  else ({ sweeper with deadline := some deadline }, session)
termination_by (now + 1 - deadline).toNat
decreasing_by
  have := sweeper.lt_nextDeadline _hdue
  simp only [Time] at *
  omega

/-- Lets the sweeper run until it has to wait; without a session the cache is gone. -/
def run (now : Time) (sweeper : Sweeper) (session : Option (Session σ)) :
    Sweeper × Option (Session σ) :=
  if sweeper.finished then (sweeper, session)
  else tickFrom now sweeper (sweeper.deadline.getD now) session

/-- What there is to tell about a step from one state of the sweeper to the next, apart from what the cache tells. -/
def notices (before after : Sweeper) : List Notice :=
  if after.finished && !before.finished then [.sweeperStopped] else []

end Sweeper

end Stylesheet
