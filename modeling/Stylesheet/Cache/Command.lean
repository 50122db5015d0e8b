import Stylesheet.Cache.Flushing
import Stylesheet.Cache.Resolution

/-!
# Commands

Everything that can be asked of a cache, as data, with one function that carries it out at a given time. A run is a sequence of commands with their times.
-/

namespace Stylesheet

inductive Command
  | style (description : Description) (options : StyleOptions)
  | styleJson (json : Json) (options : StyleOptions)
  | keyframes (stops : Stops)
  | keyframesJson (json : Json)
  | global (selector : Text) (description : Description)
  | hasStyle (description : Description) (options : StyleOptions)
  | hasKeyframes (stops : Stops)
  /-- Sweeps as if it were the given time. -/
  | evictAt (time : Time)
  /-- Runs maintenance as if it were the given time. -/
  | maintainAt (time : Time)
  | flushDeferred
  | flushIdle (budget : Nat)
  | configure (update : ConfigUpdate)
  | clear
  | destroy

inductive Answer
  | identifier (value : Identifier)
  | truth (value : Bool)
  | count (value : Nat)
  | done
deriving DecidableEq

namespace Command

variable {σ : Type}

def identified (outcome : Session.Resolution × Session σ) : Answer × Session σ :=
  (.identifier outcome.1.identifier, outcome.2)

def counted (outcome : Nat × Session σ) : Answer × Session σ := (.count outcome.1, outcome.2)

def rejected (error : DescriptionError) (session : Session σ) : Answer × Session σ :=
  (.identifier Identifier.invalid, session.reject (.badDescription error))

def run (host : Host σ) (now : Time) (session : Session σ) : Command → Answer × Session σ
  | style description options => identified (session.resolve host (.style description options) now)
  | styleJson json options =>
    match Description.ofJson json with
    | .ok description => identified (session.resolve host (.style description options) now)
    | .error error => rejected error session
  | keyframes stops => identified (session.animate host stops now)
  | keyframesJson json =>
    match Stops.ofJson json with
    | .ok stops => identified (session.animate host stops now)
    | .error error => rejected error session
  | global selector description =>
    let outcome := session.inject host selector description now
    (.truth outcome.1.delivered, outcome.2)
  | hasStyle description options =>
    (.truth (session.cache.has (.style description options)), session)
  | hasKeyframes stops => (.truth (session.cache.has (.keyframes stops)), session)
  | evictAt time => counted (session.evictAt time)
  | maintainAt time =>
    let outcome := session.maintainAt time
    (.truth outcome.1, outcome.2)
  | flushDeferred => counted (session.flushDeferred host)
  | flushIdle budget => counted (session.flushIdle host budget)
  | configure update => (.done, session.configure update)
  | clear => (.done, session.clear)
  | destroy => (.done, session.destroy host)

/-- Carries out commands one after another, each at its own time. -/
def runAll (host : Host σ) : List (Time × Command) → Session σ → List Answer × Session σ
  | [], session => ([], session)
  | (now, command) :: rest, session =>
    let first := run host now session command
    let others := runAll host rest first.2
    (first.1 :: others.1, others.2)

end Command

end Stylesheet
