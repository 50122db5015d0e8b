import Stylesheet.Cache.Issuing
import Stylesheet.Cache.Maintenance

/-!
# Answering requests

A request that a store has an entry for is a hit and only touches the entry. On a miss the request is issued an identifier, and an entry is made unless the delivery failed or there was nothing to deliver. A sink that fails leaves a request without an entry, so the next one like it is a miss again.
-/

namespace Stylesheet

namespace Session

variable {σ : Type}

/-- The answer to a request: an identifier, and whether its rule text is delivered or queued. -/
structure Resolution where
  identifier : Identifier
  delivered : Bool

def hit (request : Request) (now : Time) (entry : Cache.Entry) (session : Session σ) :
    Resolution × Session σ :=
  let touched := session.modify fun cache => (cache.touch request now).countHit
  (⟨entry.identifier, true⟩,
    touched.tell (.hit (request.fingerprint session.cache.config) entry.identifier))

def Issued.resolution (issued : Issued) : Resolution :=
  ⟨issued.identifier, issued.delivery.succeeded⟩

def Issued.entry (now : Time) (issued : Issued) : Cache.Entry :=
  .create issued.identifier issued.text now (issued.delivery = .materialized)

/-- Counts a miss and makes the entry, if there is to be one. -/
def recordMiss (request : Request) (now : Time) (issued : Issued) (session : Session σ) :
    Session σ :=
  match issued.delivery with
  | .rejected => session
  | .failed => session.modify Cache.countMiss
  | .materialized | .queued =>
    (session.modify fun cache => (cache.enter request (issued.entry now)).countMiss).afterInsertion
      now

def miss (host : Host σ) (request : Request) (now : Time) (session : Session σ) :
    Resolution × Session σ :=
  let outcome := session.issue host request
  (outcome.1.resolution, outcome.2.recordMiss request now outcome.1)

/-- Without caching every request is compiled anew and leaves no entry. -/
def bypass (host : Host σ) (request : Request) (session : Session σ) : Resolution × Session σ :=
  let outcome := session.issue host request
  (outcome.1.resolution,
    if outcome.1.delivery = .rejected then outcome.2 else outcome.2.modify Cache.countMiss)

def resolve (host : Host σ) (request : Request) (now : Time) (session : Session σ) :
    Resolution × Session σ :=
  match session.cache.find? request with
  | some entry => session.hit request now entry
  | none =>
    if session.cache.config.caching then session.miss host request now
    else session.bypass host request

/-- An animation needs at least one stop. -/
def animate (host : Host σ) (stops : Stops) (now : Time) (session : Session σ) :
    Resolution × Session σ :=
  if stops.isEmpty then (⟨Identifier.invalid, false⟩, session.reject .noStops)
  else session.resolve host (.keyframes stops) now

/-- Global rules need a selector that is not blank. -/
def inject (host : Host σ) (selector : Text) (description : Description) (now : Time)
    (session : Session σ) : Resolution × Session σ :=
  if selector.trim.isEmpty then (⟨Identifier.invalid, false⟩, session.reject .noSelector)
  else session.resolve host (.global selector.trim description) now

end Session

end Stylesheet
