import Stylesheet.Cache.Session

/-!
# Flushing the queue

A flush takes items out of the queue and delivers them under the configuration of the moment. An item belongs to the entry with its fingerprint and identifier; that entry is marked after a delivery and dropped after a failure, and an entry made anew in the meantime is left alone.
-/

namespace Stylesheet

namespace Session

variable {σ : Type}

/-- What becomes of the entry that an item of the queue belongs to, once the item was delivered or refused. -/
def concludeItem (item : Cache.Waiting) (accepted : Bool) (session : Session σ) : Session σ :=
  if accepted then
    session.modify fun cache =>
      cache.modifyStore item.kind (·.markMaterialized item.fingerprint item.identifier)
  else if (session.cache.store item.kind).carries item.fingerprint item.identifier then
    (session.modify fun cache =>
      cache.modifyStore item.kind (·.removeIfIssued item.fingerprint item.identifier)).tell
        (.dropped item.identifier)
  else session

/-- Delivers one item of the queue and tells whether that went well. -/
def settle (host : Host σ) (item : Cache.Waiting) (session : Session σ) : Bool × Session σ :=
  let outcome := session.deliver host item.text item.repeatable
  (outcome.1, outcome.2.concludeItem item outcome.1)

/-- Settles items in order and counts the ones that went well. -/
def settleAll (host : Host σ) : List Cache.Waiting → Session σ → Nat × Session σ
  | [], session => (0, session)
  | item :: rest, session =>
    let first := session.settle host item
    let others := settleAll host rest first.2
    (if first.1 then others.1 + 1 else others.1, others.2)

/-- Delivers at most `budget` items that were queued in a mode, the oldest first. -/
def flush (host : Host σ) (mode : InsertionMode) (budget : Nat) (session : Session σ) :
    Nat × Session σ :=
  let drained := session.cache.queue.drain mode budget
  settleAll host drained.1 (session.modify fun cache => { cache with queue := drained.2 })

/-- Delivers everything that was queued for later. -/
def flushDeferred (host : Host σ) (session : Session σ) : Nat × Session σ :=
  session.flush host .deferred session.cache.queue.length

def flushIdle (host : Host σ) (budget : Nat) (session : Session σ) : Nat × Session σ :=
  session.flush host .idle budget

end Session

end Stylesheet
