import Stylesheet.Cache.Basic
import Stylesheet.Cache.Notice

/-!
# Working with a cache

A session is a cache at work: the cache, the state of the sinks and the notices so far. Whatever a sink does, nothing is an error for the caller: a rejection and a failed delivery are counted and told, and the work goes on.
-/

namespace Stylesheet

structure Session (σ : Type) where
  cache : Cache
  sinks : σ
  notices : List Notice := []

namespace Session

variable {σ : Type}

/-- A session with a fresh cache. -/
def start (config : Config) (sinks : σ) : Session σ := { cache := .ofConfig config, sinks }

def modify (change : Cache → Cache) (session : Session σ) : Session σ :=
  { session with cache := change session.cache }

def tell (notice : Notice) (session : Session σ) : Session σ :=
  { session with notices := session.notices ++ [notice] }

def tellAll (notices : List Notice) (session : Session σ) : Session σ :=
  { session with notices := session.notices ++ notices }

/-! ### Rejection -/

def reject (reason : Rejection) (session : Session σ) : Session σ :=
  (session.modify Cache.countRejection).tell (.rejected reason)

/-! ### Delivery -/

/-- Remembers a text that the sink accepted. -/
def remember (text : Text) (repeatable : Bool) (session : Session σ) : Session σ :=
  if session.cache.remembers repeatable then
    let told :=
      if session.cache.memory.isFull session.cache.memoryLimit then session.tell .memoryFull
      else session
    told.modify (Cache.remember text)
  else session

/-- Hands a text to the sink, unless it is empty or the sink has it, and tells whether the sink has it now. -/
def deliver (host : Host σ) (text : Text) (repeatable : Bool) (session : Session σ) :
    Bool × Session σ :=
  if text.isEmpty then (true, session)
  else if session.cache.knows text repeatable then (true, session.tell .alreadyDelivered)
  else
    match host.deliver session.cache.config.sink text session.sinks with
    | (.ok (), sinks) =>
      (true, ({ session with sinks }.modify Cache.countDelivery).remember text repeatable)
    | (.error failure, sinks) =>
      (false, ({ session with sinks }.modify Cache.countFailure).tell (.deliveryFailed failure))

/-! ### Settings and endings -/

def configure (update : ConfigUpdate) (session : Session σ) : Session σ :=
  let told := session.tellAll (update.unusablePrefix?.toList.map .unusablePrefix)
  (told.modify (Cache.configured update)).tell
    (.reconfigured (Describe.config (session.cache.config.apply update)))

def clear (session : Session σ) : Session σ := (session.modify Cache.cleared).tell .cleared

def releaseSink (host : Host σ) (session : Session σ) : Session σ :=
  match host.release session.cache.config.sink session.sinks with
  | (.ok (), sinks) => { session with sinks }
  | (.error failure, sinks) => { session with sinks }.tell (.releaseFailed failure)

/-- Releases the sink and forgets everything but the number of identifiers issued. -/
def destroy (host : Host σ) (session : Session σ) : Session σ :=
  ((session.releaseSink host).clear.modify Cache.destroyed).tell .destroyed

end Session

end Stylesheet
