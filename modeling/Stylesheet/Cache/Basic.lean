import Stylesheet.Cache.Memory
import Stylesheet.Cache.Queue
import Stylesheet.Cache.Schedule
import Stylesheet.Cache.Store
import Stylesheet.Config.Update
import Stylesheet.Request

/-!
# The cache

A cache has two stores, one for animations and one for everything else, a queue of rule text on its way to the sink, the memory of what the sink has, the schedule of maintenance, counters, and the number of identifiers issued so far, which nothing ever resets. The operations here touch nothing but the cache itself.
-/

namespace Stylesheet

namespace Cache

structure Counters where
  hits : Nat := 0
  misses : Nat := 0
  evictions : Nat := 0
  deliveries : Nat := 0
  failures : Nat := 0
  rejections : Nat := 0
  maintenanceRuns : Nat := 0
deriving DecidableEq

end Cache

structure Cache where
  config : Config := {}
  styles : Cache.Store := []
  keyframes : Cache.Store := []
  queue : Cache.Queue := []
  memory : Cache.Memory := []
  schedule : Cache.Schedule := {}
  counters : Cache.Counters := {}
  issued : Nat := 0

namespace Cache

def ofConfig (config : Config) : Cache := { config }

/-! ### Stores -/

def store (kind : RuleKind) (cache : Cache) : Store :=
  match kind with
  | .style | .global => cache.styles
  | .keyframes => cache.keyframes

def modifyStore (kind : RuleKind) (change : Store → Store) (cache : Cache) : Cache :=
  match kind with
  | .style | .global => { cache with styles := change cache.styles }
  | .keyframes => { cache with keyframes := change cache.keyframes }

def has (request : Request) (cache : Cache) : Bool :=
  (cache.store request.kind).contains (request.fingerprint cache.config)

/-! ### Counters -/

def modifyCounters (change : Counters → Counters) (cache : Cache) : Cache :=
  { cache with counters := change cache.counters }

def countHit (cache : Cache) : Cache :=
  cache.modifyCounters fun c => { c with hits := c.hits + 1 }

def countMiss (cache : Cache) : Cache :=
  cache.modifyCounters fun c => { c with misses := c.misses + 1 }

def countDelivery (cache : Cache) : Cache :=
  cache.modifyCounters fun c => { c with deliveries := c.deliveries + 1 }

def countFailure (cache : Cache) : Cache :=
  cache.modifyCounters fun c => { c with failures := c.failures + 1 }

def countRejection (cache : Cache) : Cache :=
  cache.modifyCounters fun c => { c with rejections := c.rejections + 1 }

def countRun (cache : Cache) : Cache :=
  cache.modifyCounters fun c => { c with maintenanceRuns := c.maintenanceRuns + 1 }

/-! ### Deliveries -/

/-- Only text that can come again is worth remembering. -/
def remembers (repeatable : Bool) (cache : Cache) : Bool := cache.config.deduplicate && repeatable

/-- Whether the sink is known to have a text. -/
def knows (text : Text) (repeatable : Bool) (cache : Cache) : Bool :=
  cache.remembers repeatable && cache.memory.contains (Hash.ofText text)

/-- As many digests as two full stores have entries. -/
def memoryLimit (cache : Cache) : Nat := 2 * cache.config.maxEntries

def remember (text : Text) (cache : Cache) : Cache :=
  { cache with memory := cache.memory.add cache.memoryLimit (Hash.ofText text) }

/-! ### Requests -/

/-- The entry that answers a request, if caching is on and there is one. -/
def find? (request : Request) (cache : Cache) : Option Entry :=
  if cache.config.caching then
    (cache.store request.kind).find? (request.fingerprint cache.config)
  else none

/-- Makes an entry for a request that has none. -/
def enter (request : Request) (entry : Entry) (cache : Cache) : Cache :=
  cache.modifyStore request.kind (Store.add (request.fingerprint cache.config) entry)

def touch (request : Request) (now : Time) (cache : Cache) : Cache :=
  cache.modifyStore request.kind (·.modify (request.fingerprint cache.config) (Entry.touch now))

/-- Puts the text of a request at the end of the queue. -/
def enqueue (request : Request) (identifier : Identifier) (text : Text) (cache : Cache) : Cache :=
  { cache with
    queue := cache.queue ++
      [{ kind := request.kind
         fingerprint := request.fingerprint cache.config
         identifier
         text
         mode := cache.config.insertion
         repeatable := request.isRepeatable cache.config }] }

/-! ### Identifiers -/

/-- What the next identifier is made from. -/
def nextSeed (request : Request) (cache : Cache) : Seed where
  kind := request.kind
  identPrefix := cache.config.identPrefix
  fingerprint := request.fingerprint cache.config
  sequence := cache.issued + 1
  label := request.label?

/-- The identifier that a request would be issued now. -/
def nextIdentifier (request : Request) (cache : Cache) : Identifier :=
  Identifier.issue cache.config request.options? (cache.nextSeed request)

/-- Counts one more identifier. -/
def advance (cache : Cache) : Cache := { cache with issued := cache.issued + 1 }

/-! ### Sweeping -/

/-- The entries that a sweep of both stores removes. -/
def evicted (now : Time) (cache : Cache) : List Entry :=
  let removed := Store.removed now cache.config.maxIdle cache.config.maxEntries
  (removed cache.styles ++ removed cache.keyframes).map (·.2)

/-- The cache after a sweep of both stores; what is evicted may have to be delivered again. -/
def swept (now : Time) (cache : Cache) : Cache :=
  let kept := Store.kept now cache.config.maxIdle cache.config.maxEntries
  let evicted := cache.evicted now
  { cache with
    styles := kept cache.styles
    keyframes := kept cache.keyframes
    memory := cache.memory.forget (evicted.map fun entry => Hash.ofText entry.text)
    counters :=
      { cache.counters with evictions := cache.counters.evictions + evicted.length } }

/-! ### Starting over -/

/-- Empties the stores, the queue and the memory, and forgets hits and misses. -/
def cleared (cache : Cache) : Cache :=
  { cache with
    styles := []
    keyframes := []
    queue := []
    memory := []
    counters := { cache.counters with hits := 0, misses := 0 } }

/-- A cleared cache without any history but the number of identifiers issued. -/
def destroyed (cache : Cache) : Cache := { cache.cleared with counters := {}, schedule := {} }

/-- Installs a configuration; a new sink has not received anything yet. -/
def configured (update : ConfigUpdate) (cache : Cache) : Cache :=
  { cache with
    config := cache.config.apply update
    memory := if update.sink.isSome then [] else cache.memory }

end Cache

end Stylesheet
