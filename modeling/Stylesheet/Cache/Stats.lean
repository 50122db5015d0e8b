import Stylesheet.Cache.Basic
import Stylesheet.Number.Display

/-!
# Statistics

The counters of a cache and the sizes of its parts at one moment.
-/

namespace Stylesheet

namespace Cache

structure Stats where
  counters : Counters
  styleEntries : Nat
  keyframeEntries : Nat
  bytes : Nat
  waiting : Nat
  identifiersIssued : Nat
deriving DecidableEq

def stats (cache : Cache) : Stats where
  counters := cache.counters
  styleEntries := cache.styles.length
  keyframeEntries := cache.keyframes.length
  bytes := cache.styles.bytes + cache.keyframes.bytes
  waiting := cache.queue.length
  identifiersIssued := cache.issued

namespace Stats

def entries (stats : Stats) : Nat := stats.styleEntries + stats.keyframeEntries

/-- The share of hits among all lookups; zero before the first one. -/
def hitRate (stats : Stats) : Binary64 :=
  let lookups := stats.counters.hits + stats.counters.misses
  if lookups = 0 then .zero
  else (Binary64.ofNat stats.counters.hits).div (Binary64.ofNat lookups)

end Stats

end Cache

end Stylesheet
