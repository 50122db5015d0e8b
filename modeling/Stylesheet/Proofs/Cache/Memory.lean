import Mathlib.Data.Set.Function
import Stylesheet.Proofs.Cache.Path
import Stylesheet.Sink.Sheet

/-!
# What the memory of deliveries rests on

A digest in the memory is only worth something if the sink in force still has a text with it. It does, since whatever takes texts from a sink, or puts another sink in its place, empties the memory as well: `Founded` says so of the memory and of every delivery that was skipped on its word, and every happening on a path keeps it. How much is remembered is bounded apart from that, at the one place where the memory grows.
-/

namespace Stylesheet

variable {σ : Type}

namespace Happening

/-- The sink accepted the text. -/
def Accepts (taker : SinkId) (taken : Text) : Happening → Prop
  | accepted sink text _ _ => sink = taker ∧ text = taken
  | _ => False

/-- From here on the sink in force has none of the texts that were accepted before. -/
def StartsAnew : Happening → Prop
  | installed _ | cleared | destroyed _ => True
  | _ => False

/-- The text that was there for a sink. -/
def text? : Happening → Option Text
  | accepted _ text _ _ | refused _ text | skipped _ text => some text
  | _ => none

end Happening

/-- The sink accepted the text, and since then no sink was installed and nothing was cleared or destroyed. -/
def HasTaken (sink : SinkId) (text : Text) (past : List Happening) : Prop :=
  Since (Happening.Accepts sink text) Happening.StartsAnew past

/-- A delivery is only skipped if the sink took a text with the same digest before. -/
def Warranted (before : List Happening) : Happening → Prop
  | .skipped sink text => ∃ taken, Hash.ofText taken = Hash.ofText text ∧ HasTaken sink taken before
  | _ => True

theorem HasTaken.mem_texts {sink : SinkId} {text : Text} {past : List Happening}
    (htaken : HasTaken sink text past) : text ∈ past.filterMap Happening.text? := by
  obtain ⟨before, happening, between, rfl, haccepts, -⟩ := htaken
  refine List.mem_filterMap.mpr ⟨happening, by simp, ?_⟩
  cases happening with
  | accepted => exact congrArg some haccepts.2
  | _ => exact haccepts.elim

namespace Cache

variable {host : Host σ} {valid : Config → Prop} {cache after : Cache} {sinks sinksAfter : σ}
  {past happenings : List Happening} {happening : Happening}

/-! ### Where digests come from -/

/-- Every digest in the memory is that of a text that the sink in force took, and every delivery that was skipped was made before. -/
structure Founded (past : List Happening) (cache : Cache) : Prop where
  memory : ∀ digest ∈ cache.memory, ∃ text, Hash.ofText text = digest ∧
    HasTaken cache.config.sink text past
  skips : Always Warranted past

theorem Founded.start (config : Config) : Founded [] (.ofConfig config) where
  memory _ hmem := absurd hmem List.not_mem_nil
  skips := always_nil

/-- A happening that leaves the sink in force what it has is followed by a cache that remembers no more, with the same sink. -/
theorem Founded.concat (hfounded : cache.Founded past) (hlasting : ¬happening.StartsAnew)
    (hwarranted : Warranted past happening) (hsink : after.config.sink = cache.config.sink)
    (hmemory : ∀ digest ∈ after.memory, digest ∈ cache.memory) :
    after.Founded (past ++ [happening]) where
  memory digest hmem := by
    obtain ⟨text, hdigest, htaken⟩ := hfounded.memory digest (hmemory digest hmem)
    exact ⟨text, hdigest, hsink ▸ since_concat.mpr (.inr ⟨htaken, hlasting⟩)⟩
  skips := hfounded.skips.concat hwarranted

theorem Founded.concat_of_empty (hfounded : cache.Founded past)
    (hwarranted : Warranted past happening) (hmemory : after.memory = []) :
    after.Founded (past ++ [happening]) where
  memory _ hmem := absurd hmem (hmemory ▸ List.not_mem_nil)
  skips := hfounded.skips.concat hwarranted

theorem Founded.accepted (hfounded : cache.Founded past) (text : Text)
    (repeatable startedOver : Bool) :
    (cache.accepted text repeatable).Founded
      (past ++ [.accepted cache.config.sink text repeatable startedOver]) where
  memory digest hmem := by
    have hsink : (cache.accepted text repeatable).config.sink = cache.config.sink := by
      rw [accepted_eq]
    rw [hsink]
    rcases mem_memory_accepted hmem with rfl | hold
    · exact ⟨text, rfl, since_concat.mpr (.inl ⟨rfl, rfl⟩)⟩
    · obtain ⟨other, hdigest, htaken⟩ := hfounded.memory digest hold
      exact ⟨other, hdigest, since_concat.mpr (.inr ⟨htaken, id⟩)⟩
  skips := hfounded.skips.concat trivial

/-- Nothing on a path takes the ground from under the memory. -/
theorem Founded.path (hfounded : cache.Founded past)
    (hpath : Undergoes host valid cache sinks happenings after sinksAfter) :
    after.Founded (past ++ happenings) := by
  induction hpath generalizing past with
  | quiet hconfig hmemory =>
    rw [List.append_nil]
    exact ⟨by rw [hmemory, hconfig]; exact hfounded.memory, hfounded.skips⟩
  | @adjusted cache _ update hsink =>
    have hsame : (cache.configured update).config.sink = cache.config.sink := by
      simp [configured, Config.apply, hsink]
    have hkept : (cache.configured update).memory = cache.memory := by simp [configured, hsink]
    rw [List.append_nil]
    exact ⟨by rw [hsame, hkept]; exact hfounded.memory, hfounded.skips⟩
  | installed hsink =>
    exact hfounded.concat_of_empty trivial (by simp [configured, hsink])
  | skipped _ hknown =>
    rw [knows, Bool.and_eq_true] at hknown
    have hmem := List.contains_iff_mem.mp hknown.2
    exact hfounded.concat id (hfounded.memory _ hmem) rfl fun _ hold => hold
  | accepted => exact hfounded.accepted _ _ _
  | refused => exact hfounded.concat id trivial rfl fun _ hold => hold
  | evicted => exact hfounded.concat id trivial rfl fun _ hkept => List.mem_of_mem_filter hkept
  | cleared | destroyed => exact hfounded.concat_of_empty trivial rfl
  | trans _ _ ihfirst ihsecond =>
    rw [← List.append_assoc]
    exact ihsecond (ihfirst hfounded)

/-! ### How many digests there are -/

theorem Memory.length_add_le {limit : Nat} {memory : Memory} (digest : UInt64)
    (hbound : memory.length ≤ max 1 limit) : (memory.add limit digest).length ≤ max 1 limit := by
  rw [Memory.add]
  split
  · exact le_max_left 1 limit
  · rename_i hroom
    have hroom : memory.length < limit := by simpa [Memory.isFull] using hroom
    rw [List.length_insert]
    split <;> omega

/-- The memory never holds more than its limit, and one digest if the limit is nothing. -/
theorem Undergoes.length_memory_le {maxEntries : Nat}
    (hpath : Undergoes host (·.maxEntries = maxEntries) cache sinks happenings after sinksAfter)
    (hbound : cache.memory.length ≤ max 1 (2 * maxEntries)) :
    after.memory.length ≤ max 1 (2 * maxEntries) := by
  induction hpath with
  | quiet _ hmemory => rwa [hmemory]
  | adjusted hsink => simpa [configured, hsink] using hbound
  | installed hsink => simp [configured, hsink]
  | skipped | refused => exact hbound
  | @accepted cache _ _ text _ hvalid =>
    have hlimit : cache.memoryLimit = 2 * maxEntries := congrArg (2 * ·) hvalid
    have hadded : (cache.memory.add cache.memoryLimit (Hash.ofText text)).length ≤
        max 1 cache.memoryLimit :=
      Memory.length_add_le _ (by rwa [hlimit])
    rw [Cache.accepted]
    split
    · exact hadded.trans_eq (by rw [hlimit])
    · exact hbound
  | evicted => exact (List.length_filter_le _ _).trans hbound
  | cleared | destroyed => exact Nat.zero_le _
  | trans _ _ ihfirst ihsecond => exact ihsecond (ihfirst hbound)

end Cache

namespace Command

variable (host : Host σ) (config : Config) (state : σ) (commands : List (Time × Command))

theorem founded_runAll : (runAll host commands (.start config state)).2.cache.Founded
    (chronicle host commands (.start config state)) := by
  have hpath : Cache.Undergoes host (fun _ => True) _ _ _ _ _ :=
    undergoes_start host config state commands fun _ _ => trivial
  exact (Cache.Founded.start config).path hpath

/-- The calls that a chronicle tells of are those that the sinks recorded, and by that chronicle the following holds after every run. A remembered digest is that of a text that the sink in force has taken; if no two texts have a digest in common, a text was only kept from a sink that has taken it; and if the bound on entries never changes, it bounds the memory. -/
theorem remembered_runAll :
    events host commands (.start config state) =
      (chronicle host commands (.start config state)).filterMap Happening.event? ∧
    (∀ digest ∈ (runAll host commands (.start config state)).2.cache.memory,
      ∃ text, Hash.ofText text = digest ∧
        HasTaken (runAll host commands (.start config state)).2.cache.config.sink text
          (chronicle host commands (.start config state))) ∧
    (Set.InjOn Hash.ofText
        {text | text ∈ (chronicle host commands (.start config state)).filterMap Happening.text?} →
      ∀ before sink text,
        before ++ [.skipped sink text] <+: chronicle host commands (.start config state) →
        HasTaken sink text before) ∧
    ∀ maxEntries,
      (∀ moment ∈ moments host commands (.start config state),
        moment.session.cache.config.maxEntries = maxEntries) →
      (runAll host commands (.start config state)).2.cache.memory.length ≤
        max 1 (2 * maxEntries) := by
  have hfounded := founded_runAll host config state commands
  refine ⟨events_chronicle host commands _, hfounded.memory,
    fun hdigest before sink text hpast => ?_, fun maxEntries hconstant => ?_⟩
  · obtain ⟨taken, heq, htaken⟩ := hfounded.skips before _ hpast
    have htexts := (hpast.filterMap Happening.text?).subset
    rw [List.filterMap_append] at htexts
    have hsame : taken = text :=
      hdigest (htexts (List.mem_append_left _ htaken.mem_texts))
        (htexts (by simp [Happening.text?])) heq
    exact hsame ▸ htaken
  · exact (undergoes_start host config state commands hconstant).length_memory_le (Nat.zero_le _)

/-- The same rules are asked for three times without caching, the last time for another sink. -/
def sinkSwap : List (Time × Command) :=
  let paint : Command := .global "body".toList [("color".toList, .text "red".toList)]
  [(0, .configure { caching := some false }), (1, paint), (2, paint),
    (3, .configure { sink := some (.named "page".toList) }), (4, paint)]

/-- What they are compiled to. -/
def paintText : Text := "body { color: red; }".toList

theorem remembered_sinkSwap :
    chronicle Sheet.host sinkSwap (.start {} []) =
        [.accepted .builtin paintText true false, .skipped .builtin paintText,
          .installed (.named "page".toList),
          .accepted (.named "page".toList) paintText true false] ∧
      events Sheet.host sinkSwap (.start {} []) =
        [.accepted .builtin paintText, .accepted (.named "page".toList) paintText] ∧
      HasTaken .builtin paintText [.accepted .builtin paintText true false] ∧
      (∃ text, Hash.ofText text = Hash.ofText paintText ∧ HasTaken (.named "page".toList) text
        (chronicle Sheet.host sinkSwap (.start {} []))) ∧
      (runAll Sheet.host sinkSwap (.start {} [])).2.cache.memory.length ≤ max 1 (2 * 10000) := by
  obtain ⟨hrecord, hmemory, hskips, hbound⟩ := remembered_runAll Sheet.host {} [] sinkSwap
  have hchronicle : chronicle Sheet.host sinkSwap (.start {} []) =
      [.accepted .builtin paintText true false, .skipped .builtin paintText,
        .installed (.named "page".toList),
        .accepted (.named "page".toList) paintText true false] := by decide +kernel
  have hdigest : ∀ left ∈ (chronicle Sheet.host sinkSwap (.start {} [])).filterMap
      Happening.text?, ∀ right ∈ (chronicle Sheet.host sinkSwap (.start {} [])).filterMap
      Happening.text?, Hash.ofText left = Hash.ofText right → left = right := by decide +kernel
  refine ⟨hchronicle, ?_, ?_, ?_, hbound 10000 (by decide +kernel)⟩
  · rw [hrecord, hchronicle]
    rfl
  · exact hskips (fun left hleft right hright => hdigest left hleft right hright)
      [.accepted .builtin paintText true false] .builtin paintText (by decide +kernel)
  · exact hmemory (Hash.ofText paintText) (by decide +kernel)

end Command

end Stylesheet
