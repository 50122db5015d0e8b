import Stylesheet.Proofs.Cache.Path
import Stylesheet.Sink.Sheet

/-!
# Texts that come again

With deduplication on, a repeatable text that a sink accepted is remembered until something makes the memory forget it, and what is remembered is kept from every sink. `Retained` states both halves over everything that happened so far. The first one is what the acceptance of a text has to leave behind, the second one what it has to check, so an acceptance needs the first half of the past to prove the second half of itself.
-/

namespace Stylesheet

variable {σ : Type}

namespace Happening

/-- A sink accepted the text, and the text can come again. -/
def AcceptsRepeatable (taken : Text) : Happening → Prop
  | accepted _ text repeatable _ => text = taken ∧ repeatable = true
  | _ => False

/-- Something that can take the digest of the text out of the memory. -/
def Forgets (text : Text) : Happening → Prop
  | accepted _ _ _ startedOver => startedOver = true
  | evicted other => Hash.ofText other = Hash.ofText text
  | installed _ | cleared | destroyed _ => True
  | refused .. | skipped .. => False

end Happening

/-- Everything after the acceptance of a repeatable text leaves its digest in the memory. -/
def Fresh (text : Text) (past : List Happening) : Prop :=
  Since (Happening.AcceptsRepeatable text) (Happening.Forgets text) past

/-- A repeatable text is only accepted if it is not remembered. -/
def Unremembered (before : List Happening) : Happening → Prop
  | .accepted _ text true _ => ¬Fresh text before
  | _ => True

namespace Cache

variable {host : Host σ} {cache after : Cache} {sinks sinksAfter : σ}
  {past happenings : List Happening} {happening : Happening}

/-! ### What the memory keeps -/

theorem mem_memory_accepted_self {text : Text} {repeatable : Bool}
    (hremembers : cache.remembers repeatable = true) :
    Hash.ofText text ∈ (cache.accepted text repeatable).memory := by
  rw [accepted, if_pos hremembers]
  show Hash.ofText text ∈ Memory.add _ _ _
  rw [Memory.add]
  split
  · exact List.mem_singleton_self _
  · exact List.mem_insert_self

theorem mem_memory_accepted_of_mem {text : Text} {repeatable : Bool} {digest : UInt64}
    (hmem : digest ∈ cache.memory) (hroom : cache.startsOver repeatable = false) :
    digest ∈ (cache.accepted text repeatable).memory := by
  rw [accepted]
  split
  · rename_i hremembers
    have hroom : cache.memory.isFull cache.memoryLimit = false := by
      simpa [startsOver, hremembers] using hroom
    show digest ∈ Memory.add cache.memoryLimit _ cache.memory
    rw [Memory.add, hroom]
    exact List.mem_insert_of_mem hmem
  · exact hmem

/-! ### Along a path -/

/-- The memory holds the digest of every text that is fresh, and no repeatable text was accepted while it was. -/
structure Retained (past : List Happening) (cache : Cache) : Prop where
  memory : ∀ text, Fresh text past → Hash.ofText text ∈ cache.memory
  repeats : Always Unremembered past

theorem Retained.start (config : Config) : Retained [] (.ofConfig config) where
  memory text hfresh := by
    obtain ⟨before, happening, between, hpast, -⟩ := hfresh
    simp at hpast
  repeats := always_nil

/-- After a happening that is no acceptance it is enough that the memory lost nothing but what was forgotten. -/
theorem Retained.concat (hretained : cache.Retained past)
    (hother : ∀ text, ¬happening.AcceptsRepeatable text)
    (hunremembered : Unremembered past happening)
    (hmemory : ∀ text, ¬happening.Forgets text → Hash.ofText text ∈ cache.memory →
      Hash.ofText text ∈ after.memory) :
    after.Retained (past ++ [happening]) where
  memory text hfresh := by
    obtain ⟨hold, hkept⟩ := (since_concat.mp hfresh).resolve_left (hother text)
    exact hmemory text hkept (hretained.memory text hold)
  repeats := hretained.repeats.concat hunremembered

theorem Retained.accepted (hretained : cache.Retained past)
    (hdedup : cache.config.deduplicate = true) (sink : SinkId) {text : Text} {repeatable : Bool}
    (hnew : cache.knows text repeatable = false) :
    (cache.accepted text repeatable).Retained
      (past ++ [.accepted sink text repeatable (cache.startsOver repeatable)]) where
  memory other hfresh := by
    rcases since_concat.mp hfresh with ⟨rfl, rfl⟩ | ⟨hold, hroom⟩
    · exact mem_memory_accepted_self (by simp [remembers, hdedup])
    · exact mem_memory_accepted_of_mem (hretained.memory other hold)
        (Bool.eq_false_iff.mpr hroom)
  repeats := by
    refine hretained.repeats.concat ?_
    cases repeatable with
    | false => trivial
    | true =>
      -- A fresh text is in the memory, and then the sink would not have been called.
      intro hfresh
      have hknown : cache.knows text true = true := by
        simpa [knows, remembers, hdedup] using hretained.memory text hfresh
      rw [hknown] at hnew
      exact Bool.noConfusion hnew

/-- Nothing on a path makes the memory lose a fresh text while deduplication is on. -/
theorem Retained.path (hretained : cache.Retained past)
    (hpath : Undergoes host (·.deduplicate = true) cache sinks happenings after sinksAfter) :
    after.Retained (past ++ happenings) := by
  induction hpath generalizing past with
  | quiet _ hmemory =>
    rw [List.append_nil]
    exact ⟨hmemory ▸ hretained.memory, hretained.repeats⟩
  | adjusted hsink =>
    rw [List.append_nil]
    exact ⟨by simpa [configured, hsink] using hretained.memory, hretained.repeats⟩
  | skipped | refused =>
    exact hretained.concat (fun _ => id) trivial fun _ _ hmem => hmem
  | accepted hdedup _ hnew => exact hretained.accepted hdedup _ hnew
  | evicted =>
    refine hretained.concat (fun _ => id) trivial fun text hkept hmem => ?_
    exact List.mem_filter.mpr ⟨hmem, decide_eq_true fun hforgotten =>
      hkept (List.mem_singleton.mp hforgotten).symm⟩
  -- The memory is empty now, and no text is fresh any more.
  | installed | cleared | destroyed =>
    exact hretained.concat (fun _ => id) trivial fun _ hkept => absurd trivial hkept
  | trans _ _ ihfirst ihsecond =>
    rw [← List.append_assoc]
    exact ihsecond (ihfirst hretained)

end Cache

namespace Command

variable (host : Host σ) (config : Config) (state : σ) {commands : List (Time × Command)}

/-- If deduplication is on throughout a run, then between two acceptances of one repeatable text something made the memory forget it. The acceptances are those of the chronicle, and the calls that the chronicle tells of are those that the sinks recorded. -/
theorem forgotten_between
    (hdedup : ∀ moment ∈ moments host commands (.start config state),
      moment.session.cache.config.deduplicate = true)
    {before between : List Happening} {first second : SinkId} {text : Text}
    {startedOver startedOverAgain : Bool}
    (hpast : before ++ .accepted first text true startedOver :: between
        ++ [.accepted second text true startedOverAgain]
      <+: chronicle host commands (.start config state)) :
    (∃ happening ∈ between, happening.Forgets text) ∧
      events host commands (.start config state) =
        (chronicle host commands (.start config state)).filterMap Happening.event? := by
  have hretained : (runAll host commands (.start config state)).2.cache.Retained
      (chronicle host commands (.start config state)) :=
    (Cache.Retained.start config).path (undergoes_start host config state commands hdedup)
  have hunremembered := hretained.repeats _ _ hpast
  refine ⟨?_, events_chronicle host commands _⟩
  by_contra hnone
  exact hunremembered ⟨before, _, between, rfl, ⟨rfl, rfl⟩, fun later hlater hforgets =>
    hnone ⟨later, hlater, hforgets⟩⟩

/-- A style with a name of its own is delivered at once, then from the queue, and again after the cache was cleared. -/
def namedThrice : List (Time × Command) :=
  let note : Command :=
    .style [("color".toList, .text "red".toList)] ⟨some "note".toList, none, false⟩
  [(0, .configure { caching := some false }), (1, note),
    (2, .configure { insertion := some .idle }), (3, note), (4, .flushIdle 1), (5, .clear),
    (6, note), (7, .flushIdle 1)]

/-- What it is compiled to. -/
def noteText : Text := ".note { color: red; }".toList

theorem forgotten_between_namedThrice :
    events Sheet.host namedThrice (.start {} []) =
        [.accepted .builtin noteText, .accepted .builtin noteText] ∧
      [] ++ .accepted .builtin noteText true false :: [.skipped .builtin noteText, .cleared]
        ++ [.accepted .builtin noteText true false]
      <+: chronicle Sheet.host namedThrice (.start {} []) ∧
      ∃ happening ∈ [Happening.skipped .builtin noteText, .cleared],
        happening.Forgets noteText := by
  have hdedup : ∀ moment ∈ moments Sheet.host namedThrice (.start {} []),
      moment.session.cache.config.deduplicate = true := by decide +kernel
  refine ⟨?record, ?past, (forgotten_between Sheet.host {} [] hdedup ?past).1⟩
  case past => decide +kernel
  case record => decide +kernel

end Command

end Stylesheet
