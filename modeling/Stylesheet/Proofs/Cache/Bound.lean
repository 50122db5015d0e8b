import Stylesheet.Proofs.Cache.Sweep
import Stylesheet.Proofs.Cache.Turnover
import Stylesheet.Sink.Sheet

/-!
# The bound on entries

A store may hold more entries than the configuration allows, but only because an insertion came too soon after a run of maintenance to be followed by one, and such an insertion asks for maintenance. Everything that takes the request away, a run of maintenance or the end of the cache, also brings the stores back within the bound, and nothing else makes a store larger. Raising the bound does no harm; lowering it would, as nobody asks for maintenance then.
-/

namespace Stylesheet

variable {σ : Type}

namespace Cache

variable {cache between after : Cache} {now : Time}

/-- One of the stores holds more entries than a sweep would leave there. -/
def Exceeds (cache : Cache) : Prop :=
  cache.config.maxEntries < cache.styles.length ∨
    cache.config.maxEntries < cache.keyframes.length

instance : Decidable cache.Exceeds := inferInstanceAs (Decidable (_ ∨ _))

/-! ### Steps that make no store larger -/

/-- Neither store holds more than before, and the configuration and the schedule are the same. -/
structure Shrinks (cache after : Cache) : Prop where
  styles : after.styles.length ≤ cache.styles.length
  keyframes : after.keyframes.length ≤ cache.keyframes.length
  config : after.config = cache.config
  schedule : after.schedule = cache.schedule

namespace Shrinks

theorem of_stores_eq (hstyles : after.styles = cache.styles)
    (hkeyframes : after.keyframes = cache.keyframes) (hconfig : after.config = cache.config)
    (hschedule : after.schedule = cache.schedule) : cache.Shrinks after :=
  ⟨hstyles ▸ Nat.le_refl _, hkeyframes ▸ Nat.le_refl _, hconfig, hschedule⟩

theorem trans (hfirst : cache.Shrinks between) (hsecond : between.Shrinks after) :
    cache.Shrinks after where
  styles := Nat.le_trans hsecond.styles hfirst.styles
  keyframes := Nat.le_trans hsecond.keyframes hfirst.keyframes
  config := hsecond.config.trans hfirst.config
  schedule := hsecond.schedule.trans hfirst.schedule

theorem modifyStore {kind : RuleKind} {change : Store → Store}
    (hchange : ∀ store : Store, (change store).length ≤ store.length) :
    cache.Shrinks (cache.modifyStore kind change) := by
  cases kind
  · exact ⟨hchange _, Nat.le_refl _, rfl, rfl⟩
  · exact ⟨Nat.le_refl _, hchange _, rfl, rfl⟩
  · exact ⟨hchange _, Nat.le_refl _, rfl, rfl⟩

theorem touch (cache : Cache) (request : Request) (now : Time) :
    cache.Shrinks (cache.touch request now) := by
  apply modifyStore
  intro store
  rw [Store.modify, List.length_map]

theorem concluded (cache : Cache) (item : Waiting) (delivered : Bool) :
    cache.Shrinks (cache.concluded item delivered) := by
  apply modifyStore
  intro store
  cases delivered with
  | true =>
    rw [Waiting.conclude, if_pos rfl, Store.markMaterialized]
    split
    · rw [Store.modify, List.length_map]
    · exact Nat.le_refl _
  | false =>
    rw [Waiting.conclude, if_neg Bool.false_ne_true, Store.removeIfIssued]
    split
    · exact List.length_filter_le _ _
    · exact Nat.le_refl _

theorem settle (host : Host σ) (session : Session σ) (item : Waiting) :
    session.cache.Shrinks (session.settle host item).2.cache := by
  obtain ⟨settled, handover, hcache⟩ := session.settle_handover host item
  obtain ⟨memory, counters, rfl⟩ := handover.frame
  rw [hcache]
  have hsettled : session.cache.Shrinks { session.cache with memory, counters } :=
    of_stores_eq rfl rfl rfl rfl
  exact hsettled.trans (concluded _ item _)

theorem flush (host : Host σ) (session : Session σ) (mode : InsertionMode) (budget : Nat) :
    session.cache.Shrinks (session.flush host mode budget).2.cache := by
  apply Session.settleAll_keeps (fun _ later => session.cache.Shrinks later.cache)
  · intro item _ later hshrinks
    exact hshrinks.trans (settle host later item)
  · exact of_stores_eq rfl rfl rfl rfl

theorem exceeds (hshrinks : cache.Shrinks after) (hexceeds : after.Exceeds) : cache.Exceeds := by
  obtain ⟨hstyles, hkeyframes, hconfig, -⟩ := hshrinks
  rw [Exceeds, hconfig] at hexceeds
  rw [Exceeds]
  omega

end Shrinks

/-! ### Steps that sweep -/

theorem not_exceeds_swept (hdistinct : cache.Distinct) (now : Time) :
    ¬(cache.swept now).Exceeds := by
  have hstyles : (cache.swept now).styles.length ≤ (cache.swept now).config.maxEntries :=
    Store.length_kept_le hdistinct.styles now cache.config.maxIdle cache.config.maxEntries
  have hkeyframes : (cache.swept now).keyframes.length ≤ (cache.swept now).config.maxEntries :=
    Store.length_kept_le hdistinct.keyframes now cache.config.maxIdle cache.config.maxEntries
  rw [Exceeds]
  omega

theorem not_exceeds_maintained (hdistinct : cache.Distinct) (now : Time) :
    ¬(cache.maintained now).Exceeds :=
  not_exceeds_swept hdistinct now

theorem not_exceeds_cleared (cache : Cache) : ¬cache.cleared.Exceeds := by
  intro hexceeds
  rcases hexceeds with hstyles | hkeyframes
  · exact Nat.not_lt_zero _ hstyles
  · exact Nat.not_lt_zero _ hkeyframes

/-- The bound was exceeded before and the schedule is still the same, or maintenance is asked for by an insertion that came within the debounce window. -/
def Explains (now : Time) (cache after : Cache) : Prop :=
  (cache.Exceeds ∧ after.schedule = cache.schedule) ∨
    (cache.schedule.withinDebounce now cache.config.sweepDebounce = true ∧
      after.schedule.requested = true)

theorem Shrinks.explains (hshrinks : cache.Shrinks after) (hexceeds : after.Exceeds) :
    Explains now cache after :=
  .inl ⟨hshrinks.exceeds hexceeds, hshrinks.schedule⟩

theorem explains_followedUp (hdistinct : cache.Distinct)
    (hexceeds : (cache.followedUp now).Exceeds) :
    cache.schedule.withinDebounce now cache.config.sweepDebounce = true ∧
      (cache.followedUp now).schedule.requested = true := by
  rw [followedUp] at hexceeds ⊢
  split at hexceeds
  · rename_i hwithin
    rw [if_pos hwithin]
    exact ⟨hwithin, rfl⟩
  · exact absurd hexceeds (not_exceeds_maintained hdistinct now)

end Cache

/-! ### Commands -/

namespace Session

open Cache (Explains Shrinks)

variable {host : Host σ} {request : Request} {cache after : Cache} {sinks sinksAfter : σ}
  {now : Time}

theorem Issuance.shrinks {issued : Issued}
    (hissue : Issuance host request cache sinks issued after sinksAfter) :
    cache.Shrinks after := by
  obtain ⟨queue, memory, counters, number, rfl⟩ := hissue.frame
  exact .of_stores_eq rfl rfl rfl rfl

theorem Resolved.explains {resolution : Resolution}
    (hresolved : Resolved host request now cache sinks resolution after sinksAfter)
    (hdistinct : cache.Distinct) (hexceeds : after.Exceeds) : Explains now cache after := by
  cases hresolved with
  | hit =>
    have htouched : cache.Shrinks (cache.touch request now) := .touch cache request now
    have hcounted : (cache.touch request now).Shrinks (cache.touch request now).countHit :=
      .of_stores_eq rfl rfl rfl rfl
    exact (htouched.trans hcounted).explains hexceeds
  | @missed issued issuedCache _ hmissing hissue =>
    -- Only the insertion makes a store larger, and the maintenance that follows it decides.
    have hissued := hissue.shrinks
    rw [Cache.recorded] at hexceeds ⊢
    split at hexceeds
    · rename_i hrejected
      rw [if_pos hrejected]
      exact hissued.explains hexceeds
    rename_i hreal
    rw [if_neg hreal]
    split at hexceeds
    · rename_i hentered
      rw [if_pos hentered]
      rw [← hissue.find?_eq request, Cache.find?_eq hentered.1] at hmissing
      have hturnover : Cache.Turnover now cache issuedCache := .issuance hissue
      have hmade : (issuedCache.enter request (issued.entry now)).Distinct :=
        (hdistinct.turnover hturnover).enter hmissing
      have hcounted : (issuedCache.enter request (issued.entry now)).countMiss.Distinct :=
        ⟨hmade.styles, hmade.keyframes⟩
      obtain ⟨hwithin, hrequested⟩ := Cache.explains_followedUp hcounted hexceeds
      have hschedule : (issuedCache.enter request (issued.entry now)).countMiss.schedule =
          cache.schedule :=
        (Cache.schedule_modifyStore _ issuedCache).trans hissued.schedule
      have hconfig : (issuedCache.enter request (issued.entry now)).countMiss.config =
          cache.config :=
        (Cache.config_modifyStore _ issuedCache).trans hissued.config
      rw [hschedule, hconfig] at hwithin
      exact .inr ⟨hwithin, hrequested⟩
    · rename_i hbypassed
      rw [if_neg hbypassed]
      exact (hissued.trans (.of_stores_eq rfl rfl rfl rfl)).explains hexceeds

end Session

namespace Command

open Cache (Explains Shrinks)

variable {host : Host σ}

theorem effect_exceeds {session after : Session σ} {command : Command}
    (heffect : Effect host session command after) (hdistinct : session.cache.Distinct)
    (hraised : session.cache.config.maxEntries ≤ after.cache.config.maxEntries)
    (hexceeds : after.cache.Exceeds) :
    session.cache.Exceeds ∧ after.cache.schedule = session.cache.schedule := by
  cases heffect with
  | idle | rejected => exact ⟨hexceeds, rfl⟩
  | swept time =>
    rw [Session.cache_evictAt] at hexceeds
    exact absurd hexceeds (Cache.not_exceeds_swept hdistinct time)
  | maintained time =>
    rw [Session.cache_maintainAt] at hexceeds ⊢
    split at hexceeds
    · exact absurd hexceeds (Cache.not_exceeds_maintained hdistinct time)
    · rename_i hearly
      rw [if_neg hearly]
      exact ⟨hexceeds, rfl⟩
  | flushedDeferred =>
    have hshrinks := Shrinks.flush host session .deferred session.cache.queue.length
    exact ⟨hshrinks.exceeds hexceeds, hshrinks.schedule⟩
  | flushedIdle budget =>
    have hshrinks := Shrinks.flush host session .idle budget
    exact ⟨hshrinks.exceeds hexceeds, hshrinks.schedule⟩
  | configured update =>
    refine ⟨?_, rfl⟩
    rcases hexceeds with hstyles | hkeyframes
    · exact .inl (Nat.lt_of_le_of_lt hraised hstyles)
    · exact .inr (Nat.lt_of_le_of_lt hraised hkeyframes)
  | cleared => exact absurd hexceeds (Cache.not_exceeds_cleared _)
  | destroyed =>
    rw [Session.cache_destroy] at hexceeds
    exact absurd hexceeds (Cache.not_exceeds_cleared _)

/-- A command that does not lower the bound leaves no store beyond it without a reason. -/
theorem explains_next {moment : Moment σ} (hdistinct : moment.session.cache.Distinct)
    (hraised : moment.session.cache.config.maxEntries ≤ (moment.next host).cache.config.maxEntries)
    (hexceeds : (moment.next host).cache.Exceeds) :
    Explains moment.now moment.session.cache (moment.next host).cache := by
  cases hrequest : moment.command.request? with
  | none =>
    have heffect := run_effect host moment.now moment.session hrequest
    exact .inl (effect_exceeds heffect hdistinct hraised hexceeds)
  | some request =>
    obtain ⟨resolution, hresolved⟩ := resolved_run host moment.now moment.session hrequest
    exact hresolved.explains hdistinct hexceeds

variable (host) (config : Config) (state : σ) {commands : List (Time × Command)}

/-- What explains a bound that is exceeded explains it after every run. -/
theorem excess_runAll (Reason : Session σ → Prop)
    (hraised : ∀ moment ∈ moments host commands (.start config state),
      moment.session.cache.config.maxEntries ≤ (moment.next host).cache.config.maxEntries)
    (hstep : ∀ moment ∈ moments host commands (.start config state),
      (moment.session.cache.Exceeds → Reason moment.session) →
      Explains moment.now moment.session.cache (moment.next host).cache →
        Reason (moment.next host)) :
    (runAll host commands (.start config state)).2.cache.Exceeds →
      Reason (runAll host commands (.start config state)).2 := by
  refine (runAll_keeps host (fun session => session.cache.Exceeds → Reason session) ?_ ?_).2
  · intro hexceeds
    exact absurd hexceeds (Cache.not_exceeds_cleared (.ofConfig config))
  · intro moment hmoment hreason hexceeds
    have hdistinct := (distinct_start host config state).1 moment hmoment
    exact hstep moment hmoment hreason
      (explains_next hdistinct (hraised moment hmoment) hexceeds)

/-- After every run that never lowers the bound, a bound that is exceeded comes with a request for maintenance, so that maintenance at whatever time is due and brings both stores back within it; and without a debounce window the bound is not exceeded at all. -/
theorem requested_of_exceeds {session : Session σ}
    (hraised : ∀ moment ∈ moments host commands (.start config state),
      moment.session.cache.config.maxEntries ≤ (moment.next host).cache.config.maxEntries)
    (hreached : (runAll host commands (.start config state)).2 = session) :
    (session.cache.Exceeds → session.cache.schedule.requested = true ∧
      ∀ now time, ((maintainAt time).run host now session).1 = .truth true ∧
        ¬((maintainAt time).run host now session).2.cache.Exceeds) ∧
    ((∀ moment ∈ moments host commands (.start config state),
      moment.session.cache.config.sweepDebounce = 0) → ¬session.cache.Exceeds) := by
  subst hreached
  constructor
  case left =>
    intro hexceeds
    have hrequested : (runAll host commands (.start config state)).2.cache.schedule.requested =
        true := by
      refine excess_runAll host config state (·.cache.schedule.requested = true) hraised ?_ hexceeds
      intro moment hmoment hbefore hexplains
      rcases hexplains with ⟨hexceeded, hschedule⟩ | ⟨-, hasked⟩
      · rw [hschedule]
        exact hbefore hexceeded
      · exact hasked
    refine ⟨hrequested, fun now time => ?_⟩
    have hdue : (runAll host commands (.start config state)).2.cache.schedule.isDue time
        (runAll host commands (.start config state)).2.cache.config.sweepInterval = true := by
      rw [Cache.Schedule.isDue, hrequested, Bool.true_or]
    have hdistinct : (runAll host commands (.start config state)).2.cache.Distinct :=
      (distinct_start host config state).2
    constructor
    · simp only [run, Session.maintainAt, hdue, if_true]
    · simp only [run]
      rw [Session.cache_maintainAt, if_pos hdue]
      exact Cache.not_exceeds_maintained hdistinct time
  case right =>
    intro hdebounce hexceeds
    refine excess_runAll host config state (fun _ => False) hraised ?_ hexceeds
    intro moment hmoment hbefore hexplains
    rcases hexplains with ⟨hexceeded, -⟩ | ⟨hwithin, -⟩
    · exact hbefore hexceeded
    · rw [hdebounce moment hmoment, Cache.Schedule.withinDebounce] at hwithin
      split at hwithin
      · exact Bool.false_ne_true hwithin
      · exact Nat.not_lt_zero _ (of_decide_eq_true hwithin)

/-- Two styles at one time. -/
def twoAtOnce : List (Time × Command) :=
  [(0, .style [("color".toList, .text "red".toList)] {}),
    (0, .style [("color".toList, .text "blue".toList)] {})]

/-- The second style comes too soon for a sweep; without a debounce window it is followed by one. -/
theorem requested_of_exceeds_twoAtOnce :
    (runAll Sheet.host twoAtOnce (.start { maxEntries := 1 } [])).2.cache.Exceeds ∧
      (runAll Sheet.host twoAtOnce (.start { maxEntries := 1 } [])).2.cache.schedule.requested = true ∧
      ¬((maintainAt (-5)).run Sheet.host 0
        (runAll Sheet.host twoAtOnce (.start { maxEntries := 1 } [])).2).2.cache.Exceeds ∧
      ¬(runAll Sheet.host twoAtOnce
        (.start { maxEntries := 1, sweepDebounce := 0 } [])).2.cache.Exceeds := by
  have hexceeds : (runAll Sheet.host twoAtOnce (.start { maxEntries := 1 } [])).2.cache.Exceeds := by
    decide +kernel
  obtain ⟨hrequested, hmaintained⟩ :=
    (requested_of_exceeds Sheet.host { maxEntries := 1 } [] (by decide +kernel) rfl).1 hexceeds
  refine ⟨hexceeds, hrequested, (hmaintained 0 (-5)).2, ?_⟩
  exact (requested_of_exceeds Sheet.host { maxEntries := 1, sweepDebounce := 0 } []
    (by decide +kernel) rfl).2 (by decide +kernel)

end Command

end Stylesheet
