import Stylesheet.Proofs.Cache.Endurance
import Stylesheet.Sink.Sheet

/-!
# How far apart maintenance runs

The schedule keeps two things, the time of the last run and whether maintenance is asked for, and there are two ways into a run: an insertion goes by the debounce window, and a timer goes by the interval or by what is asked for. `Course` lists what a command can do to the schedule. From there it is one induction over the commands that run nothing: they leave the time of the last run alone, and maintenance is asked for after them exactly if it was before them or if one of them made an entry (`schedule_of_resting`). So what is known at the start of a run is when the last one was and whether an entry was made since.
-/

namespace Stylesheet

variable {σ : Type}

namespace Cache

/-! ### Times of the schedule -/

namespace Schedule

variable {schedule : Schedule} {last now : Time}

theorem isDue_of_requested (interval : Nat) (hrequested : schedule.requested = true) :
    schedule.isDue now interval = true := by
  rw [isDue, hrequested, Bool.true_or]

theorem isDue_of_never (interval : Nat) (hlast : schedule.lastRun = none) :
    schedule.isDue now interval = true := by
  rw [isDue, hlast, Bool.or_true]

/-- After a run it takes a request or the interval. -/
theorem isDue_iff {interval : Nat} (hlast : schedule.lastRun = some last) (hle : last ≤ now) :
    schedule.isDue now interval = true ↔
      schedule.requested = true ∨ last + interval ≤ now := by
  rw [isDue, hlast, Bool.or_eq_true, decide_eq_true_eq, Time.since]
  apply or_congr_right
  simp only [Time] at *
  omega

theorem add_le_of_late {debounce : Nat} (hlast : schedule.lastRun = some last)
    (hlate : schedule.withinDebounce now debounce = false) (hle : last ≤ now) :
    last + debounce ≤ now := by
  rw [withinDebounce, hlast, decide_eq_false_iff_not, Time.since] at hlate
  simp only [Time] at *
  omega

end Schedule

/-! ### Operations without maintenance -/

variable {cache between after : Cache}

/-- Neither the schedule nor the number of runs moves. -/
structure Rests (cache after : Cache) : Prop where
  schedule : after.schedule = cache.schedule
  runs : after.counters.maintenanceRuns = cache.counters.maintenanceRuns

namespace Rests

theorem trans (hfirst : cache.Rests between) (hsecond : between.Rests after) :
    cache.Rests after where
  schedule := hsecond.schedule.trans hfirst.schedule
  runs := hsecond.runs.trans hfirst.runs

theorem modifyStore (kind : RuleKind) (change : Store → Store) (cache : Cache) :
    cache.Rests (cache.modifyStore kind change) := by
  rw [modifyStore_eq]
  exact ⟨rfl, rfl⟩

theorem handover {host : Host σ} {text : Text} {repeatable delivered : Bool}
    {sinks sinksAfter : σ}
    (handover : Session.Handover host text repeatable cache sinks delivered after sinksAfter) :
    cache.Rests after := by
  cases handover with
  | skipped | refused => exact ⟨rfl, rfl⟩
  | accepted =>
    rw [accepted_eq]
    exact ⟨rfl, rfl⟩

theorem issuance {host : Host σ} {request : Request} {issued : Session.Issued}
    {sinks sinksAfter : σ}
    (hissue : Session.Issuance host request cache sinks issued after sinksAfter) :
    cache.Rests after := by
  have hadvanced : cache.Rests cache.advance := ⟨rfl, rfl⟩
  cases hissue with
  | hollow | blank | queued => exact ⟨rfl, rfl⟩
  | sent _ _ handover => exact hadvanced.trans (.handover handover)

theorem settle (host : Host σ) (session : Session σ) (item : Waiting) :
    session.cache.Rests (session.settle host item).2.cache := by
  obtain ⟨settled, handover, hcache⟩ := session.settle_handover host item
  rw [hcache]
  exact (Rests.handover handover).trans (.modifyStore _ _ settled)

theorem flush (host : Host σ) (session : Session σ) (mode : InsertionMode) (budget : Nat) :
    session.cache.Rests (session.flush host mode budget).2.cache :=
  Session.settleAll_keeps (fun _ later => session.cache.Rests later.cache)
    (fun item _ later hpast => hpast.trans (.settle host later item)) ⟨rfl, rfl⟩

end Rests

end Cache

/-- Of the commands that make no request, only a timer runs maintenance, and only a destruction forgets the schedule. -/
theorem Command.rests_of_effect {host : Host σ} {session after : Session σ} {command : Command}
    (heffect : Effect host session command after) (htimer : ∀ time, command ≠ .maintainAt time)
    (hkept : command ≠ .destroy) : session.cache.Rests after.cache := by
  cases heffect with
  | idle | rejected | configured | cleared => exact ⟨rfl, rfl⟩
  | swept time =>
    rw [Session.cache_evictAt]
    exact ⟨rfl, rfl⟩
  | maintained time => exact absurd rfl (htimer time)
  | flushedDeferred | flushedIdle => exact .flush host session _ _
  | destroyed => exact absurd rfl hkept

/-! ### What a command does to the schedule -/

/-- The time that a command goes by. -/
def Command.clock : Time × Command → Time
  | (_, .maintainAt time) => time
  | (now, _) => now

namespace Moment

variable (host : Host σ) (moment : Moment σ)

def time : Time := Command.clock (moment.now, moment.command)

/-- The command runs maintenance. -/
def Maintains : Prop :=
  (moment.next host).cache.counters.maintenanceRuns ≠
    moment.session.cache.counters.maintenanceRuns

instance : Decidable (moment.Maintains host) := inferInstanceAs (Decidable (_ ≠ _))

/-- The command is a request that makes an entry, and the entry is still there when it is answered. -/
def Enters : Prop :=
  moment.command.request?.isSome = true ∧ ∃ kind stored, moment.Adds host kind stored

/-- What a command can do to the schedule. -/
inductive Course : Prop
  /-- An insertion outside the debounce window is followed by a run. -/
  | inserted (hrequest : moment.command.request?.isSome = true)
    (hlate : moment.session.cache.schedule.withinDebounce moment.now
      moment.session.cache.config.sweepDebounce = false)
    (hschedule : (moment.next host).cache.schedule = .ran moment.now)
    (hruns : moment.Maintains host)
  /-- An insertion inside the window asks for one. -/
  | asked (hrequest : moment.command.request?.isSome = true) (henters : moment.Enters host)
    (hschedule : (moment.next host).cache.schedule = moment.session.cache.schedule.request)
    (hrests : ¬moment.Maintains host)
  /-- A timer runs what is due. -/
  | due {time : Time} (hcommand : moment.command = .maintainAt time)
    (hdue : moment.session.cache.schedule.isDue time
      moment.session.cache.config.sweepInterval = true)
    (hcache : (moment.next host).cache = moment.session.cache.maintained time)
  | rests (hkept : ¬moment.Enters host)
    (hschedule : (moment.next host).cache.schedule = moment.session.cache.schedule)
    (hrests : ¬moment.Maintains host)
    (hearly : ∀ time, moment.command = .maintainAt time →
      moment.session.cache.schedule.isDue time moment.session.cache.config.sweepInterval = false)

variable {host} {moment}

theorem not_enters_of_descends
    (hdescends : moment.session.cache.Descends (moment.next host).cache) :
    ¬moment.Enters host := by
  rintro ⟨-, kind, stored, hstored, hfree⟩
  obtain ⟨old, hold, hsame⟩ := hdescends kind stored hstored
  refine Cache.Store.find?_eq_none_iff.mp hfree ?_
  rw [← hsame.fingerprint]
  exact Cache.Store.mem_fingerprints hold

/-- A command that makes no entry and runs nothing. -/
theorem Course.of_rests (hdescends : moment.session.cache.Descends (moment.next host).cache)
    (hrests : moment.session.cache.Rests (moment.next host).cache)
    (hearly : ∀ time, moment.command = .maintainAt time →
      moment.session.cache.schedule.isDue time
        moment.session.cache.config.sweepInterval = false) :
    moment.Course host :=
  .rests (not_enters_of_descends hdescends) hrests.schedule (fun hruns => hruns hrests.runs) hearly

/-- An entry that is made is there if no maintenance follows. -/
theorem course_of_entered {request : Request} {issued : Cache} {entry : Cache.Entry}
    (hrequest : moment.command.request? = some request)
    (hconfig : issued.config = moment.session.cache.config)
    (hissued : moment.session.cache.Rests issued)
    (hfree : (moment.session.cache.store request.kind).find?
      (request.fingerprint moment.session.cache.config) = none)
    (hnext : (moment.next host).cache =
      (issued.enter request entry).countMiss.followedUp moment.now) :
    moment.Course host := by
  have hsome : moment.command.request?.isSome = true := by rw [hrequest]; rfl
  have hentered : issued.Rests (issued.enter request entry) := .modifyStore _ _ _
  have hmade : moment.session.cache.Rests (issued.enter request entry).countMiss :=
    (hissued.trans hentered).trans ⟨rfl, rfl⟩
  have hsettings : (issued.enter request entry).countMiss.config = moment.session.cache.config :=
    (Cache.config_modifyStore _ issued).trans hconfig
  rw [Cache.followedUp, hmade.schedule, hsettings] at hnext
  split at hnext
  · refine .asked hsome ⟨hsome, request.kind, (request.fingerprint issued.config, entry), ?_, ?_⟩
      ?_ ?_
    · have hself : request.kind.SharesStore request.kind := Iff.rfl
      have hstore : (moment.next host).cache.store request.kind =
          (issued.enter request entry).store request.kind := by
        rw [hnext]
        exact Cache.store_congr rfl rfl _
      rw [hstore, Cache.enter, Cache.store_modifyStore, if_pos hself]
      exact Cache.Store.mem_add.mpr (.inr rfl)
    · rw [hconfig]
      exact hfree
    · rw [hnext]
    · rw [Maintains, hnext]
      exact fun hruns => hruns hmade.runs
  · rename_i hlate
    refine .inserted hsome (Bool.eq_false_iff.mpr hlate) (by rw [hnext]; rfl) ?_
    rw [Maintains, hnext]
    show (issued.enter request entry).countMiss.counters.maintenanceRuns + 1 ≠ _
    rw [hmade.runs]
    exact Nat.succ_ne_self _

theorem course_of_request {request : Request}
    (hrequest : moment.command.request? = some request) : moment.Course host := by
  have hsome : moment.command.request?.isSome = true := by rw [hrequest]; rfl
  have hearly : ∀ time, moment.command = .maintainAt time →
      moment.session.cache.schedule.isDue time
        moment.session.cache.config.sweepInterval = false := by
    intro time hcommand
    rw [hcommand] at hrequest
    exact absurd hrequest nofun
  obtain ⟨resolution, hresolved⟩ :=
    Command.resolved_run host moment.now moment.session hrequest
  cases hfound : moment.session.cache.find? request with
  | some entry =>
    have htouched := hresolved.of_hit hfound
    refine .of_rests ?_ ?_ hearly
    · intro kind stored hstored
      rcases hresolved.entries hstored with hold | ⟨-, -, -, -, -, hmissing⟩
      · exact hold
      · exact absurd (hmissing.symm.trans hfound) nofun
    · have hrests : moment.session.cache.Rests (moment.session.cache.touch request moment.now) :=
        .modifyStore _ _ _
      exact htouched ▸ hrests.trans ⟨rfl, rfl⟩
  | none =>
    obtain ⟨issued, issuedCache, hissue, hafter⟩ := hresolved.of_miss hfound
    have hissued : moment.session.cache.Rests issuedCache := .issuance hissue
    by_cases hentered : issuedCache.config.caching = true ∧ issued.delivery.succeeded = true
    · rw [Cache.recorded_of_entered hentered] at hafter
      have hmissing := hfound
      rw [Cache.find?_eq (hissue.config ▸ hentered.1)] at hmissing
      exact course_of_entered hrequest hissue.config hissued hmissing hafter
    · have hquiet : issuedCache.Preserves (moment.next host).cache ∧
          issuedCache.Rests (moment.next host).cache := by
        rw [Moment.next, hafter]
        rcases Cache.recorded_of_lost hentered request moment.now with hsame | hmissed
        · rw [hsame]
          exact ⟨.of_stores_eq rfl rfl, rfl, rfl⟩
        · rw [hmissed]
          exact ⟨.of_stores_eq rfl rfl, rfl, rfl⟩
      exact .of_rests (hissue.preserves.trans hquiet.1).descends (hissued.trans hquiet.2) hearly

theorem course_of_timer {time : Time} (hcommand : moment.command = .maintainAt time) :
    moment.Course host := by
  obtain ⟨session, now, command⟩ := moment
  obtain rfl := hcommand
  have hmaintained := Session.cache_maintainAt session time
  split at hmaintained
  · rename_i hdue
    exact .due rfl hdue hmaintained
  · rename_i hearly
    refine .of_rests ?_ ?_ fun other hother => ?_
    · exact (Cache.Preserves.of_stores_eq (congrArg _ hmaintained)
        (congrArg _ hmaintained)).descends
    · exact ⟨congrArg _ hmaintained, congrArg (·.counters.maintenanceRuns) hmaintained⟩
    · obtain rfl := Command.maintainAt.inj hother
      exact Bool.eq_false_iff.mpr hearly

/-- What a command can do to the schedule, unless it destroys the cache. -/
theorem course (hkept : moment.command ≠ .destroy) : moment.Course host := by
  cases hrequest : moment.command.request? with
  | some request => exact course_of_request hrequest
  | none =>
    by_cases htimer : ∃ time, moment.command = .maintainAt time
    · obtain ⟨time, hcommand⟩ := htimer
      exact course_of_timer hcommand
    · have hother : ∀ time, moment.command ≠ .maintainAt time :=
        fun time hcommand => htimer ⟨time, hcommand⟩
      have heffect := Command.run_effect host moment.now moment.session hrequest
      exact .of_rests (Command.effect_preserves heffect).descends
        (Command.rests_of_effect heffect hother hkept)
        fun time hcommand => absurd hcommand (hother time)

theorem time_of_request (hrequest : moment.command.request?.isSome = true) :
    moment.time = moment.now := by
  obtain ⟨session, now, command⟩ := moment
  cases command with
  | maintainAt time => exact absurd hrequest.symm nofun
  | _ => rfl

theorem maintains_of_due {time : Time}
    (hcache : (moment.next host).cache = moment.session.cache.maintained time) :
    moment.Maintains host := by
  rw [Maintains, hcache]
  exact Nat.succ_ne_self _

/-- Only an insertion or a timer runs maintenance, and then the schedule starts anew. -/
theorem Course.of_maintains (hcourse : moment.Course host) (hmaintains : moment.Maintains host) :
    (moment.next host).cache.schedule = .ran moment.time ∧
      (moment.command.request?.isSome = true ∨ ∃ time, moment.command = .maintainAt time) := by
  cases hcourse with
  | inserted hrequest _ hschedule =>
    rw [hschedule, time_of_request hrequest]
    exact ⟨rfl, .inl hrequest⟩
  | asked _ _ _ hrests | rests _ _ hrests => exact absurd hmaintains hrests
  | due hcommand _ hcache =>
    refine ⟨?_, .inr ⟨_, hcommand⟩⟩
    rw [hcache, time, hcommand]
    rfl

end Moment

/-! ### Stretches without maintenance -/

namespace Command

variable (host : Host σ)

/-- Up to the next run of maintenance the schedule tells when the last one was, and whether maintenance was asked for before or an entry was made since. -/
theorem schedule_of_resting {commands : List (Time × Command)} (session : Session σ)
    (hkept : ∀ timed ∈ commands, timed.2 ≠ .destroy)
    (hrests : ∀ moment ∈ moments host commands session, ¬moment.Maintains host) :
    (runAll host commands session).2.cache.schedule.lastRun = session.cache.schedule.lastRun ∧
      ((runAll host commands session).2.cache.schedule.requested = true ↔
        session.cache.schedule.requested = true ∨
          ∃ moment ∈ moments host commands session, moment.Enters host) := by
  induction commands generalizing session with
  | nil => exact ⟨rfl, by simp [runAll, moments]⟩
  | cons head rest ih =>
    obtain ⟨now, command⟩ := head
    let moment : Moment σ := ⟨session, now, command⟩
    have hcourse : moment.Course host := Moment.course (hkept _ List.mem_cons_self)
    have hstill : ¬moment.Maintains host := hrests moment List.mem_cons_self
    obtain ⟨hlast, hrequested⟩ := ih (moment.next host)
      (fun timed htimed => hkept timed (List.mem_cons_of_mem _ htimed))
      (fun later hlater => hrests later (List.mem_cons_of_mem _ hlater))
    have hsplit : (∃ other ∈ moments host ((now, command) :: rest) session, other.Enters host) ↔
        moment.Enters host ∨ ∃ other ∈ moments host rest (moment.next host), other.Enters host :=
      List.exists_mem_cons_iff _ _ _
    rw [hsplit]
    cases hcourse with
    | inserted _ _ _ hruns => exact absurd hruns hstill
    | due _ _ hcache => exact absurd (Moment.maintains_of_due hcache) hstill
    | asked _ henters hschedule =>
      rw [hschedule] at hlast hrequested
      exact ⟨hlast, iff_of_true (hrequested.mpr (.inl rfl)) (.inr (.inl henters))⟩
    | rests hempty hschedule =>
      rw [hschedule] at hlast hrequested
      refine ⟨hlast, hrequested.trans (or_congr_right ?_)⟩
      exact (or_iff_right hempty).symm

theorem map_time_moments (commands : List (Time × Command)) (session : Session σ) :
    (moments host commands session).map Moment.time = commands.map clock := by
  induction commands generalizing session with
  | nil => rfl
  | cons head rest ih => exact congrArg (clock head :: ·) (ih _)

end Command

/-! ### The last run -/

/-- This moment is the last of the past ones that ran maintenance, and these came after it. -/
structure Moment.LastRun (host : Host σ) (past : List (Moment σ)) (last : Moment σ)
    (since : List (Moment σ)) : Prop where
  past : last :: since <:+ past
  maintains : last.Maintains host
  rests : ∀ moment ∈ since, ¬moment.Maintains host

namespace Command

variable (host : Host σ) {commands : List (Time × Command)} {session : Session σ}
  {last : Moment σ} {since : List (Moment σ)}

/-- The end of a run, told from one of its moments. -/
theorem schedule_of_suffix (hkept : ∀ timed ∈ commands, timed.2 ≠ .destroy)
    (hpast : last :: since <:+ moments host commands session)
    (hrests : ∀ moment ∈ since, ¬moment.Maintains host) :
    last.Course host ∧
      (runAll host commands session).2.cache.schedule.lastRun =
        (last.next host).cache.schedule.lastRun ∧
      ((runAll host commands session).2.cache.schedule.requested = true ↔
        (last.next host).cache.schedule.requested = true ∨
          ∃ moment ∈ since, moment.Enters host) := by
  obtain ⟨before, hsplit⟩ := hpast
  obtain ⟨earlier, later, rfl, -, hsession, rfl⟩ := split_moments host hsplit.symm
  have hend : (runAll host (earlier ++ (last.now, last.command) :: later) session).2 =
      (runAll host later (last.next host)).2 := by
    rw [runAll_append, hsession]
    rfl
  rw [hend]
  refine ⟨Moment.course (hkept (last.now, last.command) (by simp)), ?_⟩
  exact schedule_of_resting host _ (fun timed htimed => hkept timed (by simp [htimed])) hrests

theorem schedule_of_lastRun (hkept : ∀ timed ∈ commands, timed.2 ≠ .destroy)
    (hlast : Moment.LastRun host (moments host commands session) last since) :
    (runAll host commands session).2.cache.schedule.lastRun = some last.time ∧
      ((runAll host commands session).2.cache.schedule.requested = true ↔
        ∃ moment ∈ since, moment.Enters host) := by
  obtain ⟨hcourse, htime, hrequested⟩ := schedule_of_suffix host hkept hlast.past hlast.rests
  obtain ⟨hran, -⟩ := hcourse.of_maintains hlast.maintains
  rw [hran] at htime hrequested
  exact ⟨htime, hrequested.trans (or_iff_right Bool.false_ne_true)⟩

/-- Time does not go back on the way to a moment. -/
theorem time_le (hclock : (commands.map clock).Pairwise (· ≤ ·)) {past after : List (Moment σ)}
    {moment : Moment σ} (hsplit : past ++ moment :: after = moments host commands session) :
    ∀ earlier ∈ past, earlier.time ≤ moment.time := by
  rw [← map_time_moments host commands session, ← hsplit, List.pairwise_map] at hclock
  intro earlier hearlier
  exact (List.pairwise_append.mp hclock).2.2 earlier hearlier moment List.mem_cons_self

theorem run_of_due (now : Time) {time : Time}
    (hdue : session.cache.schedule.isDue time session.cache.config.sweepInterval = true) :
    ((maintainAt time).run host now session).1 = .truth true ∧
      ((maintainAt time).run host now session).2.cache = session.cache.maintained time := by
  simp only [run]
  rw [Session.cache_maintainAt, Session.maintainAt, if_pos hdue, if_pos hdue]
  exact ⟨rfl, rfl⟩

variable (config : Config) (state : σ)

/-- Where time does not go back and nothing is destroyed, a run of maintenance that follows an insertion is at least the debounce window after the last run, and one that a timer starts is at least the interval after it, unless an entry was made since; and there are no other runs. A timer does start one if there was none yet, if the interval has passed, or if an entry was made since the last run. The window and the interval are the ones in force at the moment. -/
theorem spaced_runs (hclock : (commands.map clock).Pairwise (· ≤ ·))
    (hkept : ∀ timed ∈ commands, timed.2 ≠ .destroy) {past : List (Moment σ)}
    {moment : Moment σ}
    (hmoment : past ++ [moment] <+: moments host commands (.start config state)) :
    (moment.Maintains host →
      moment.command.request?.isSome = true ∨ ∃ time, moment.command = .maintainAt time) ∧
    (∀ last since, Moment.LastRun host past last since → moment.Maintains host →
      (moment.command.request?.isSome = true →
        last.time + moment.session.cache.config.sweepDebounce ≤ moment.time) ∧
      ∀ time, moment.command = .maintainAt time →
        last.time + moment.session.cache.config.sweepInterval ≤ time ∨
          ∃ other ∈ since, other.Enters host) ∧
    ∀ time, moment.command = .maintainAt time →
      ((∀ other ∈ past, ¬other.Maintains host) ∨
        (∃ last since, Moment.LastRun host past last since ∧
          last.time + moment.session.cache.config.sweepInterval ≤ time) ∨
        ∃ other since, other :: since <:+ past ∧ other.Enters host ∧
          ∀ later ∈ other :: since, ¬later.Maintains host) →
      moment.answer host = .truth true ∧
        (moment.next host).cache = moment.session.cache.maintained time := by
  obtain ⟨after, hsplit⟩ := hmoment
  rw [List.append_assoc, List.singleton_append] at hsplit
  have htimes := time_le host hclock hsplit
  obtain ⟨earlier, later, rfl, rfl, hsession, -⟩ := split_moments host hsplit.symm
  have hkeptEarlier : ∀ timed ∈ earlier, timed.2 ≠ .destroy := fun timed htimed =>
    hkept timed (List.mem_append_left _ htimed)
  have hcourse : moment.Course host :=
    Moment.course (hkept (moment.now, moment.command) (by simp))
  refine ⟨fun hmaintains => (hcourse.of_maintains hmaintains).2, ?spaced, ?due⟩
  case spaced =>
    intro last since hlast hmaintains
    have hle : last.time ≤ moment.time := htimes last (hlast.past.subset List.mem_cons_self)
    obtain ⟨hwhen, hrequested⟩ := schedule_of_lastRun host hkeptEarlier hlast
    rw [hsession] at hwhen hrequested
    cases hcourse with
    | asked _ _ _ hrests | rests _ _ hrests => exact absurd hmaintains hrests
    | inserted hrequest hlate =>
      rw [Moment.time_of_request hrequest] at hle ⊢
      refine ⟨fun _ => Cache.Schedule.add_le_of_late hwhen hlate hle, fun time hcommand => ?_⟩
      rw [hcommand] at hrequest
      exact absurd hrequest.symm nofun
    | @due time hcommand hdue =>
      have htime : moment.time = time := by rw [Moment.time, hcommand]; rfl
      refine ⟨fun hrequest => ?_, fun other hother => ?_⟩
      · rw [hcommand] at hrequest
        exact absurd hrequest.symm nofun
      · obtain rfl := Command.maintainAt.inj (hcommand.symm.trans hother)
        rw [← hrequested, or_comm]
        exact (Cache.Schedule.isDue_iff hwhen (htime ▸ hle)).mp hdue
  case due =>
    intro time hcommand hreason
    have hdue : moment.session.cache.schedule.isDue time
        moment.session.cache.config.sweepInterval = true := by
      rcases hreason with hnever | ⟨last, since, hlast, hpassed⟩ |
        ⟨other, since, hsuffix, henters, hrests⟩
      · obtain ⟨hwhen, -⟩ := schedule_of_resting host _ hkeptEarlier hnever
        rw [hsession] at hwhen
        exact Cache.Schedule.isDue_of_never _ hwhen
      · have hle : last.time ≤ time :=
          (Int.le_add_of_nonneg_right (Int.natCast_nonneg _)).trans hpassed
        obtain ⟨hwhen, -⟩ := schedule_of_lastRun host hkeptEarlier hlast
        rw [hsession] at hwhen
        exact (Cache.Schedule.isDue_iff hwhen hle).mpr (.inr hpassed)
      · have hstill : ¬other.Maintains host := hrests other List.mem_cons_self
        obtain ⟨hother, -, hrequested⟩ := schedule_of_suffix host hkeptEarlier hsuffix
          fun later hlater => hrests later (List.mem_cons_of_mem _ hlater)
        rw [hsession] at hrequested
        refine Cache.Schedule.isDue_of_requested _ (hrequested.mpr (.inl ?_))
        cases hother with
        | inserted _ _ _ hruns => exact absurd hruns hstill
        | due _ _ hcache => exact absurd (Moment.maintains_of_due hcache) hstill
        | asked _ _ hschedule => rw [hschedule]; rfl
        | rests hempty => exact absurd henters hempty
    rw [Moment.answer, Moment.next, hcommand]
    exact run_of_due host moment.now hdue

/-- A style, another one inside the debounce window, a timer long before the interval, and one more style. -/
def strides : List (Time × Command) :=
  let paint (color : String) : Command := .style [("color".toList, .text color.toList)] {}
  [(0, paint "red"), (500, paint "blue"), (2000, .maintainAt 2000), (3500, paint "green")]

def firstStride : Moment Sheet :=
  ⟨.start {} [], 0, .style [("color".toList, .text "red".toList)] {}⟩

def secondStride : Moment Sheet :=
  ⟨firstStride.next Sheet.host, 500, .style [("color".toList, .text "blue".toList)] {}⟩

def thirdStride : Moment Sheet := ⟨secondStride.next Sheet.host, 2000, .maintainAt 2000⟩

def fourthStride : Moment Sheet :=
  ⟨thirdStride.next Sheet.host, 3500, .style [("color".toList, .text "green".toList)] {}⟩

theorem moments_strides : moments Sheet.host strides (.start {} []) =
    [firstStride, secondStride, thirdStride, fourthStride] := rfl

theorem spaced_runs_strides :
    firstStride.Maintains Sheet.host ∧ secondStride.Enters Sheet.host ∧
      thirdStride.answer Sheet.host = .truth true ∧
      thirdStride.time + 1000 ≤ fourthStride.time := by
  have hclock : (strides.map clock).Pairwise (· ≤ ·) := by decide
  have hkept : ∀ timed ∈ strides, timed.2 ≠ .destroy := by
    intro timed htimed
    simp only [strides, List.mem_cons, List.not_mem_nil, or_false] at htimed
    rcases htimed with rfl | rfl | rfl | rfl <;> exact nofun
  have hfirst : firstStride.Maintains Sheet.host := by decide +kernel
  have hsecond : ∀ moment ∈ [secondStride], ¬moment.Maintains Sheet.host := by decide +kernel
  have hthird : thirdStride.Maintains Sheet.host := by decide +kernel
  have hfourth : fourthStride.Maintains Sheet.host := by decide +kernel
  have hinterval : thirdStride.session.cache.config.sweepInterval = 60000 := by decide +kernel
  have hdebounce : fourthStride.session.cache.config.sweepDebounce = 1000 := by decide +kernel
  obtain ⟨-, hapart, hdue⟩ := spaced_runs Sheet.host {} [] hclock hkept
    (moments_strides ▸ ⟨[fourthStride], rfl⟩ :
      [firstStride, secondStride] ++ [thirdStride] <+: moments Sheet.host strides (.start {} []))
  obtain ⟨-, hlast, -⟩ := spaced_runs Sheet.host {} [] hclock hkept
    (moments_strides ▸ ⟨[], rfl⟩ : [firstStride, secondStride, thirdStride] ++ [fourthStride] <+:
      moments Sheet.host strides (.start {} []))
  have henters : secondStride.Enters Sheet.host := by
    have hasked := (hapart firstStride [secondStride]
      ⟨List.suffix_refl _, hfirst, hsecond⟩ hthird).2 2000 rfl
    rw [hinterval] at hasked
    obtain ⟨other, hother, henters⟩ := hasked.resolve_left (by decide)
    exact List.mem_singleton.mp hother ▸ henters
  have hanswer := hdue 2000 rfl
    (.inr (.inr ⟨secondStride, [], ⟨[firstStride], rfl⟩, henters, hsecond⟩))
  have hlater := (hlast thirdStride [] ⟨⟨[firstStride, secondStride], rfl⟩, hthird, by simp⟩
    hfourth).1 rfl
  rw [hdebounce] at hlater
  exact ⟨hfirst, henters, hanswer.1, hlater⟩

end Command

end Stylesheet
