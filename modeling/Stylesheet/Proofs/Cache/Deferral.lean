import Stylesheet.Proofs.Cache.Lag

/-!
# Deferred delivery

Text that waits in the queue reaches a sheet later, but it reaches it in the same order. So a session that delivers at once and one that delivers late go through the same run in step, whatever flushes the second one has in between, and once its queue is empty nothing tells the two apart.
-/

namespace Stylesheet

/-! ### Draining -/

namespace Cache.Queue

variable {mode : InsertionMode} {queue : Queue}

/-- A queue of one mode is drained from the front. -/
theorem drain_of_modes (hmodes : ∀ item ∈ queue, item.mode = mode) (budget : Nat) :
    queue.drain mode budget = (queue.take budget, queue.drop budget) := by
  induction queue generalizing budget with
  | nil => cases budget <;> rfl
  | cons head rest ih =>
    cases budget with
    | zero => rfl
    | succ budget =>
      have hhead := hmodes head List.mem_cons_self
      have hrest := ih (fun item hitem => hmodes item (List.mem_cons_of_mem _ hitem)) budget
      rw [drain, if_pos hhead, hrest]
      rfl

end Cache.Queue

/-! ### Sessions in step -/

open Cache (Sound)

/-- A session that delivers late, along with one that delivers at once; items in flight count as if they were still in the queue. -/
structure Session.Lags (mode : InsertionMode) (texts : Set Text) (inFlight : List Cache.Waiting)
    (ahead behind : Session Sheet) : Prop where
  caches : ahead.cache.Lags mode behind.cache
  sheets : ahead.sinks = behind.sinks.receiveAll (inFlight ++ behind.cache.queue)
  sound : Sound texts Set.univ {text | text ∈ ahead.sinks} [] ahead.cache
  soundBehind : Sound texts Set.univ {text | text ∈ behind.sinks} inFlight behind.cache

variable {mode : InsertionMode} {texts : Set Text} {inFlight : List Cache.Waiting}
  {ahead behind : Session Sheet}

namespace Session.Lags

theorem start {config : Config} (hsync : config.insertion = .sync) (sheet : Sheet) :
    Lags mode texts [] (.start config sheet) (.start { config with insertion := mode } sheet) where
  caches := .start hsync mode
  sheets := rfl
  sound := .start config trivial
  soundBehind := .start _ trivial

/-! ### Flushes -/

theorem settle (hdigest : Set.InjOn Hash.ofText texts) {item : Cache.Waiting}
    (hlags : Lags mode texts (item :: inFlight) ahead behind) :
    Lags mode texts inFlight ahead (behind.settle Sheet.host item).2 := by
  have htext : item.text ∈ texts :=
    hlags.soundBehind.queue item (List.mem_append_left _ List.mem_cons_self)
  have hsound := hlags.soundBehind.settle Sheet.host_shows hdigest
  obtain ⟨after, handover, hcache⟩ := behind.settle_handover Sheet.host item
  obtain ⟨hdelivered, hsinks⟩ := hlags.soundBehind.handover_sheet hdigest htext handover
  obtain ⟨memory, counters, rfl⟩ := handover.frame
  rw [hdelivered] at hcache
  refine ⟨?_, ?_, hlags.sound, hsound⟩
  · rw [hcache]
    exact (hlags.caches.reckon _ _ _ _).concluded item
  · rw [hcache, hsinks, Cache.concluded, Cache.queue_modifyStore, hlags.sheets]
    rfl

/-- A flush moves only the session that delivers late. -/
theorem flush (hdigest : Set.InjOn Hash.ofText texts) (hlags : Lags mode texts [] ahead behind)
    (budget : Nat) : Lags mode texts [] ahead (behind.flush Sheet.host mode budget).2 := by
  have hdrain := Cache.Queue.drain_of_modes hlags.caches.modes budget
  refine settleAll_keeps (fun items session => Lags mode texts items ahead session)
    (fun _ _ _ hbetween => hbetween.settle hdigest) ⟨?_, ?_, hlags.sound, ?_⟩
  · have hmodes : ∀ item ∈ (behind.cache.queue.drain mode budget).2, item.mode = mode := by
      rw [hdrain]
      exact fun item hitem => hlags.caches.modes item (List.mem_of_mem_drop hitem)
    exact hlags.caches.requeued hmodes
  · show ahead.sinks = behind.sinks.receiveAll
      ((behind.cache.queue.drain mode budget).1 ++ (behind.cache.queue.drain mode budget).2)
    rw [hdrain, List.take_append_drop]
    exact hlags.sheets
  · exact hlags.soundBehind.drained mode budget

/-! ### Requests and other commands -/

theorem text?_eq (hlags : Lags mode texts [] ahead behind) (now : Time) (command : Command) :
    (Moment.mk behind now command).text? = (Moment.mk ahead now command).text? := by
  rw [Moment.text?, Moment.text?]
  congr 1
  funext request
  exact hlags.caches.freshText? request

end Session.Lags

namespace Command

/-- The commands that neither flush, start over nor change the configuration. -/
def isOrdinary : Command → Bool
  | flushDeferred | flushIdle _ | configure _ | clear | destroy => false
  | _ => true

/-- The flushes of items that were queued in a mode. -/
def flushes (mode : InsertionMode) : Command → Bool
  | flushDeferred => mode = .deferred
  | flushIdle _ => mode = .idle
  | _ => false

/-- Two sessions in step give the same answer. -/
structure InStep (mode : InsertionMode) (outcome outcomeBehind : Answer × Session Sheet) : Prop where
  answer : outcomeBehind.1 = outcome.1
  caches : outcome.2.cache.Lags mode outcomeBehind.2.cache
  sheets : outcome.2.sinks = outcomeBehind.2.sinks.receiveAll outcomeBehind.2.cache.queue

variable (hlags : Session.Lags mode texts [] ahead behind) (now : Time) {command : Command}
include hlags

theorem inStep_rejected (answer : Answer) (reason : Rejection) :
    InStep mode (answer, ahead.reject reason) (answer, behind.reject reason) :=
  ⟨rfl, hlags.caches.reckon _ _ _ _, hlags.sheets⟩

theorem inStep_animate {stops : Stops} (hrequest : animation? stops = none) :
    InStep mode (identified (ahead.animate Sheet.host stops now))
      (identified (behind.animate Sheet.host stops now)) := by
  by_cases hstops : stops.isEmpty
  · rw [Session.animate, Session.animate, if_pos hstops, if_pos hstops]
    exact inStep_rejected hlags _ _
  · simp [animation?, hstops] at hrequest

theorem inStep_evictAt (time : Time) :
    InStep mode ((evictAt time).run Sheet.host now ahead)
      ((evictAt time).run Sheet.host now behind) := by
  refine ⟨congrArg Answer.count (hlags.caches.length_evicted time), ?_, ?_⟩
  · show (ahead.evictAt time).2.cache.Lags mode (behind.evictAt time).2.cache
    rw [Session.cache_evictAt, Session.cache_evictAt]
    exact hlags.caches.swept time
  · show (ahead.evictAt time).2.sinks =
      (behind.evictAt time).2.sinks.receiveAll (behind.evictAt time).2.cache.queue
    rw [Session.cache_evictAt, Session.sinks_evictAt, Session.sinks_evictAt]
    exact hlags.sheets

/-- Whether maintenance is due is the same for both. -/
theorem inStep_maintainAt (time : Time) :
    InStep mode ((maintainAt time).run Sheet.host now ahead)
      ((maintainAt time).run Sheet.host now behind) := by
  have hschedule : behind.cache.schedule = ahead.cache.schedule := hlags.caches.schedule
  have hinterval : behind.cache.config.sweepInterval = ahead.cache.config.sweepInterval := by
    rw [hlags.caches.config]
  rw [run, run, Session.maintainAt, Session.maintainAt, hschedule, hinterval]
  split
  · refine ⟨rfl, ?_, ?_⟩
    · rw [Session.cache_maintain, Session.cache_maintain]
      exact hlags.caches.maintained time
    · rw [Session.cache_maintain, Session.sinks_maintain, Session.sinks_maintain]
      exact hlags.sheets
  · exact ⟨rfl, hlags.caches, hlags.sheets⟩

theorem inStep_request (hdigest : Set.InjOn Hash.ofText texts) (hlater : mode ≠ .sync)
    {request : Request} (hrequest : command.request? = some request)
    (htext : ∀ text ∈ (Moment.mk ahead now command).text?, text ∈ texts) :
    InStep mode (command.run Sheet.host now ahead) (command.run Sheet.host now behind) := by
  rw [run_of_request _ _ _ hrequest, run_of_request _ _ _ hrequest]
  rw [Moment.text?, hrequest, Option.bind_some] at htext
  obtain ⟨hresolution, hcaches, hsheets⟩ := hlags.caches.resolved hdigest hlater hlags.sound htext
    hlags.sheets (ahead.resolve_resolved now Sheet.host request)
    (behind.resolve_resolved now Sheet.host request)
  exact ⟨congrArg (request.answer ·) hresolution, hcaches, hsheets⟩

theorem inStep_other (hordinary : command.isOrdinary = true) (hrequest : command.request? = none) :
    InStep mode (command.run Sheet.host now ahead) (command.run Sheet.host now behind) := by
  cases command with
  | style description options => simp [request?] at hrequest
  | styleJson json options =>
    cases hjson : Description.ofJson json with
    | error error =>
      rw [run, run, hjson]
      exact inStep_rejected hlags _ _
    | ok description => simp [request?, hjson, Except.toOption] at hrequest
  | keyframes stops => exact inStep_animate hlags now hrequest
  | keyframesJson json =>
    cases hjson : Stops.ofJson json with
    | error error =>
      rw [run, run, hjson]
      exact inStep_rejected hlags _ _
    | ok stops =>
      rw [run, run, hjson]
      simp only [request?, hjson, Except.toOption, Option.bind_some] at hrequest
      exact inStep_animate hlags now hrequest
  | global selector description =>
    by_cases hselector : selector.trim.isEmpty
    · rw [run, run, Session.inject, Session.inject, if_pos hselector, if_pos hselector]
      exact inStep_rejected hlags _ _
    · simp [request?, hselector] at hrequest
  | hasStyle description options =>
    exact ⟨congrArg Answer.truth (hlags.caches.has _), hlags.caches, hlags.sheets⟩
  | hasKeyframes stops =>
    exact ⟨congrArg Answer.truth (hlags.caches.has _), hlags.caches, hlags.sheets⟩
  | evictAt time => exact inStep_evictAt hlags now time
  | maintainAt time => exact inStep_maintainAt hlags now time
  | flushDeferred | flushIdle budget | configure update | clear | destroy =>
    simp [isOrdinary] at hordinary

/-- An ordinary command keeps two sessions in step. -/
theorem inStep_run (hdigest : Set.InjOn Hash.ofText texts) (hlater : mode ≠ .sync)
    (hordinary : command.isOrdinary = true)
    (htext : ∀ text ∈ (Moment.mk ahead now command).text?, text ∈ texts) :
    (command.run Sheet.host now behind).1 = (command.run Sheet.host now ahead).1 ∧
      Session.Lags mode texts [] (command.run Sheet.host now ahead).2
        (command.run Sheet.host now behind).2 := by
  have hstep : InStep mode (command.run Sheet.host now ahead)
      (command.run Sheet.host now behind) := by
    cases hrequest : command.request? with
    | none => exact inStep_other hlags now hordinary hrequest
    | some request => exact inStep_request hlags now hdigest hlater hrequest htext
  have hsound := sound_moment Sheet.host_shows hdigest htext (fun _ _ => trivial) hlags.sound
  have htextBehind : ∀ text ∈ (Moment.mk behind now command).text?, text ∈ texts :=
    fun text hmem => htext text (hlags.text?_eq now command ▸ hmem)
  have hsoundBehind :=
    sound_moment Sheet.host_shows hdigest htextBehind (fun _ _ => trivial) hlags.soundBehind
  exact ⟨hstep.answer, hstep.caches, hstep.sheets, hsound, hsoundBehind⟩

/-- A flush keeps them in step, too. -/
theorem lags_flush (hdigest : Set.InjOn Hash.ofText texts) (hflush : command.flushes mode = true) :
    Session.Lags mode texts [] ahead (command.run Sheet.host now behind).2 := by
  cases command with
  | flushDeferred =>
    obtain rfl := of_decide_eq_true hflush
    exact hlags.flush hdigest _
  | flushIdle budget =>
    obtain rfl := of_decide_eq_true hflush
    exact hlags.flush hdigest _
  | _ => simp [flushes] at hflush

/-! ### Runs -/

omit hlags

/-- The answers to all commands of a run but the flushes of a mode. -/
def answersBesides (mode : InsertionMode) (commands : List (Time × Command))
    (answers : List Answer) : List Answer :=
  ((commands.zip answers).filter fun answered => !answered.1.2.flushes mode).map (·.2)

/-- Flushes may come in between anywhere. -/
theorem lags_runAll (hdigest : Set.InjOn Hash.ofText texts) (hmode : mode ≠ .sync)
    {later : List (Time × Command)} (hlags : Session.Lags mode texts [] ahead behind)
    (hordinary : ∀ timed ∈ later, timed.2.flushes mode = false → timed.2.isOrdinary = true)
    (htexts : ∀ text ∈ Command.texts Sheet.host
      (later.filter fun timed => !timed.2.flushes mode) ahead, text ∈ texts) :
    answersBesides mode later (runAll Sheet.host later behind).1 =
        (runAll Sheet.host (later.filter fun timed => !timed.2.flushes mode) ahead).1 ∧
      Session.Lags mode texts []
        (runAll Sheet.host (later.filter fun timed => !timed.2.flushes mode) ahead).2
        (runAll Sheet.host later behind).2 := by
  -- Only the late session makes a step at a flush, so the induction is on its commands.
  induction later generalizing ahead behind with
  | nil => exact ⟨rfl, hlags⟩
  | cons head rest ih =>
    obtain ⟨now, command⟩ := head
    have hrest : ∀ timed ∈ rest, timed.2.flushes mode = false → timed.2.isOrdinary = true :=
      fun timed htimed => hordinary timed (List.mem_cons_of_mem _ htimed)
    cases hflush : command.flushes mode with
    | true =>
      rw [List.filter_cons_of_neg (by simp [hflush])] at htexts ⊢
      obtain ⟨hanswers, hend⟩ := ih (lags_flush hlags now hdigest hflush) hrest htexts
      refine ⟨?_, hend⟩
      rw [← hanswers, runAll, answersBesides, List.zip_cons_cons,
        List.filter_cons_of_neg (by simp [hflush])]
      rfl
    | false =>
      rw [List.filter_cons_of_pos (by simp [hflush])] at htexts ⊢
      rw [texts_cons] at htexts
      obtain ⟨hanswer, hnext⟩ := inStep_run hlags now hdigest hmode
        (hordinary _ List.mem_cons_self hflush)
        fun text htext => htexts text (List.mem_append_left _ (Option.mem_toList.mpr htext))
      obtain ⟨hanswers, hend⟩ := ih hnext hrest
        fun text htext => htexts text (List.mem_append_right _ htext)
      refine ⟨?_, hend⟩
      rw [runAll, runAll, answersBesides, List.zip_cons_cons,
        List.filter_cons_of_pos (by simp [hflush]), List.map_cons, hanswer]
      exact congrArg _ hanswers

/-- A run with late delivery and flushes in between is answered like the same run with delivery at once, and leaves the same entries and the same sheet as soon as the queue is empty. -/
theorem deferred_eq_sync (config : Config) (sheet : Sheet) (hmode : mode ≠ .sync)
    {commands later : List (Time × Command)}
    (hordinary : ∀ timed ∈ commands, timed.2.isOrdinary = true)
    (hlater : later.filter (fun timed => !timed.2.flushes mode) = commands)
    (hdigest : Set.InjOn Hash.ofText {text | text ∈
      Command.texts Sheet.host commands (.start { config with insertion := .sync } sheet)}) :
    let sync := runAll Sheet.host commands (.start { config with insertion := .sync } sheet)
    let deferred := runAll Sheet.host later (.start { config with insertion := mode } sheet)
    answersBesides mode later deferred.1 = sync.1 ∧
      (deferred.2.cache.queue = [] →
        (∀ kind, deferred.2.cache.store kind = sync.2.cache.store kind) ∧
        (∀ kind, ∀ stored ∈ deferred.2.cache.store kind, stored.2.materialized = true) ∧
        deferred.2.sinks = sync.2.sinks) := by
  intro sync deferred
  subst hlater
  have hsync : { config with insertion := InsertionMode.sync }.insertion = .sync := rfl
  obtain ⟨hanswers, hlags⟩ := lags_runAll hdigest hmode (.start hsync sheet)
    (fun timed htimed hflush => hordinary timed (List.mem_filter.mpr ⟨htimed, by simp [hflush]⟩))
    (fun _ htext => htext)
  refine ⟨hanswers, fun hempty => ?_⟩
  have hmaterialized (kind : RuleKind) :
      ∀ stored ∈ deferred.2.cache.store kind, stored.2.materialized = true := by
    intro stored hstored
    rcases hlags.soundBehind.held kind stored hstored with hsettled | ⟨item, hitem, _⟩
    · exact hsettled.1
    · have hwaiting : item ∈ deferred.2.cache.queue := hitem
      simp [hempty] at hwaiting
  refine ⟨fun kind => ?_, hmaterialized, ?_⟩
  · rw [← hlags.caches.store, Cache.Store.settled_eq_self (hmaterialized kind)]
  · rw [hlags.sheets, hempty]
    rfl

/-- Two styles, the first of them asked for twice. -/
def twoStyles : List (Time × Command) :=
  [(0, .style [("color".toList, .text "red".toList)] ⟨some "a".toList, none, false⟩),
    (2, .style [("color".toList, .text "blue".toList)] ⟨some "b".toList, none, false⟩),
    (3, .style [("color".toList, .text "red".toList)] ⟨some "a".toList, none, false⟩)]

/-- The same with flushes in between and at the end. -/
def twoStylesFlushed : List (Time × Command) :=
  [(0, .style [("color".toList, .text "red".toList)] ⟨some "a".toList, none, false⟩),
    (1, .flushIdle 1),
    (2, .style [("color".toList, .text "blue".toList)] ⟨some "b".toList, none, false⟩),
    (3, .style [("color".toList, .text "red".toList)] ⟨some "a".toList, none, false⟩),
    (4, .flushIdle 5)]

theorem deferred_eq_sync_twoStyles :
    twoStylesFlushed.filter (fun timed => !timed.2.flushes .idle) = twoStyles ∧
      let sync := runAll Sheet.host twoStyles (.start { insertion := .sync } [])
      let idle := runAll Sheet.host twoStylesFlushed (.start { insertion := .idle } [])
      idle.2.cache.queue = [] ∧ idle.2.sinks.length = 2 ∧
        answersBesides .idle twoStylesFlushed idle.1 = sync.1 ∧
        (∀ kind, idle.2.cache.store kind = sync.2.cache.store kind) ∧
        (∀ kind, ∀ stored ∈ idle.2.cache.store kind, stored.2.materialized = true) ∧
        idle.2.sinks = sync.2.sinks := by
  have hlater : twoStylesFlushed.filter (fun timed => !timed.2.flushes .idle) = twoStyles := rfl
  have hempty : (runAll Sheet.host twoStylesFlushed
      (.start { insertion := .idle } [])).2.cache.queue = [] := by decide +kernel
  obtain ⟨hanswers, hsame⟩ := deferred_eq_sync {} [] (by decide) (by decide +kernel) hlater
    (List.inj_on_of_nodup_map (by decide +kernel))
  exact ⟨hlater, hempty, by decide +kernel, hanswers, hsame hempty⟩

end Command

end Stylesheet
