import Stylesheet.Proofs.Cache.Outcome

/-!
# Runs

A command either makes a request of the stores or has one of a few other effects, and a run is the sequence of its moments, each a command about to be carried out in a session. What is proved here once is that a property which every moment keeps holds at every moment and at the end.
-/

namespace Stylesheet

variable {σ : Type}

/-- What a caller gets to see of the resolution of a request. -/
def Request.answer (resolution : Session.Resolution) : Request → Answer
  | .global .. => .truth resolution.delivered
  | _ => .identifier resolution.identifier

namespace Command

/-! ### Requests -/

def animation? (stops : Stops) : Option Request :=
  if stops.isEmpty then none else some (.keyframes stops)

/-- The request that a command makes of the stores; rejected input makes none. -/
def request? : Command → Option Request
  | style description options => some (.style description options)
  | styleJson json options => (Description.ofJson json).toOption.map (.style · options)
  | keyframes stops => animation? stops
  | keyframesJson json => (Stops.ofJson json).toOption.bind animation?
  | global selector description =>
    if selector.trim.isEmpty then none else some (.global selector.trim description)
  | _ => none

variable (host : Host σ) (now : Time) (session : Session σ) {command : Command}
  {request : Request}

theorem animate_of_animation? {stops : Stops} (hrequest : animation? stops = some request) :
    identified (session.animate host stops now) =
      (request.answer (session.resolve host request now).1,
        (session.resolve host request now).2) := by
  by_cases hstops : stops.isEmpty
  · simp [animation?, hstops] at hrequest
  · rw [animation?, if_neg hstops, Option.some.injEq] at hrequest
    subst hrequest
    rw [Session.animate, if_neg hstops]
    rfl

/-- A command that makes a request resolves it and answers with the resolution. -/
theorem run_of_request (hrequest : command.request? = some request) :
    command.run host now session =
      (request.answer (session.resolve host request now).1,
        (session.resolve host request now).2) := by
  cases command with
  | style description options =>
    obtain rfl := Option.some.inj hrequest
    rfl
  | styleJson json options =>
    cases hjson : Description.ofJson json with
    | error error => simp [request?, hjson, Except.toOption] at hrequest
    | ok description =>
      simp only [request?, hjson, Except.toOption, Option.map_some, Option.some.injEq] at hrequest
      subst hrequest
      rw [run, hjson]
      rfl
  | keyframes stops => exact animate_of_animation? host now session hrequest
  | keyframesJson json =>
    cases hjson : Stops.ofJson json with
    | error error => simp [request?, hjson, Except.toOption] at hrequest
    | ok stops =>
      simp only [request?, hjson, Except.toOption, Option.bind_some] at hrequest
      rw [run, hjson]
      exact animate_of_animation? host now session hrequest
  | global selector description =>
    by_cases hselector : selector.trim.isEmpty
    · simp [request?, hselector] at hrequest
    · rw [request?, if_neg hselector, Option.some.injEq] at hrequest
      subst hrequest
      rw [run, Session.inject, if_neg hselector]
      rfl
  | _ => simp [request?] at hrequest

/-- So it takes the cache and the sinks where the request takes them. -/
theorem resolved_run (hrequest : command.request? = some request) :
    ∃ resolution, Session.Resolved host request now session.cache session.sinks resolution
      (command.run host now session).2.cache (command.run host now session).2.sinks := by
  rw [run_of_request host now session hrequest]
  exact ⟨_, session.resolve_resolved now host request⟩

/-! ### Other effects -/

/-- What becomes of a session under a command that makes no request. -/
inductive Effect (host : Host σ) (session : Session σ) : Command → Session σ → Prop
  | idle (command : Command) : Effect host session command session
  | rejected (command : Command) (reason : Rejection) :
    Effect host session command (session.reject reason)
  | swept (time : Time) : Effect host session (.evictAt time) (session.evictAt time).2
  | maintained (time : Time) : Effect host session (.maintainAt time) (session.maintainAt time).2
  | flushedDeferred : Effect host session .flushDeferred (session.flushDeferred host).2
  | flushedIdle (budget : Nat) :
    Effect host session (.flushIdle budget) (session.flushIdle host budget).2
  | configured (update : ConfigUpdate) :
    Effect host session (.configure update) (session.configure update)
  | cleared : Effect host session .clear session.clear
  | destroyed : Effect host session .destroy (session.destroy host)

theorem effect_animate {stops : Stops} (hrequest : animation? stops = none) :
    Effect host session command (session.animate host stops now).2 := by
  by_cases hstops : stops.isEmpty
  · rw [Session.animate, if_pos hstops]
    exact .rejected _ _
  · simp [animation?, hstops] at hrequest

theorem run_effect (hrequest : command.request? = none) :
    Effect host session command (command.run host now session).2 := by
  cases command with
  | style description options => simp [request?] at hrequest
  | styleJson json options =>
    cases hjson : Description.ofJson json with
    | error error =>
      rw [run, hjson]
      exact .rejected _ _
    | ok description => simp [request?, hjson, Except.toOption] at hrequest
  | keyframes stops => exact effect_animate host now session hrequest
  | keyframesJson json =>
    cases hjson : Stops.ofJson json with
    | error error =>
      rw [run, hjson]
      exact .rejected _ _
    | ok stops =>
      rw [run, hjson]
      simp only [request?, hjson, Except.toOption, Option.bind_some] at hrequest
      exact effect_animate host now session hrequest
  | global selector description =>
    by_cases hselector : selector.trim.isEmpty
    · rw [run, Session.inject, if_pos hselector]
      exact .rejected _ _
    · simp [request?, hselector] at hrequest
  | hasStyle description options => exact .idle _
  | hasKeyframes stops => exact .idle _
  | evictAt time => exact .swept time
  | maintainAt time => exact .maintained time
  | flushDeferred => exact .flushedDeferred
  | flushIdle budget => exact .flushedIdle budget
  | configure update => exact .configured update
  | clear => exact .cleared
  | destroy => exact .destroyed

end Command

/-! ### Moments -/

/-- A command about to be carried out. -/
structure Moment (σ : Type) where
  session : Session σ
  now : Time
  command : Command

namespace Moment

def answer (host : Host σ) (moment : Moment σ) : Answer :=
  (moment.command.run host moment.now moment.session).1

def next (host : Host σ) (moment : Moment σ) : Session σ :=
  (moment.command.run host moment.now moment.session).2

end Moment

namespace Command

variable (host : Host σ)

/-- The moments of a run, in order. -/
def moments : List (Time × Command) → Session σ → List (Moment σ)
  | [], _ => []
  | (now, command) :: rest, session =>
    ⟨session, now, command⟩ :: moments rest (command.run host now session).2

theorem mem_of_mem_moments {commands : List (Time × Command)} {session : Session σ}
    {moment : Moment σ} (hmoment : moment ∈ moments host commands session) :
    (moment.now, moment.command) ∈ commands := by
  induction commands generalizing session with
  | nil => simp [moments] at hmoment
  | cons head rest ih =>
    rcases List.mem_cons.mp hmoment with rfl | hrest
    · exact List.mem_cons_self
    · exact List.mem_cons_of_mem _ (ih hrest)

theorem runAll_append (earlier later : List (Time × Command)) (session : Session σ) :
    (runAll host (earlier ++ later) session).2 =
      (runAll host later (runAll host earlier session).2).2 := by
  induction earlier generalizing session with
  | nil => rfl
  | cons head rest ih => exact ih _

/-- A run can be cut before and after any of its moments. -/
theorem split_moments {commands : List (Time × Command)} {session : Session σ}
    {before after : List (Moment σ)} {moment : Moment σ}
    (hsplit : moments host commands session = before ++ moment :: after) :
    ∃ earlier later, commands = earlier ++ (moment.now, moment.command) :: later ∧
      moments host earlier session = before ∧
      (runAll host earlier session).2 = moment.session ∧
      moments host later (moment.next host) = after := by
  induction before generalizing commands session with
  | nil =>
    cases commands with
    | nil => exact absurd hsplit nofun
    | cons head rest =>
      obtain ⟨rfl, rfl⟩ := List.cons.inj hsplit
      exact ⟨[], rest, rfl, rfl, rfl, rfl⟩
  | cons first before ih =>
    cases commands with
    | nil => exact absurd hsplit nofun
    | cons head rest =>
      obtain ⟨rfl, hrest⟩ := List.cons.inj hsplit
      obtain ⟨earlier, later, rfl, rfl, hsession, hafter⟩ := ih hrest
      exact ⟨head :: earlier, later, rfl, rfl, hsession, hafter⟩

/-- What every moment of a run keeps holds at each of them and at the end. -/
theorem runAll_keeps (Holds : Session σ → Prop) {commands : List (Time × Command)}
    {session : Session σ} (hstart : Holds session)
    (hstep : ∀ moment ∈ moments host commands session,
      Holds moment.session → Holds (moment.next host)) :
    (∀ moment ∈ moments host commands session, Holds moment.session) ∧
      Holds (runAll host commands session).2 := by
  induction commands generalizing session with
  | nil => exact ⟨by simp [moments], hstart⟩
  | cons head rest ih =>
    obtain ⟨now, command⟩ := head
    have hnext := hstep ⟨session, now, command⟩ (by simp [moments]) hstart
    obtain ⟨hlater, hend⟩ := ih hnext fun moment hmoment =>
      hstep moment (List.mem_cons_of_mem _ hmoment)
    refine ⟨?_, hend⟩
    intro moment hmoment
    rcases List.mem_cons.mp hmoment with rfl | hrest
    · exact hstart
    · exact hlater moment hrest

end Command

end Stylesheet
