import Stylesheet.Cache.Command

/-!
# A record of the sinks

What reached the sinks during a run is not part of any state, so it is observed from outside: a host is replaced by one that behaves the same and also keeps a record of every call. `runAll_viewed` says that nothing else changes: whatever state a host works on, only what its calls return can be seen by a session, so two hosts with a view between their states give the same answers and the same cache. Nor can a session see what it has told, so `runAll_shown` says the same of sessions that differ in that as well.
-/

namespace Stylesheet

/-- A call of a sink. -/
inductive SinkEvent
  | accepted (sink : SinkId) (text : Text)
  | refused (sink : SinkId) (text : Text)
  | released (sink : SinkId)
deriving DecidableEq

def SinkEvent.ofDelivery (sink : SinkId) (text : Text) : Except SinkFailure Unit → SinkEvent
  | .ok () => .accepted sink text
  | .error _ => .refused sink text

variable {σ τ : Type}

namespace Host

/-- The same host with a record of every call, the latest last. -/
def recording (host : Host σ) : Host (σ × List SinkEvent) where
  deliver sink text state :=
    let outcome := host.deliver sink text state.1
    (outcome.1, outcome.2, state.2 ++ [.ofDelivery sink text outcome.1])
  release sink state :=
    let outcome := host.release sink state.1
    (outcome.1, outcome.2, state.2 ++ [.released sink])

/-- A host does on the view of its state what another one does on the state itself. -/
structure Viewed (view : τ → σ) (host : Host σ) (finer : Host τ) : Prop where
  deliver : ∀ sink text state, host.deliver sink text (view state) =
    ((finer.deliver sink text state).1, view (finer.deliver sink text state).2)
  release : ∀ sink state, host.release sink (view state) =
    ((finer.release sink state).1, view (finer.release sink state).2)

/-- The record after a delivery tells how it went. -/
theorem recorded_of_deliver {host : Host σ} {sink : SinkId} {text : Text}
    {state after : σ × List SinkEvent} {result : Except SinkFailure Unit}
    (hcall : host.recording.deliver sink text state = (result, after)) :
    after.2 = state.2 ++ [.ofDelivery sink text result] := by
  obtain ⟨rfl, rfl⟩ := Prod.mk.inj hcall
  rfl

theorem viewed_recording (host : Host σ) : Viewed Prod.fst host host.recording where
  deliver _ _ _ := rfl
  release _ _ := rfl

end Host

namespace Session

/-- A session as it looks to a host that sees less of the sinks, after something else was told. -/
def shown (view : τ → σ) (earlier : List Notice) (session : Session τ) : Session σ :=
  ⟨session.cache, view session.sinks, earlier ++ session.notices⟩

/-- A session as it looks to a host that sees less of the sinks. -/
def view (view : τ → σ) (session : Session τ) : Session σ :=
  ⟨session.cache, view session.sinks, session.notices⟩

variable {view : τ → σ} {earlier : List Notice} {host : Host σ} {finer : Host τ}
  (session : Session τ)

@[simp] theorem cache_view : (session.view view).cache = session.cache := rfl

@[simp] theorem sinks_view : (session.view view).sinks = view session.sinks := rfl

@[simp] theorem view_modify (change : Cache → Cache) :
    (session.view view).modify change = (session.modify change).view view := rfl

/-! ### Operations that call no sink -/

@[simp] theorem cache_shown : (session.shown view earlier).cache = session.cache := rfl

@[simp] theorem sinks_shown : (session.shown view earlier).sinks = view session.sinks := rfl

@[simp] theorem shown_modify (change : Cache → Cache) :
    (session.shown view earlier).modify change = (session.modify change).shown view earlier := rfl

@[simp] theorem shown_tell (notice : Notice) :
    (session.shown view earlier).tell notice = (session.tell notice).shown view earlier := by
  simp only [shown, tell, List.append_assoc]

@[simp] theorem shown_tellAll (notices : List Notice) :
    (session.shown view earlier).tellAll notices =
      (session.tellAll notices).shown view earlier := by
  simp only [shown, tellAll, List.append_assoc]

@[simp] theorem shown_reject (reason : Rejection) :
    (session.shown view earlier).reject reason = (session.reject reason).shown view earlier := by
  simp only [reject, shown_modify, shown_tell]

@[simp] theorem shown_configure (update : ConfigUpdate) :
    (session.shown view earlier).configure update =
      (session.configure update).shown view earlier := by
  simp only [configure, cache_shown, shown_tellAll, shown_modify, shown_tell]

@[simp] theorem shown_clear :
    (session.shown view earlier).clear = session.clear.shown view earlier := by
  simp only [clear, shown_modify, shown_tell]

@[simp] theorem shown_beginIssue (request : Request) :
    (session.shown view earlier).beginIssue request =
      (session.beginIssue request).shown view earlier := by
  simp only [beginIssue, cache_shown, shown_modify, shown_tellAll]

@[simp] theorem shown_hit (request : Request) (now : Time) (entry : Cache.Entry) :
    (session.shown view earlier).hit request now entry =
      ((session.hit request now entry).1,
        (session.hit request now entry).2.shown view earlier) := by
  simp only [hit, cache_shown, shown_modify, shown_tell]

@[simp] theorem shown_evictAt (now : Time) : (session.shown view earlier).evictAt now =
    ((session.evictAt now).1, (session.evictAt now).2.shown view earlier) := by
  by_cases hnone : (session.cache.evicted now).length = 0
  · simp only [evictAt, tellEvicted, cache_shown, shown_modify, hnone, if_true]
  · simp only [evictAt, tellEvicted, cache_shown, shown_modify, shown_tell, hnone, if_false]

@[simp] theorem shown_maintain (now : Time) : (session.shown view earlier).maintain now =
    ((session.maintain now).1, (session.maintain now).2.shown view earlier) := by
  simp only [maintain, shown_evictAt, shown_modify]

@[simp] theorem shown_maintainAt (now : Time) : (session.shown view earlier).maintainAt now =
    ((session.maintainAt now).1, (session.maintainAt now).2.shown view earlier) := by
  simp only [maintainAt, cache_shown, shown_maintain]
  split <;> rfl

@[simp] theorem shown_afterInsertion (now : Time) :
    (session.shown view earlier).afterInsertion now =
      (session.afterInsertion now).shown view earlier := by
  simp only [afterInsertion, cache_shown, shown_modify, shown_maintain, shown_tell]
  split <;> rfl

@[simp] theorem shown_recordMiss (request : Request) (now : Time) (issued : Issued) :
    (session.shown view earlier).recordMiss request now issued =
      (session.recordMiss request now issued).shown view earlier := by
  simp only [recordMiss, shown_modify, shown_afterInsertion]
  split <;> rfl

@[simp] theorem shown_remember (text : Text) (repeatable : Bool) :
    (session.shown view earlier).remember text repeatable =
      (session.remember text repeatable).shown view earlier := by
  by_cases hremembers : session.cache.remembers repeatable
  · by_cases hfull : session.cache.memory.isFull session.cache.memoryLimit
    · simp [remember, hremembers, hfull]
    · simp [remember, hremembers, hfull]
  · simp [remember, hremembers]

@[simp] theorem shown_concludeItem (item : Cache.Waiting) (delivered : Bool) :
    (session.shown view earlier).concludeItem item delivered =
      (session.concludeItem item delivered).shown view earlier := by
  by_cases hdelivered : delivered
  · simp [concludeItem, hdelivered]
  by_cases hcarries : (session.cache.store item.kind).carries item.fingerprint item.identifier
  · simp [concludeItem, hdelivered, hcarries]
  · simp [concludeItem, hdelivered, hcarries]

/-! ### Operations that call a sink -/

section Calls

variable (hviewed : Host.Viewed view host finer)
include hviewed

theorem shown_deliver (text : Text) (repeatable : Bool) :
    (session.shown view earlier).deliver host text repeatable =
      ((session.deliver finer text repeatable).1,
        (session.deliver finer text repeatable).2.shown view earlier) := by
  by_cases htext : text.isEmpty
  · rw [deliver, deliver, if_pos htext, if_pos htext]
  by_cases hknown : session.cache.knows text repeatable
  · simp [deliver, htext, hknown]
  have hcall := hviewed.deliver session.cache.config.sink text session.sinks
  rcases hfiner : finer.deliver session.cache.config.sink text session.sinks with ⟨result, after⟩
  rw [hfiner] at hcall
  cases result with
  | ok =>
    simp only [deliver, htext, hknown, cache_shown, sinks_shown, hcall, hfiner, Bool.false_eq_true,
      if_false]
    exact congrArg (Prod.mk true) (shown_remember
      ((Session.mk session.cache after session.notices).modify Cache.countDelivery) text repeatable)
  | error failure =>
    simp only [deliver, htext, hknown, cache_shown, sinks_shown, hcall, hfiner, Bool.false_eq_true,
      if_false]
    exact congrArg (Prod.mk false) (shown_tell
      ((Session.mk session.cache after session.notices).modify Cache.countFailure) _)

theorem shown_send (request : Request) (identifier : Identifier) (text : Text) :
    (session.shown view earlier).send host request identifier text =
      ((session.send finer request identifier text).1,
        (session.send finer request identifier text).2.shown view earlier) := by
  simp only [send, sendNow, cache_shown, shown_modify, shown_deliver session hviewed]
  split
  · rfl
  · split <;> rfl

theorem shown_issue (request : Request) : (session.shown view earlier).issue host request =
    ((session.issue finer request).1, (session.issue finer request).2.shown view earlier) := by
  simp only [issue, cache_shown, shown_beginIssue, shown_reject, shown_tell, shown_send _ hviewed]
  split <;> rfl

theorem shown_resolve (request : Request) (now : Time) :
    (session.shown view earlier).resolve host request now =
      ((session.resolve finer request now).1,
        (session.resolve finer request now).2.shown view earlier) := by
  simp only [resolve, miss, bypass, cache_shown, shown_hit, shown_issue session hviewed,
    shown_recordMiss, shown_modify]
  split
  · rfl
  split
  · rfl
  · split <;> rfl

theorem shown_animate (stops : Stops) (now : Time) :
    (session.shown view earlier).animate host stops now =
      ((session.animate finer stops now).1,
        (session.animate finer stops now).2.shown view earlier) := by
  simp only [animate, shown_reject, shown_resolve session hviewed]
  split <;> rfl

theorem shown_inject (selector : Text) (description : Description) (now : Time) :
    (session.shown view earlier).inject host selector description now =
      ((session.inject finer selector description now).1,
        (session.inject finer selector description now).2.shown view earlier) := by
  simp only [inject, shown_reject, shown_resolve session hviewed]
  split <;> rfl

theorem shown_settle (item : Cache.Waiting) : (session.shown view earlier).settle host item =
    ((session.settle finer item).1, (session.settle finer item).2.shown view earlier) := by
  simp only [settle, shown_deliver session hviewed, shown_concludeItem]

theorem shown_settleAll (items : List Cache.Waiting) :
    (session.shown view earlier).settleAll host items =
      ((session.settleAll finer items).1,
        (session.settleAll finer items).2.shown view earlier) := by
  induction items generalizing session with
  | nil => rfl
  | cons item rest ih => simp only [settleAll, shown_settle session hviewed, ih]

theorem shown_flush (mode : InsertionMode) (budget : Nat) :
    (session.shown view earlier).flush host mode budget =
      ((session.flush finer mode budget).1,
        (session.flush finer mode budget).2.shown view earlier) := by
  simp only [flush, cache_shown, shown_modify, shown_settleAll _ hviewed]

theorem shown_releaseSink : (session.shown view earlier).releaseSink host =
    (session.releaseSink finer).shown view earlier := by
  simp only [releaseSink, cache_shown, sinks_shown, hviewed.release]
  rcases finer.release session.cache.config.sink session.sinks with ⟨result, after⟩
  cases result with
  | ok => rfl
  | error failure => exact shown_tell (Session.mk session.cache after session.notices) _

theorem shown_destroy :
    (session.shown view earlier).destroy host = (session.destroy finer).shown view earlier := by
  simp only [destroy, shown_releaseSink session hviewed, shown_clear, shown_modify, shown_tell]

/-! ### The same with nothing told before -/

theorem view_issue (request : Request) : (session.view view).issue host request =
    ((session.issue finer request).1, (session.issue finer request).2.view view) :=
  @shown_issue _ _ view [] host finer session hviewed request

theorem view_settle (item : Cache.Waiting) : (session.view view).settle host item =
    ((session.settle finer item).1, (session.settle finer item).2.view view) :=
  @shown_settle _ _ view [] host finer session hviewed item

end Calls

end Session

namespace Command

variable {view : τ → σ} (earlier : List Notice) {host : Host σ} {finer : Host τ}
  (hviewed : Host.Viewed view host finer)
include hviewed

theorem run_shown (now : Time) (session : Session τ) (command : Command) :
    command.run host now (session.shown view earlier) =
      ((command.run finer now session).1,
        (command.run finer now session).2.shown view earlier) := by
  cases command with
  | style description options =>
    simp only [run, identified, Session.shown_resolve session hviewed]
  | styleJson json options =>
    simp only [run]
    cases Description.ofJson json with
    | error error => simp only [rejected, Session.shown_reject]
    | ok description => simp only [identified, Session.shown_resolve session hviewed]
  | keyframes stops => simp only [run, identified, Session.shown_animate session hviewed]
  | keyframesJson json =>
    simp only [run]
    cases Stops.ofJson json with
    | error error => simp only [rejected, Session.shown_reject]
    | ok stops => simp only [identified, Session.shown_animate session hviewed]
  | global selector description => simp only [run, Session.shown_inject session hviewed]
  | evictAt time => simp only [run, counted, Session.shown_evictAt]
  | maintainAt time => simp only [run, Session.shown_maintainAt]
  | flushDeferred =>
    simp only [run, counted, Session.flushDeferred, Session.shown_flush session hviewed,
      Session.cache_shown]
  | flushIdle budget =>
    simp only [run, counted, Session.flushIdle, Session.shown_flush session hviewed]
  | destroy => simp only [run, Session.shown_destroy session hviewed]
  | configure update => simp only [run, Session.shown_configure]
  | clear => simp only [run, Session.shown_clear]
  | hasStyle | hasKeyframes => rfl

/-- Two hosts of which one sees more than the other lead every run to the same answers, and to sessions that differ in nothing but the state of the sinks and what was told before. -/
theorem runAll_shown (commands : List (Time × Command)) (session : Session τ) :
    runAll host commands (session.shown view earlier) =
      ((runAll finer commands session).1,
        (runAll finer commands session).2.shown view earlier) := by
  induction commands generalizing session with
  | nil => rfl
  | cons head rest ih => simp only [runAll, run_shown earlier hviewed, ih]

theorem run_viewed (now : Time) (session : Session τ) (command : Command) :
    command.run host now (session.view view) =
      ((command.run finer now session).1, (command.run finer now session).2.view view) :=
  run_shown [] hviewed now session command

/-- Two hosts of which one sees more than the other lead every run to the same answers, and to sessions that differ in nothing but the state of the sinks. -/
theorem runAll_viewed (commands : List (Time × Command)) (session : Session τ) :
    runAll host commands (session.view view) =
      ((runAll finer commands session).1, (runAll finer commands session).2.view view) :=
  runAll_shown [] hviewed commands session

end Command

namespace Command

/-- A run under a record of the sinks, which is empty at first. -/
def recorded (host : Host σ) (commands : List (Time × Command)) (session : Session σ) :
    Session (σ × List SinkEvent) :=
  (runAll host.recording commands ⟨session.cache, (session.sinks, []), session.notices⟩).2

/-- What reached the sinks during a run. -/
def events (host : Host σ) (commands : List (Time × Command)) (session : Session σ) :
    List SinkEvent :=
  (recorded host commands session).sinks.2

theorem cache_recorded (host : Host σ) (commands : List (Time × Command)) (session : Session σ) :
    (recorded host commands session).cache = (runAll host commands session).2.cache := by
  have hsame := runAll_viewed host.viewed_recording commands
    ⟨session.cache, (session.sinks, []), session.notices⟩
  exact (congrArg (fun outcome => outcome.2.cache) hsame).symm

end Command

end Stylesheet
