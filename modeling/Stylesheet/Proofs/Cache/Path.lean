import Stylesheet.Proofs.Cache.Chronicle
import Stylesheet.Proofs.Cache.Descent
import Stylesheet.Proofs.Cache.Outcome
import Stylesheet.Proofs.Cache.Store

/-!
# Paths of happenings

Two facts tie a chronicle to what the operations do. It is a path: between two happenings nothing moves the memory, every happening moves it in a way of its own, and where a happening tells of a call, the host makes that call (`undergoes_chronicle`). And as far as it tells of calls, it is the record of the sinks, for a run (`events_chronicle`) as for a single command (`events_happenings`).

What has to hold at every point of a run is proved by induction on the path, with one case for each happening.
-/

namespace Stylesheet

variable {σ : Type}

namespace Cache

theorem Memory.forget_cons (digest : UInt64) (digests : List UInt64) (memory : Memory) :
    memory.forget (digest :: digests) = (memory.forget [digest]).forget digests := by
  rw [forget, forget, forget, List.filter_filter]
  refine List.filter_congr fun other _ => ?_
  by_cases heq : other = digest <;> simp [heq]

/-- A way from one state of a cache and of the sinks to another one, with what happens on it. Texts are accepted under configurations of one sort only; the others in force on the way are free. -/
inductive Undergoes (host : Host σ) (valid : Config → Prop) :
    Cache → σ → List Happening → Cache → σ → Prop
  | quiet {cache after : Cache} {sinks : σ} (hconfig : after.config = cache.config)
    (hmemory : after.memory = cache.memory) : Undergoes host valid cache sinks [] after sinks
  | adjusted {cache : Cache} {sinks : σ} {update : ConfigUpdate} (hsink : update.sink = none) :
    Undergoes host valid cache sinks [] (cache.configured update) sinks
  | installed {cache : Cache} {sinks : σ} {update : ConfigUpdate} {sink : SinkId}
    (hsink : update.sink = some sink) :
    Undergoes host valid cache sinks [.installed sink] (cache.configured update) sinks
  | skipped {cache : Cache} {sinks : σ} {text : Text} {repeatable : Bool} (htext : text ≠ [])
    (hknown : cache.knows text repeatable = true) :
    Undergoes host valid cache sinks [.skipped cache.config.sink text] cache sinks
  | accepted {cache : Cache} {sinks after : σ} {text : Text} {repeatable : Bool}
    (hvalid : valid cache.config) (htext : text ≠ [])
    (hnew : cache.knows text repeatable = false)
    (hok : host.deliver cache.config.sink text sinks = (.ok (), after)) :
    Undergoes host valid cache sinks
      [.accepted cache.config.sink text repeatable (cache.startsOver repeatable)]
      (cache.accepted text repeatable) after
  | refused {cache : Cache} {sinks after : σ} {text : Text} {failure : SinkFailure}
    (htext : text ≠ [])
    (herror : host.deliver cache.config.sink text sinks = (.error failure, after)) :
    Undergoes host valid cache sinks [.refused cache.config.sink text] cache after
  | evicted {cache : Cache} {sinks : σ} (text : Text) :
    Undergoes host valid cache sinks [.evicted text]
      { cache with memory := cache.memory.forget [Hash.ofText text] } sinks
  | cleared {cache : Cache} {sinks : σ} :
    Undergoes host valid cache sinks [.cleared] cache.cleared sinks
  | destroyed {cache : Cache} {sinks : σ} :
    Undergoes host valid cache sinks [.destroyed cache.config.sink] cache.cleared.destroyed
      (host.release cache.config.sink sinks).2
  | trans {cache between after : Cache} {sinks sinksBetween sinksAfter : σ}
    {first second : List Happening}
    (hfirst : Undergoes host valid cache sinks first between sinksBetween)
    (hsecond : Undergoes host valid between sinksBetween second after sinksAfter) :
    Undergoes host valid cache sinks (first ++ second) after sinksAfter

namespace Undergoes

variable {host : Host σ} {valid : Config → Prop} {cache after other : Cache}
  {sinks sinksAfter : σ} {happenings : List Happening}

/-- The end of a path matters as far as its configuration and its memory go. -/
theorem congr (hpath : Undergoes host valid cache sinks happenings after sinksAfter)
    (hconfig : other.config = after.config) (hmemory : other.memory = after.memory) :
    Undergoes host valid cache sinks happenings other sinksAfter := by
  rw [← List.append_nil happenings]
  exact hpath.trans (.quiet hconfig hmemory)

/-- And so does its beginning. -/
theorem congr_start (hpath : Undergoes host valid other sinks happenings after sinksAfter)
    (hconfig : other.config = cache.config) (hmemory : other.memory = cache.memory) :
    Undergoes host valid cache sinks happenings after sinksAfter :=
  (quiet hconfig hmemory).trans hpath

/-! ### Maintenance -/

theorem evictions (texts : List Text) (cache : Cache) (sinks : σ) :
    Undergoes host valid cache sinks (texts.map .evicted)
      { cache with memory := cache.memory.forget (texts.map Hash.ofText) } sinks := by
  induction texts generalizing cache with
  | nil => exact .quiet rfl (List.filter_eq_self.mpr (by simp))
  | cons text rest ih =>
    rw [List.map_cons, List.map_cons, Memory.forget_cons]
    exact (evicted text).trans (ih _)

theorem swept (now : Time) (cache : Cache) (sinks : σ) :
    Undergoes host valid cache sinks (cache.sweepHappenings now) (cache.swept now) sinks := by
  have hevicted : Undergoes host valid cache sinks _ _ sinks :=
    evictions ((cache.evicted now).map fun entry => entry.text) cache sinks
  rw [List.map_map, List.map_map] at hevicted
  exact hevicted.congr rfl rfl

theorem maintained (now : Time) (cache : Cache) (sinks : σ) :
    Undergoes host valid cache sinks (cache.sweepHappenings now) (cache.maintained now) sinks :=
  (swept now cache sinks).congr rfl rfl

theorem followedUp (now : Time) (cache : Cache) (sinks : σ) :
    Undergoes host valid cache sinks (cache.followUpHappenings now) (cache.followedUp now)
      sinks := by
  rw [followUpHappenings, Cache.followedUp]
  split
  · exact .quiet rfl rfl
  · exact maintained now cache sinks

/-! ### Requests -/

theorem handover {text : Text} {repeatable delivered : Bool} (hvalid : valid cache.config)
    (handover : Session.Handover host text repeatable cache sinks delivered after sinksAfter) :
    Undergoes host valid cache sinks (cache.deliveryHappenings host text repeatable sinks) after
      sinksAfter := by
  cases handover with
  | skipped hskip =>
    by_cases htext : text = []
    · rw [deliveryHappenings, if_pos (List.isEmpty_iff.mpr htext)]
      exact .quiet rfl rfl
    · have hknown := hskip.resolve_left htext
      rw [deliveryHappenings, if_neg (by simpa using htext), if_pos hknown]
      exact .skipped htext hknown
  | accepted htext hnew hok =>
    simp only [deliveryHappenings, List.isEmpty_iff, htext, hnew, hok, if_false,
      Bool.false_eq_true]
    exact .accepted hvalid htext hnew hok
  | refused htext hnew herror =>
    simp only [deliveryHappenings, List.isEmpty_iff, htext, hnew, herror, if_false,
      Bool.false_eq_true]
    exact (refused htext herror).congr rfl rfl

theorem issuance {request : Request} {issued : Session.Issued} (hvalid : valid cache.config)
    (hissue : Session.Issuance host request cache sinks issued after sinksAfter) :
    Undergoes host valid cache sinks (cache.issueHappenings host request sinks) after
      sinksAfter := by
  cases hissue with
  | hollow hhollow =>
    rw [issueHappenings, if_pos hhollow]
    exact .quiet rfl rfl
  | sent hfull hsync handover =>
    simp only [issueHappenings, hfull, hsync, if_true, if_false, Bool.false_eq_true]
    have hsent : Undergoes host valid cache.advance sinks _ after sinksAfter :=
      .handover hvalid handover
    exact hsent.congr_start rfl rfl
  | blank hfull hlater | queued hfull hlater =>
    simp only [issueHappenings, hfull, hlater, if_false, Bool.false_eq_true]
    exact .quiet rfl rfl

theorem recorded (request : Request) (now : Time) (issued : Session.Issued) (cache : Cache)
    (sinks : σ) :
    Undergoes host valid cache sinks (cache.recordHappenings request now issued)
      (cache.recorded request now issued) sinks := by
  rw [recordHappenings, Cache.recorded]
  by_cases hrejected : issued.delivery = .rejected
  · have hfailed : issued.delivery.succeeded = false := by rw [hrejected]; rfl
    rw [if_pos hrejected, if_neg (by simp [hfailed])]
    exact .quiet rfl rfl
  rw [if_neg hrejected]
  split
  · exact (followedUp now _ sinks).congr_start (config_modifyStore _ cache)
      (memory_modifyStore _ cache)
  · exact .quiet rfl rfl

end Undergoes

end Cache

namespace Session

open Cache (Undergoes)

variable (host : Host σ) {valid : Config → Prop} (session : Session σ)

theorem undergoes_resolve (request : Request) (now : Time) (hvalid : valid session.cache.config) :
    Undergoes host valid session.cache session.sinks (session.resolveHappenings host request now)
      (session.resolve host request now).2.cache (session.resolve host request now).2.sinks := by
  cases hfound : session.cache.find? request with
  | some entry =>
    simp only [resolveHappenings, resolve, hfound, hit, cache_tell, cache_modify, sinks_tell,
      sinks_modify]
    exact .quiet (Cache.config_modifyStore _ _) (Cache.memory_modifyStore _ _)
  | none =>
    obtain ⟨-, hcache, hsinks⟩ := resolve_of_missing session now host hfound
    simp only [resolveHappenings, hfound, hcache, hsinks]
    exact (Undergoes.issuance hvalid (issue_issuance session host request)).trans
      (.recorded request now _ _ _)

theorem undergoes_settleAll (items : List Cache.Waiting) (hvalid : valid session.cache.config) :
    Undergoes host valid session.cache session.sinks (session.settleHappenings host items)
      (session.settleAll host items).2.cache (session.settleAll host items).2.sinks := by
  induction items generalizing session with
  | nil => exact .quiet rfl rfl
  | cons item rest ih =>
    obtain ⟨settled, handover, hcache⟩ := session.settle_handover host item
    have hsettled : Undergoes host valid session.cache session.sinks
        (session.cache.deliveryHappenings host item.text item.repeatable session.sinks)
        (session.settle host item).2.cache (session.settle host item).2.sinks := by
      refine (Undergoes.handover hvalid handover).congr ?_ ?_
      · rw [hcache]
        exact Cache.config_modifyStore _ settled
      · rw [hcache]
        exact Cache.memory_modifyStore _ settled
    exact hsettled.trans (ih _ (Cache.config_settle host session item ▸ hvalid))

theorem undergoes_flush (mode : InsertionMode) (budget : Nat)
    (hvalid : valid session.cache.config) :
    Undergoes host valid session.cache session.sinks (session.flushHappenings host mode budget)
      (session.flush host mode budget).2.cache (session.flush host mode budget).2.sinks := by
  have hsettled := undergoes_settleAll host
    (session.modify fun cache => { cache with queue := (cache.queue.drain mode budget).2 })
    (session.cache.queue.drain mode budget).1 hvalid
  exact hsettled.congr_start rfl rfl

theorem undergoes_destroy : Undergoes host valid session.cache session.sinks
    [.destroyed session.cache.config.sink] (session.destroy host).cache
    (session.destroy host).sinks := by
  have hsinks : (session.destroy host).sinks =
      (host.release session.cache.config.sink session.sinks).2 := by
    rcases hcall : host.release session.cache.config.sink session.sinks with ⟨result, after⟩
    cases result <;> simp [destroy, releaseSink, hcall, clear]
  rw [cache_destroy, hsinks]
  exact .destroyed

end Session

namespace Command

open Cache (Undergoes)

variable (host : Host σ) {valid : Config → Prop}

theorem undergoes_other (now : Time) (session : Session σ) {command : Command}
    (hrequest : command.request? = none) (hvalid : valid session.cache.config) :
    Undergoes host valid session.cache session.sinks (command.otherHappenings host session)
      (command.run host now session).2.cache (command.run host now session).2.sinks := by
  cases command with
  | evictAt time =>
    rw [run, counted, Session.cache_evictAt, Session.sinks_evictAt]
    exact .swept time _ _
  | maintainAt time =>
    rw [run, Session.cache_maintainAt, Session.sinks_maintainAt, otherHappenings]
    split
    · exact .maintained time _ _
    · exact .quiet rfl rfl
  | flushDeferred => exact session.undergoes_flush host _ _ hvalid
  | flushIdle budget => exact session.undergoes_flush host _ _ hvalid
  | configure update =>
    cases hsink : update.sink with
    | none =>
      rw [otherHappenings, hsink]
      exact .adjusted hsink
    | some sink =>
      rw [otherHappenings, hsink]
      exact .installed hsink
  | clear => exact .cleared
  | destroy => exact session.undergoes_destroy host
  -- `Effect` lets every command be idle, so only the ones without happenings can go by it.
  | style | styleJson | keyframes | keyframesJson | global | hasStyle | hasKeyframes =>
    have heffect := run_effect host now session hrequest
    generalize (run host now session _).2 = after at heffect ⊢
    cases heffect <;> exact .quiet rfl rfl

/-- A command takes the cache and the sinks along a path of its happenings. -/
theorem undergoes_run (now : Time) (session : Session σ) (command : Command)
    (hvalid : valid session.cache.config) :
    Undergoes host valid session.cache session.sinks (command.happenings host now session)
      (command.run host now session).2.cache (command.run host now session).2.sinks := by
  cases hrequest : command.request? with
  | some request =>
    simp only [happenings, hrequest, run_of_request host now session hrequest]
    exact session.undergoes_resolve host request now hvalid
  | none =>
    simp only [happenings, hrequest]
    exact undergoes_other host now session hrequest hvalid

/-- A run takes the cache and the sinks along the path of its chronicle. -/
theorem undergoes_chronicle (commands : List (Time × Command)) (session : Session σ)
    (hvalid : ∀ moment ∈ moments host commands session, valid moment.session.cache.config) :
    Undergoes host valid session.cache session.sinks (chronicle host commands session)
      (runAll host commands session).2.cache (runAll host commands session).2.sinks := by
  induction commands generalizing session with
  | nil => exact .quiet rfl rfl
  | cons head rest ih =>
    obtain ⟨now, command⟩ := head
    have hfirst := hvalid ⟨session, now, command⟩ List.mem_cons_self
    exact (undergoes_run host now session command hfirst).trans
      (ih _ fun moment hmoment => hvalid moment (List.mem_cons_of_mem _ hmoment))

/-- The path of a run that begins with a fresh cache. -/
theorem undergoes_start (config : Config) (state : σ) (commands : List (Time × Command))
    (hvalid : ∀ moment ∈ moments host commands (.start config state),
      valid moment.session.cache.config) :
    Undergoes host valid (.ofConfig config) state
      (chronicle host commands (.start config state))
      (runAll host commands (.start config state)).2.cache
      (runAll host commands (.start config state)).2.sinks :=
  undergoes_chronicle host commands (.start config state) hvalid

end Command

/-! ### Calls -/

/-- A host with a record notes the calls that the happenings on a path tell of. -/
theorem Cache.Undergoes.recorded_calls {host : Host σ} {valid : Config → Prop}
    {cache after : Cache} {state stateAfter : σ × List SinkEvent} {happenings : List Happening}
    (hpath : Undergoes host.recording valid cache state happenings after stateAfter) :
    stateAfter.2 = state.2 ++ happenings.filterMap Happening.event? := by
  induction hpath with
  | quiet | adjusted | installed | skipped | evicted | cleared => simp [Happening.event?]
  | accepted _ _ _ hok => exact Host.recorded_of_deliver hok
  | refused _ herror => exact Host.recorded_of_deliver herror
  | destroyed => rfl
  | trans _ _ ihfirst ihsecond =>
    rw [ihsecond, ihfirst, List.filterMap_append, List.append_assoc]

/-- What reached the sinks during a run is what its chronicle tells of calls. -/
theorem Command.events_chronicle (host : Host σ) (commands : List (Time × Command))
    (session : Session σ) :
    events host commands session =
      (chronicle host commands session).filterMap Happening.event? := by
  let start : Session (σ × List SinkEvent) :=
    ⟨session.cache, (session.sinks, []), session.notices⟩
  have hpath : Cache.Undergoes host.recording (fun _ => True) start.cache start.sinks _ _ _ :=
    undergoes_chronicle host.recording commands start fun _ _ => trivial
  have hsame := chronicle_viewed host.viewed_recording commands start
  rw [events, recorded, hpath.recorded_calls, ← hsame]
  rfl

/-- What reaches the sinks while the command is carried out. -/
def Moment.events (host : Host σ) (moment : Moment σ) : List SinkEvent :=
  Command.events host [(moment.now, moment.command)] moment.session

theorem Moment.events_happenings (host : Host σ) (moment : Moment σ) : moment.events host =
    (moment.command.happenings host moment.now moment.session).filterMap Happening.event? := by
  rw [events, Command.events_chronicle, Command.chronicle, Command.chronicle, List.append_nil]

end Stylesheet
