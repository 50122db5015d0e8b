import Stylesheet.Cache.Stats
import Stylesheet.Proofs.Cache.Outcome
import Stylesheet.Proofs.Cache.Record
import Stylesheet.Sink.Sheet

/-!
# Renewal

A destroyed cache is a fresh one under the same configuration, whose identifiers are numbered on from where they were. The session around it also keeps what it has told, which is seen by no operation (`runAll_shown`), so no later run can tell the two apart.
-/

namespace Stylesheet

variable {σ : Type}

theorem Host.viewed_self (host : Host σ) : Host.Viewed id host host where
  deliver _ _ _ := rfl
  release _ _ := rfl

namespace Session

/-- A session with a fresh cache that numbers its identifiers on from a given one. -/
def startAt (config : Config) (issued : Nat) (sinks : σ) : Session σ :=
  (start config sinks).modify fun cache => { cache with issued }

variable (host : Host σ) (session : Session σ)

@[simp] theorem sinks_releaseSink : (session.releaseSink host).sinks =
    (host.release session.cache.config.sink session.sinks).2 := by
  rw [releaseSink]
  split <;> simp [*]

@[simp] theorem sinks_destroy : (session.destroy host).sinks =
    (host.release session.cache.config.sink session.sinks).2 := by
  simp only [destroy, sinks_tell, sinks_modify, sinks_clear, sinks_releaseSink]

/-- All that is left of a destroyed session's past is what it has told. -/
theorem destroy_eq_shown : session.destroy host =
    (startAt session.cache.config session.cache.issued
      (host.release session.cache.config.sink session.sinks).2).shown id
        (session.destroy host).notices := by
  calc session.destroy host
      = ⟨(session.destroy host).cache, (session.destroy host).sinks,
          (session.destroy host).notices⟩ := rfl
    _ = ⟨session.cache.cleared.destroyed,
          (host.release session.cache.config.sink session.sinks).2,
          (session.destroy host).notices ++ []⟩ := by
      rw [cache_destroy, sinks_destroy, List.append_nil]

end Session

namespace Command

variable (host : Host σ)

/-- What was told before is no part of what reaches the sinks. -/
theorem events_shown (earlier : List Notice) (commands : List (Time × Command))
    (session : Session σ) :
    events host commands (session.shown id earlier) = events host commands session := by
  have hsame := runAll_shown earlier host.recording.viewed_self commands
    ⟨session.cache, (session.sinks, []), session.notices⟩
  exact congrArg (fun outcome => outcome.2.sinks.2) hsame

/-- A destroyed cache and its sink, if the release empties it, are new but for the number of identifiers issued, and every further run goes as it does from there: with the same answers, the same calls of the sinks and the same statistics, state of the sinks and notices. -/
theorem destroy_renews (now : Time) (session : Session σ) {empty : σ}
    (hempties : (host.release session.cache.config.sink session.sinks).2 = empty) :
    let destroyed := (Command.destroy.run host now session).2
    let fresh := Session.startAt session.cache.config session.cache.issued empty
    destroyed.cache = fresh.cache ∧ destroyed.sinks = fresh.sinks ∧
      destroyed.cache.stats =
        { counters := {}, styleEntries := 0, keyframeEntries := 0, bytes := 0, waiting := 0,
          identifiersIssued := session.cache.issued } ∧
      ∀ commands : List (Time × Command),
        (runAll host commands destroyed).1 = (runAll host commands fresh).1 ∧
          events host commands destroyed = events host commands fresh ∧
          (runAll host commands destroyed).2.cache = (runAll host commands fresh).2.cache ∧
          (runAll host commands destroyed).2.cache.stats =
            (runAll host commands fresh).2.cache.stats ∧
          (runAll host commands destroyed).2.sinks = (runAll host commands fresh).2.sinks ∧
          (runAll host commands destroyed).2.notices =
            destroyed.notices ++ (runAll host commands fresh).2.notices := by
  intro destroyed fresh
  have hshown : destroyed = fresh.shown id destroyed.notices := by
    have hdestroyed := session.destroy_eq_shown host
    rwa [hempties] at hdestroyed
  have hcache : destroyed.cache = fresh.cache := by
    rw [hshown]
    rfl
  have hsinks : destroyed.sinks = fresh.sinks := by
    rw [hshown]
    rfl
  refine ⟨hcache, hsinks, congrArg Cache.stats hcache, fun commands => ?_⟩
  have hrun := runAll_shown destroyed.notices host.viewed_self commands fresh
  have hevents := events_shown host destroyed.notices commands fresh
  rw [← hshown] at hrun hevents
  rw [hrun]
  exact ⟨rfl, hevents, rfl, rfl, rfl, rfl⟩

/-- A style, a rule for the page and an animation are written, the style is asked for again, an animation without stops is rejected, and one more style waits in the queue. -/
def worn : List (Time × Command) :=
  let paint (color : String) : Description := [("color".toList, .text color.toList)]
  [(0, .style (paint "red") {}), (1, .style (paint "red") {}), (2, .keyframes []),
    (500, .global "body".toList (paint "blue")), (600, .keyframes [("from".toList, paint "black")]),
    (700, .configure { insertion := some .idle }), (701, .style (paint "green") {})]

def wornSession : Session Sheet := (runAll Sheet.host worn (.start {} [])).2

theorem destroy_renews_worn :
    wornSession.cache.stats.counters =
        { hits := 1, misses := 4, rejections := 1, deliveries := 3, maintenanceRuns := 1 } ∧
      wornSession.cache.queue.length = 1 ∧ wornSession.cache.memory.length = 1 ∧
      wornSession.cache.schedule = ⟨true, some 0⟩ ∧ wornSession.sinks.length = 3 ∧
      let destroyed := (Command.destroy.run Sheet.host 800 wornSession).2
      let fresh := Session.startAt wornSession.cache.config 4 []
      destroyed.cache = fresh.cache ∧ destroyed.sinks = [] ∧
        (runAll Sheet.host worn destroyed).1 = (runAll Sheet.host worn fresh).1 ∧
        events Sheet.host worn destroyed = events Sheet.host worn fresh := by
  have hissued : wornSession.cache.issued = 4 := by decide +kernel
  obtain ⟨hcache, hsinks, -, hruns⟩ := destroy_renews Sheet.host 800 wornSession rfl
  rw [hissued] at hcache hsinks hruns
  obtain ⟨hanswers, hevents, -⟩ := hruns worn
  exact ⟨by decide +kernel, by decide +kernel, by decide +kernel, by decide +kernel,
    by decide +kernel, hcache, hsinks, hanswers, hevents⟩

end Command

end Stylesheet
