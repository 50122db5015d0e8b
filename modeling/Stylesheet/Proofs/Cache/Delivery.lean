import Stylesheet.Proofs.Cache.Record
import Stylesheet.Proofs.Cache.Soundness
import Stylesheet.Sink.Sheet

/-!
# Deliveries are never lost

Whatever is asked of a cache and however its sinks behave, the rule text of an entry is empty, or some sink accepted it, or it still waits in the queue. What a sink accepted need not show in its state, so a record of the calls is kept, and what the record shows is what `Sound` speaks of.
-/

namespace Stylesheet

variable {σ : Type}

namespace SinkEvent

/-- The texts that one of the sinks accepted. -/
def acceptedBy (sinks : Set SinkId) (events : List SinkEvent) : Set Text :=
  {text | ∃ sink ∈ sinks, .accepted sink text ∈ events}

end SinkEvent

theorem Host.recording_shows (host : Host σ) (sinks : Set SinkId) :
    host.recording.Shows sinks fun state => SinkEvent.acceptedBy sinks state.2 where
  accepted sink hsink text state after hok := by
    have hrecord := recorded_of_deliver hok
    exact ⟨sink, hsink, by simp [hrecord, SinkEvent.ofDelivery]⟩
  kept _ _ _ := by
    rintro text ⟨sink, hsink, hevent⟩
    exact ⟨sink, hsink, List.mem_append_left _ hevent⟩

namespace Cache

/-- The text of every entry is empty, or a sink accepted it, or it waits in the queue under the entry; and whatever is not materialized waits. -/
def NothingLost (sinks : List SinkId) (events : List SinkEvent) (cache : Cache) : Prop :=
  ∀ kind, ∀ stored ∈ cache.store kind,
    (stored.2.text = []
      ∨ (∃ sink ∈ sinks, .accepted sink stored.2.text ∈ events)
      ∨ ∃ item ∈ cache.queue, item.BelongsTo kind stored)
    ∧ (stored.2.materialized = false → ∃ item ∈ cache.queue, item.BelongsTo kind stored)

theorem Sound.nothingLost {texts : Set Text} {sinks : List SinkId} {events : List SinkEvent}
    {cache : Cache}
    (hsound : Sound texts {sink | sink ∈ sinks}
      (SinkEvent.acceptedBy {sink | sink ∈ sinks} events) [] cache) :
    cache.NothingLost sinks events := by
  intro kind stored hstored
  rcases hsound.held kind stored hstored with ⟨hflag, htext⟩ | hwaiting
  · refine ⟨htext.imp_right .inl, fun hqueued => ?_⟩
    exact absurd hflag (by simp [hqueued])
  · exact ⟨.inr (.inr hwaiting), fun _ => hwaiting⟩

end Cache

namespace Command

open Cache (Sound)

/-- The sink that a cache starts with and those that are installed during a run. -/
def installed (config : Config) (commands : List (Time × Command)) : List SinkId :=
  config.sink :: commands.filterMap (·.2.installed?)

/-- A record of the sinks does not change what is compiled. -/
theorem texts_viewed {τ : Type} {view : τ → σ} {host : Host σ} {finer : Host τ}
    (hviewed : Host.Viewed view host finer) (commands : List (Time × Command))
    (session : Session τ) : texts host commands (session.view view) =
      texts finer commands session := by
  induction commands generalizing session with
  | nil => rfl
  | cons head rest ih =>
    rw [texts_cons, texts_cons, run_viewed hviewed, ih]
    rfl

variable (host : Host σ) (config : Config) (state : σ) (commands : List (Time × Command))

/-- The invariant holds after every run, for the texts and sinks of the run. -/
theorem sound_recorded
    (hdigest : Set.InjOn Hash.ofText {text | text ∈ texts host commands (.start config state)}) :
    Sound {text | text ∈ texts host commands (.start config state)}
      {sink | sink ∈ installed config commands}
      (SinkEvent.acceptedBy {sink | sink ∈ installed config commands}
        (events host commands (.start config state)))
      [] (recorded host commands (.start config state)).cache := by
  have htexts : texts host commands (.start config state) =
      texts host.recording commands (.start config (state, [])) :=
    texts_viewed host.viewed_recording commands (.start config (state, []))
  refine (runAll_keeps host.recording
    (fun session => Sound {text | text ∈ texts host commands (.start config state)}
      {sink | sink ∈ installed config commands}
      (SinkEvent.acceptedBy {sink | sink ∈ installed config commands} session.sinks.2)
      [] session.cache)
    (.start config List.mem_cons_self) ?_).2
  intro moment hmoment
  refine sound_moment (host.recording_shows _) hdigest (fun text htext => ?_) fun sink hsink => ?_
  · show text ∈ texts host commands (.start config state)
    rw [htexts]
    exact List.mem_filterMap.mpr ⟨moment, hmoment, htext⟩
  · exact List.mem_cons_of_mem _
      (List.mem_filterMap.mpr ⟨_, mem_of_mem_moments host.recording hmoment, hsink⟩)

/-- Whatever a run consists of, no rule text of an entry gets lost on its way to the sinks. -/
theorem nothingLost_runAll
    (hdigest : Set.InjOn Hash.ofText {text | text ∈ texts host commands (.start config state)}) :
    (runAll host commands (.start config state)).2.cache.NothingLost (installed config commands)
      (events host commands (.start config state)) := by
  rw [← cache_recorded]
  exact (sound_recorded host config state commands hdigest).nothingLost

/-- One style is delivered at once and another one is left in the queue. -/
def lateInsertion : List (Time × Command) :=
  [(0, .style [("color".toList, .text "red".toList)] ⟨some "a".toList, none, false⟩),
    (1, .configure { insertion := some .deferred }),
    (2, .style [("color".toList, .text "blue".toList)] ⟨some "b".toList, none, false⟩)]

theorem nothingLost_lateInsertion :
    Set.InjOn Hash.ofText {text | text ∈ texts Sheet.host lateInsertion (.start {} [])} ∧
      (runAll Sheet.host lateInsertion (.start {} [])).2.cache.styles.map
        (·.2.materialized) = [true, false] ∧
      (runAll Sheet.host lateInsertion (.start {} [])).2.cache.NothingLost
        (installed {} lateInsertion) (events Sheet.host lateInsertion (.start {} [])) := by
  have hdigest : Set.InjOn Hash.ofText
      {text | text ∈ texts Sheet.host lateInsertion (.start {} [])} :=
    List.inj_on_of_nodup_map (by decide +kernel)
  exact ⟨hdigest, by decide +kernel, nothingLost_runAll Sheet.host {} [] lateInsertion hdigest⟩

end Command

end Stylesheet
