import Stylesheet.Cache.Stats
import Stylesheet.Proofs.Cache.Issue
import Stylesheet.Proofs.Cache.Memory
import Stylesheet.Proofs.Cache.Waiting

/-!
# The backlog

Both modes of later delivery share one queue, and every flush rebuilds it. Still nothing is lost, doubled or overtaken in it, whatever is done to the cache in the meantime, as long as nothing is cleared or destroyed. The law that a run keeps is stated for one mode at a time: what waits before the run and then what the run puts into the queue is what the run takes out and then what waits in the end (`ofMode_runAll`). It holds of a run because it holds of each of its moments.
-/

namespace Stylesheet

variable {σ : Type}

/-! ### One mode of the queue -/

namespace Cache.Queue

/-- The items of a mode, in order. -/
def ofMode (mode : InsertionMode) (queue : Queue) : List Waiting :=
  queue.filter fun item => item.mode = mode

theorem ofMode_cons (mode : InsertionMode) (item : Waiting) (rest : Queue) :
    ofMode mode (item :: rest) =
      if item.mode = mode then item :: rest.ofMode mode else rest.ofMode mode := by
  rw [ofMode, List.filter_cons]
  exact if_congr decide_eq_true_iff rfl rfl

theorem ofMode_append (mode : InsertionMode) (queue items : Queue) :
    ofMode mode (queue ++ items) = queue.ofMode mode ++ items.ofMode mode :=
  List.filter_append _ _

/-- A flush takes the first items of its mode, as many as it may. -/
theorem fst_drain (mode : InsertionMode) (budget : Nat) (queue : Queue) :
    (queue.drain mode budget).1 = (queue.ofMode mode).take budget := by
  induction queue generalizing budget with
  | nil => cases budget <;> rfl
  | cons item rest ih =>
    cases budget with
    | zero => rfl
    | succ budget =>
      rw [drain, ofMode_cons]
      by_cases hitem : item.mode = mode
      · rw [if_pos hitem, if_pos hitem, List.take_succ_cons, ← ih budget]
      · rw [if_neg hitem, if_neg hitem, ← ih (budget + 1)]

/-- What it takes was first in its mode, and every other mode stays as it was. -/
theorem ofMode_drain (mode which : InsertionMode) (budget : Nat) (queue : Queue) :
    queue.ofMode mode =
      (if which = mode then (queue.drain which budget).1 else [])
        ++ ofMode mode (queue.drain which budget).2 := by
  induction queue generalizing budget with
  | nil => cases budget <;> simp [ofMode, drain]
  | cons item rest ih =>
    cases budget with
    | zero => simp [drain]
    | succ budget =>
      by_cases hitem : item.mode = which
      · rw [ofMode_cons, ih budget, drain, if_pos hitem, hitem]
        split <;> rfl
      · -- The item stays, in front of what is left of the others.
        rw [ofMode_cons, ih (budget + 1), drain, if_neg hitem, ofMode_cons]
        by_cases hmode : item.mode = mode
        · rw [if_pos hmode, if_pos hmode, if_neg fun heq => hitem (hmode.trans heq.symm)]
          rfl
        · rw [if_neg hmode, if_neg hmode]

theorem length_eq (queue : Queue) :
    queue.length =
      (queue.ofMode .sync).length + (queue.ofMode .deferred).length
        + (queue.ofMode .idle).length := by
  induction queue with
  | nil => rfl
  | cons item rest ih =>
    cases hmode : item.mode <;> simp [ofMode, hmode] at ih ⊢ <;> omega

end Cache.Queue

/-! ### What issues put into the queue -/

/-- What an issue puts into the queue: its text with the mode of the moment, unless there is none or it is sent at once. -/
def Issue.item? (issue : Issue) : Option Cache.Waiting :=
  let config := issue.cache.config
  let text := Session.finishedText config issue.request issue.identifier
  if config.insertion = .sync ∨ issue.request.isHollow config.renderMode issue.identifier
      ∨ text = [] then
    none
  else
    some
      { kind := issue.request.kind
        fingerprint := issue.request.fingerprint config
        identifier := issue.identifier
        text
        mode := config.insertion
        repeatable := issue.request.isRepeatable config }

theorem Issue.later_of_item? {issue : Issue} {item : Cache.Waiting}
    (hitem : issue.item? = some item) : item.mode ≠ .sync ∧ item.text ≠ [] := by
  simp only [item?, Option.ite_none_left_eq_some, Option.some.injEq, not_or] at hitem
  obtain ⟨⟨hlater, -, htext⟩, rfl⟩ := hitem
  exact ⟨hlater, htext⟩

namespace Session

variable {host : Host σ} {request : Request} {cache after : Cache} {sinks sinksAfter : σ}
  {now : Time} {resolution : Resolution}

theorem Issuance.queue {issued : Issued}
    (hissue : Issuance host request cache sinks issued after sinksAfter) :
    after.queue = cache.queue ++ (Issue.mk cache request).item?.toList := by
  cases hissue with
  | hollow hhollow =>
    rw [Issue.item?, if_pos (.inr (.inl hhollow))]
    exact (List.append_nil _).symm
  | sent _ hsync handover =>
    obtain ⟨memory, counters, rfl⟩ := handover.frame
    rw [Issue.item?, if_pos (.inl hsync)]
    exact (List.append_nil _).symm
  | blank _ _ hblank =>
    rw [Issue.item?, if_pos (.inr (.inr hblank))]
    exact (List.append_nil _).symm
  | queued hfull hlater htext =>
    rw [Issue.item?, if_neg]
    · rfl
    · rintro (hsync | hhollow | hblank)
      · exact hlater hsync
      · exact Bool.false_ne_true (hfull.symm.trans hhollow)
      · exact htext hblank

theorem Resolved.queue_of_hit {entry : Cache.Entry}
    (hresolved : Resolved host request now cache sinks resolution after sinksAfter)
    (hfound : cache.find? request = some entry) : after.queue = cache.queue := by
  rw [hresolved.of_hit hfound]
  exact Cache.queue_modifyStore _ cache

theorem Resolved.queue_of_miss
    (hresolved : Resolved host request now cache sinks resolution after sinksAfter)
    (hmissing : cache.find? request = none) :
    after.queue = cache.queue ++ (Issue.mk cache request).item?.toList := by
  obtain ⟨issued, issuedCache, hissue, rfl⟩ := hresolved.of_miss hmissing
  rw [Cache.queue_recorded, hissue.queue]

end Session

/-! ### The queue after a command -/

/-- The command empties the queue without delivering what is in it. -/
def Command.discards : Command → Bool
  | clear | destroy => true
  | _ => false

namespace Moment

variable {host : Host σ} {moment : Moment σ} {mode : InsertionMode} {budget : Nat}

/-- What a flush takes from the queue: items of a mode, and how many at most. -/
def flush? (moment : Moment σ) : Option (InsertionMode × Nat) :=
  match moment.command with
  | .flushDeferred => some (.deferred, moment.session.cache.queue.length)
  | .flushIdle budget => some (.idle, budget)
  | _ => none

/-- What the command puts into the queue. -/
def enqueued (moment : Moment σ) : List Cache.Waiting := (moment.issue?.bind Issue.item?).toList

/-- What a flush of this mode takes out of the queue. -/
def flushed (mode : InsertionMode) (moment : Moment σ) : List Cache.Waiting :=
  match moment.flush? with
  | some (which, budget) =>
    if which = mode then (moment.session.cache.queue.drain which budget).1 else []
  | none => []

theorem flushed_of_flush (hflush : moment.flush? = some (mode, budget)) :
    moment.flushed mode = (moment.session.cache.queue.drain mode budget).1 := by
  rw [flushed, hflush]
  exact if_pos rfl

/-- A command that takes items from the queue is a flush and nothing else. -/
theorem of_flush (host : Host σ) (hflush : moment.flush? = some (mode, budget)) :
    moment.command.request? = none ∧
      moment.next host = (moment.session.flush host mode budget).2 ∧
      moment.command.happenings host moment.now moment.session =
        moment.session.flushHappenings host mode budget := by
  obtain ⟨session, now, command⟩ := moment
  cases command with
  | flushDeferred | flushIdle =>
    obtain ⟨rfl, rfl⟩ := Prod.mk.inj (Option.some.inj hflush)
    exact ⟨rfl, rfl, rfl⟩
  | _ => exact absurd hflush.symm (Option.some_ne_none _)

theorem enqueued_of_no_request (hrequest : moment.command.request? = none) :
    moment.enqueued = [] := by
  rw [enqueued, issue?, hrequest]
  rfl

theorem queue_of_request {request : Request}
    (hrequest : moment.command.request? = some request) :
    (moment.next host).cache.queue = moment.session.cache.queue ++ moment.enqueued := by
  obtain ⟨resolution, hresolved⟩ :=
    Command.resolved_run host moment.now moment.session hrequest
  rw [Moment.next, enqueued, issue?, hrequest]
  cases hfound : moment.session.cache.find? request with
  | none =>
    rw [hresolved.queue_of_miss hfound]
    simp [hfound]
  | some entry =>
    rw [hresolved.queue_of_hit hfound]
    simp [hfound]

theorem queue_of_flush (hflush : moment.flush? = some (mode, budget)) :
    (moment.next host).cache.queue = (moment.session.cache.queue.drain mode budget).2 := by
  obtain ⟨-, hnext, -⟩ := of_flush host hflush
  obtain ⟨_, _, _, _, hframe⟩ := moment.session.flush_frame host mode budget
  rw [hnext, hframe]

/-- A command that takes nothing out of the queue leaves it as it is, up to what it adds. -/
theorem queue_of_no_flush (hflush : moment.flush? = none)
    (hkept : moment.command.discards = false) :
    (moment.next host).cache.queue = moment.session.cache.queue ++ moment.enqueued := by
  cases hrequest : moment.command.request? with
  | some request => exact queue_of_request hrequest
  | none =>
    have heffect := Command.run_effect host moment.now moment.session hrequest
    rw [enqueued_of_no_request hrequest, List.append_nil, Moment.next]
    generalize (moment.command.run host moment.now moment.session).2 = after at heffect ⊢
    obtain ⟨session, now, command⟩ := moment
    cases heffect with
    | idle | rejected | configured => rfl
    | swept time =>
      rw [Session.cache_evictAt]
      rfl
    | maintained time =>
      rw [Session.cache_maintainAt]
      split <;> rfl
    | flushedDeferred | flushedIdle => exact absurd hflush (Option.some_ne_none _)
    | cleared | destroyed => exact absurd hkept.symm Bool.false_ne_true

/-- The law for one moment. -/
theorem ofMode_next (hkept : moment.command.discards = false) (mode : InsertionMode) :
    moment.session.cache.queue.ofMode mode ++ Cache.Queue.ofMode mode moment.enqueued =
      moment.flushed mode ++ (moment.next host).cache.queue.ofMode mode := by
  cases hflush : moment.flush? with
  | none =>
    rw [queue_of_no_flush hflush hkept, Cache.Queue.ofMode_append, flushed, hflush]
    rfl
  | some drained =>
    obtain ⟨which, budget⟩ := drained
    obtain ⟨hrequest, -, -⟩ := of_flush host hflush
    rw [queue_of_flush hflush, enqueued_of_no_request hrequest, flushed, hflush]
    exact (List.append_nil _).trans (Cache.Queue.ofMode_drain mode which budget _)

end Moment

/-! ### What a flush does with its items -/

theorem Cache.deliveryHappenings_texts (host : Host σ) {text : Text} (htext : text ≠ [])
    (repeatable : Bool) (sinks : σ) (cache : Cache) :
    (cache.deliveryHappenings host text repeatable sinks).filterMap Happening.text? = [text] := by
  simp only [deliveryHappenings]
  rw [if_neg fun hempty => htext (List.isEmpty_iff.mp hempty)]
  split
  · rfl
  · split <;> rfl

/-- Every item with a text is handled once, in order. -/
theorem Session.settleHappenings_texts (host : Host σ) {items : List Cache.Waiting}
    (hitems : ∀ item ∈ items, item.text ≠ []) (session : Session σ) :
    (session.settleHappenings host items).filterMap Happening.text? =
      items.map Cache.Waiting.text := by
  induction items generalizing session with
  | nil => rfl
  | cons item rest ih =>
    rw [settleHappenings, List.filterMap_append, List.map_cons,
      Cache.deliveryHappenings_texts host (hitems item List.mem_cons_self),
      ih fun other hother => hitems other (List.mem_cons_of_mem _ hother)]
    rfl

theorem Moment.happenings_of_flush (host : Host σ) {moment : Moment σ} {mode : InsertionMode}
    {budget : Nat} (hflush : moment.flush? = some (mode, budget))
    (hqueue : ∀ item ∈ moment.session.cache.queue, item.text ≠ []) :
    (moment.command.happenings host moment.now moment.session).filterMap Happening.text? =
      (moment.flushed mode).map Cache.Waiting.text := by
  obtain ⟨-, -, hhappenings⟩ := of_flush host hflush
  rw [hhappenings, flushed_of_flush hflush]
  refine Session.settleHappenings_texts host (fun item hitem => hqueue item ?_) _
  exact Cache.Queue.mem_drain.mpr (.inl hitem)

/-! ### Runs -/

namespace Command

variable (host : Host σ) (mode : InsertionMode) (commands : List (Time × Command))
  (session : Session σ)

/-- What is issued in a mode during a run and has a text, in the order of the issues. -/
def enqueued : List Cache.Waiting :=
  Cache.Queue.ofMode mode ((issues host commands session).filterMap Issue.item?)

/-- What the flushes of a mode take out of the queue during a run, in order. -/
def flushed : List Cache.Waiting :=
  (moments host commands session).flatMap (Moment.flushed mode)

variable {commands session}

theorem enqueued_cons (now : Time) (command : Command) (rest : List (Time × Command)) :
    enqueued host mode ((now, command) :: rest) session =
      Cache.Queue.ofMode mode (Moment.mk session now command).enqueued
        ++ enqueued host mode rest (command.run host now session).2 := by
  rw [enqueued, issues_cons, List.filterMap_append, Cache.Queue.ofMode_append, enqueued,
    Moment.enqueued]
  cases (Moment.mk session now command).issue? with
  | none => rfl
  | some issue => cases hitem : issue.item? <;> simp [hitem]

/-- The law for a run. -/
theorem ofMode_runAll (hkept : ∀ timed ∈ commands, timed.2.discards = false) :
    session.cache.queue.ofMode mode ++ enqueued host mode commands session =
      flushed host mode commands session
        ++ (runAll host commands session).2.cache.queue.ofMode mode := by
  induction commands generalizing session with
  | nil => exact List.append_nil _
  | cons head rest ih =>
    obtain ⟨now, command⟩ := head
    let moment : Moment σ := ⟨session, now, command⟩
    have hmoment : session.cache.queue.ofMode mode ++ Cache.Queue.ofMode mode moment.enqueued =
        moment.flushed mode ++ (moment.next host).cache.queue.ofMode mode :=
      moment.ofMode_next (hkept _ List.mem_cons_self) mode
    have hrest : (moment.next host).cache.queue.ofMode mode
          ++ enqueued host mode rest (moment.next host) =
        flushed host mode rest (moment.next host)
          ++ (runAll host rest (moment.next host)).2.cache.queue.ofMode mode :=
      ih fun timed htimed => hkept timed (List.mem_cons_of_mem _ htimed)
    -- The queue between the first command and the rest is the end of one law and the start of the other.
    calc session.cache.queue.ofMode mode ++ enqueued host mode ((now, command) :: rest) session
        = moment.flushed mode ++ ((moment.next host).cache.queue.ofMode mode
            ++ enqueued host mode rest (moment.next host)) := by
          rw [enqueued_cons, ← List.append_assoc, hmoment, List.append_assoc]
          rfl
      _ = flushed host mode ((now, command) :: rest) session
            ++ (runAll host ((now, command) :: rest) session).2.cache.queue.ofMode mode := by
          rw [hrest, ← List.append_assoc]
          rfl

theorem enqueued_sync : enqueued host .sync commands session = [] := by
  refine List.filter_eq_nil_iff.mpr fun item hitem hsync => ?_
  obtain ⟨issue, -, hissue⟩ := List.mem_filterMap.mp hitem
  exact (Issue.later_of_item? hissue).1 (of_decide_eq_true hsync)

variable (config : Config) (state : σ)

theorem texts_of_queue (hkept : ∀ timed ∈ commands, timed.2.discards = false) :
    ∀ moment ∈ moments host commands (.start config state),
      ∀ item ∈ moment.session.cache.queue, item.text ≠ [] := by
  refine (runAll_keeps host (fun session => ∀ item ∈ session.cache.queue, item.text ≠ [])
    (fun item hitem => absurd hitem List.not_mem_nil) ?_).1
  intro moment hmoment hqueue item hitem
  cases hflush : moment.flush? with
  | some drained =>
    rw [Moment.queue_of_flush hflush] at hitem
    exact hqueue item (Cache.Queue.mem_drain.mpr (.inr hitem))
  | none =>
    rw [Moment.queue_of_no_flush hflush (hkept _ (mem_of_mem_moments host hmoment))] at hitem
    rcases List.mem_append.mp hitem with hold | hnew
    · exact hqueue item hold
    · obtain ⟨issue, -, hissue⟩ := Option.bind_eq_some_iff.mp (Option.mem_toList.mp hnew)
      exact (Issue.later_of_item? hissue).2

/-- As long as nothing is cleared or destroyed, what is flushed in a mode is the first part of what was issued in it, text by text and in the same order, and what is still missing waits in the queue. Each flush takes as much of its mode as it may and handles every text of that once: the sink accepts it, refuses it or is known to have it, and the calls among these are all that the sinks recorded of the flush. -/
theorem flushed_prefix_enqueued (hkept : ∀ timed ∈ commands, timed.2.discards = false) :
    (∀ mode, flushed host mode commands (.start config state) <+:
      enqueued host mode commands (.start config state)) ∧
    (runAll host commands (.start config state)).2.cache.stats.waiting
        + ((flushed host .deferred commands (.start config state)).length
          + (flushed host .idle commands (.start config state)).length) =
      (enqueued host .deferred commands (.start config state)).length
        + (enqueued host .idle commands (.start config state)).length ∧
    ∀ moment ∈ moments host commands (.start config state), ∀ mode budget,
      moment.flush? = some (mode, budget) →
        moment.flushed mode = (moment.session.cache.queue.ofMode mode).take budget ∧
        (moment.command.happenings host moment.now moment.session).filterMap Happening.text? =
          (moment.flushed mode).map Cache.Waiting.text ∧
        moment.events host =
          (moment.command.happenings host moment.now moment.session).filterMap
            Happening.event? := by
  have hlaw : ∀ mode, enqueued host mode commands (.start config state) =
      flushed host mode commands (.start config state)
        ++ (runAll host commands (.start config state)).2.cache.queue.ofMode mode := by
    intro mode
    exact @ofMode_runAll _ host mode commands (.start config state) hkept
  refine ⟨fun mode => ⟨_, (hlaw mode).symm⟩, ?waiting, ?handled⟩
  case waiting =>
    have hsync := List.append_eq_nil_iff.mp ((hlaw .sync).symm.trans (enqueued_sync host))
    have hlength := (runAll host commands (.start config state)).2.cache.queue.length_eq
    rw [hsync.2, List.length_nil] at hlength
    rw [hlaw .deferred, hlaw .idle, List.length_append, List.length_append]
    show List.length _ + _ = _
    omega
  case handled =>
    intro moment hmoment mode budget hflush
    have htexts := texts_of_queue host config state hkept moment hmoment
    rw [moment.happenings_of_flush host hflush htexts, Moment.flushed_of_flush hflush]
    exact ⟨Cache.Queue.fst_drain mode budget _, rfl, moment.events_happenings host⟩

/-- Two styles for later and one for idle time; only the first two are asked for. -/
def laterAndIdle : List (Time × Command) :=
  [(0, .style [("color".toList, .text "red".toList)] {}),
    (0, .style [("color".toList, .text "blue".toList)] {}),
    (1, .configure { insertion := some .idle }),
    (1, .style [("color".toList, .text "green".toList)] {}),
    (2, .flushDeferred)]

theorem flushed_prefix_enqueued_laterAndIdle :
    (flushed Sheet.host .deferred laterAndIdle (.start { insertion := .deferred } [])).length = 2 ∧
      flushed Sheet.host .deferred laterAndIdle (.start { insertion := .deferred } []) <+:
        enqueued Sheet.host .deferred laterAndIdle (.start { insertion := .deferred } []) ∧
      (runAll Sheet.host laterAndIdle
        (.start { insertion := .deferred } [])).2.cache.stats.waiting = 1 ∧
      ∃ moment ∈ moments Sheet.host laterAndIdle (.start { insertion := .deferred } []),
        moment.flush? = some (.deferred, 3) ∧
          moment.events Sheet.host =
            (moment.flushed .deferred).map fun item => .accepted .builtin item.text := by
  have hkept : ∀ timed ∈ laterAndIdle, timed.2.discards = false := by decide
  obtain ⟨hinOrder, hwaiting, hhandled⟩ :=
    flushed_prefix_enqueued Sheet.host { insertion := .deferred } [] hkept
  obtain ⟨moment, hmoment, hflush, hcalls⟩ : ∃ moment ∈ moments Sheet.host laterAndIdle
      (.start { insertion := .deferred } []), moment.flush? = some (.deferred, 3) ∧
      (moment.command.happenings Sheet.host moment.now moment.session).filterMap
          Happening.event? =
        (moment.flushed .deferred).map fun item => .accepted .builtin item.text := by
    decide +kernel
  obtain ⟨-, -, hrecord⟩ := hhandled moment hmoment .deferred 3 hflush
  have hflushed : (flushed Sheet.host .deferred laterAndIdle
      (.start { insertion := .deferred } [])).length = 2 := by decide +kernel
  have hidle : (flushed Sheet.host .idle laterAndIdle
      (.start { insertion := .deferred } [])).length = 0 := by decide +kernel
  have hlater : (enqueued Sheet.host .deferred laterAndIdle
      (.start { insertion := .deferred } [])).length = 2 := by decide +kernel
  have hleft : (enqueued Sheet.host .idle laterAndIdle
      (.start { insertion := .deferred } [])).length = 1 := by decide +kernel
  exact ⟨hflushed, hinOrder .deferred, by omega, moment, hmoment, hflush, hrecord.trans hcalls⟩

end Command

end Stylesheet
