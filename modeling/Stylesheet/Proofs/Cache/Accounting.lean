import Stylesheet.Cache.Stats
import Stylesheet.Proofs.Cache.Backlog
import Stylesheet.Proofs.Cache.Path
import Stylesheet.Proofs.Cache.Refusal

/-!
# What the counters account for

A counter is right if it is the number of certain things that were done in a run, and these things are told here without the counters: how a request is taken, which calls the sinks get, which misses are worth an entry, and which entries a failed delivery takes away. A `Tally` collects their numbers, `Balanced` says that the counters and the stores moved by just as much, and every operation is balanced by a tally of its own. As tallies add up along a run, so do the counters, as long as nothing is cleared or destroyed.

Entries leave the stores in two ways that are counted apart: a sweep counts what it evicts, and an entry that is dropped because its text was refused is not counted anywhere. This is why it has a place in the tally.
-/

namespace Stylesheet

variable {σ : Type}

/-! ### How a request is taken -/

inductive Verdict
  | hit
  | missed
  /-- Faulty, or compiled to nothing. -/
  | rejected
deriving DecidableEq

def Issue.isHollow (issue : Issue) : Bool :=
  issue.request.isHollow issue.cache.config.renderMode issue.identifier

def Cache.verdict (request : Request) (cache : Cache) : Verdict :=
  if (cache.find? request).isSome then .hit
  else if (Issue.mk cache request).isHollow then .rejected
  else .missed

namespace Moment

/-- How the request is taken that the command makes, if it is meant to make one. -/
def verdict? (moment : Moment σ) : Option Verdict :=
  match moment.command.request? with
  | some request => some (moment.session.cache.verdict request)
  | none => if moment.command.asks then some .rejected else none

end Moment

/-- Every command that asks for something is taken in one way, and no other command is. -/
theorem Moment.isSome_verdict? (moment : Moment σ) :
    moment.verdict?.isSome = moment.command.asks := by
  rw [verdict?]
  split
  · rename_i hrequest
    exact (Command.asks_of_request? hrequest).symm
  · cases moment.command.asks <;> rfl

/-! ### Calls, entries made and entries dropped -/

/-- The sink was handed a text. -/
def SinkEvent.isDelivery : SinkEvent → Bool
  | accepted .. | refused .. => true
  | released _ => false

/-- How often a sink was handed a text. -/
def Happening.calls (happenings : List Happening) : Nat :=
  (happenings.filterMap event?).countP SinkEvent.isDelivery

@[simp] theorem Happening.calls_append (left right : List Happening) :
    calls (left ++ right) = calls left + calls right := by
  rw [calls, List.filterMap_append, List.countP_append, calls, calls]

namespace Session

variable (host : Host σ)

/-- The request is a miss with caching on, and its text is delivered or queued. -/
def lands (request : Request) (session : Session σ) : Bool :=
  (session.cache.find? request).isNone && session.cache.config.caching
    && (session.issue host request).1.delivery.succeeded

/-- The entries that go because the text of an item is refused. -/
def dropped (item : Cache.Waiting) (session : Session σ) : Cache.Store :=
  let settled := session.settle host item
  if settled.1 then []
  else (session.cache.store item.kind).filter (· ∉ settled.2.cache.store item.kind)

def allDropped : List Cache.Waiting → Session σ → Cache.Store
  | [], _ => []
  | item :: rest, session =>
    session.dropped host item ++ allDropped rest (session.settle host item).2

def flushDropped (mode : InsertionMode) (budget : Nat) (session : Session σ) : Cache.Store :=
  let drained := session.cache.queue.drain mode budget
  (session.modify fun cache => { cache with queue := drained.2 }).allDropped host drained.1

end Session

namespace Moment

variable (host : Host σ) (moment : Moment σ)

def lands : Bool := moment.command.request?.any (moment.session.lands host)

/-- The entries that a flush drops. -/
def dropped : Cache.Store :=
  match moment.flush? with
  | none => []
  | some (mode, budget) => moment.session.flushDropped host mode budget

end Moment

namespace Command

variable (host : Host σ) (commands : List (Time × Command)) (session : Session σ)

/-- How the requests of a run are taken, in order. -/
def verdicts : List Verdict := (moments host commands session).filterMap Moment.verdict?

/-- The entries that the flushes of a run drop, in order. -/
def dropped : Cache.Store := (moments host commands session).flatMap (Moment.dropped host)

theorem verdicts_cons (now : Time) (command : Command) :
    verdicts host ((now, command) :: commands) session =
      (Moment.mk session now command).verdict?.toList
        ++ verdicts host commands (command.run host now session).2 := by
  rw [verdicts, moments, List.filterMap_cons, verdicts]
  cases (Moment.mk session now command).verdict? <;> rfl

end Command

/-! ### Tallies -/

structure Tally where
  verdicts : List Verdict := []
  calls : Nat := 0
  entered : Nat := 0
  dropped : Nat := 0

namespace Tally

def add (first second : Tally) : Tally where
  verdicts := first.verdicts ++ second.verdicts
  calls := first.calls + second.calls
  entered := first.entered + second.entered
  dropped := first.dropped + second.dropped

end Tally

def Moment.tally (host : Host σ) (moment : Moment σ) : Tally where
  verdicts := moment.verdict?.toList
  calls := Happening.calls (moment.command.happenings host moment.now moment.session)
  entered := (moment.lands host).toNat
  dropped := (moment.dropped host).length

def Command.tally (host : Host σ) (commands : List (Time × Command)) (session : Session σ) :
    Tally where
  verdicts := verdicts host commands session
  calls := (events host commands session).countP SinkEvent.isDelivery
  entered := (moments host commands session).countP (Moment.lands host)
  dropped := (dropped host commands session).length

theorem Command.tally_cons (host : Host σ) (now : Time) (command : Command)
    (rest : List (Time × Command)) (session : Session σ) :
    tally host ((now, command) :: rest) session =
      ((Moment.mk session now command).tally host).add
        (tally host rest (command.run host now session).2) := by
  rw [tally, Tally.add, Tally.mk.injEq]
  refine ⟨?taken, ?handed, ?made, ?gone⟩
  case taken => exact verdicts_cons host rest session now command
  case handed =>
    rw [events_chronicle, chronicle, Moment.tally, tally, events_chronicle]
    exact Happening.calls_append _ _
  case made =>
    rw [moments, List.countP_cons, Moment.tally, tally, Nat.add_comm]
    cases Moment.lands host ⟨session, now, command⟩ <;> rfl
  case gone =>
    rw [dropped, moments, List.flatMap_cons, List.length_append]
    rfl

/-! ### Balance -/

namespace Cache

variable {cache between after : Cache}

/-- Each way to take a request has a counter of its own. -/
def count (cache : Cache) : Verdict → Cache
  | .hit => cache.countHit
  | .missed => cache.countMiss
  | .rejected => cache.countRejection

/-- The entries there are, and those that sweeps have counted as evicted. -/
def heldOrEvicted (cache : Cache) : Nat :=
  cache.styles.length + cache.keyframes.length + cache.counters.evictions

/-- The counters and the stores moved by as much as a tally says. -/
structure Balanced (cache after : Cache) (tally : Tally) : Prop where
  hits : after.counters.hits = cache.counters.hits + tally.verdicts.count .hit
  misses : after.counters.misses = cache.counters.misses + tally.verdicts.count .missed
  rejections :
    after.counters.rejections = cache.counters.rejections + tally.verdicts.count .rejected
  calls : after.counters.deliveries + after.counters.failures =
    cache.counters.deliveries + cache.counters.failures + tally.calls
  entries : after.heldOrEvicted + tally.dropped = cache.heldOrEvicted + tally.entered

namespace Balanced

theorem trans {first second : Tally} (hfirst : Balanced cache between first)
    (hsecond : Balanced between after second) : Balanced cache after (first.add second) where
  hits := by rw [hsecond.hits, hfirst.hits, Tally.add, List.count_append, Nat.add_assoc]
  misses := by rw [hsecond.misses, hfirst.misses, Tally.add, List.count_append, Nat.add_assoc]
  rejections := by
    rw [hsecond.rejections, hfirst.rejections, Tally.add, List.count_append, Nat.add_assoc]
  calls := by rw [hsecond.calls, hfirst.calls, Tally.add, Nat.add_assoc]
  entries := by
    have hbefore := hfirst.entries
    have hlater := hsecond.entries
    simp only [Tally.add]
    omega

/-- A step that is not tallied leaves a tally as it is. -/
theorem trans_quiet {tally : Tally} (hfirst : Balanced cache between tally)
    (hsecond : Balanced between after {}) : Balanced cache after tally := by
  have hboth := hfirst.trans hsecond
  rwa [Tally.add, List.append_nil] at hboth

theorem quiet_trans {tally : Tally} (hfirst : Balanced cache between {})
    (hsecond : Balanced between after tally) : Balanced cache after tally := by
  have hboth := hfirst.trans hsecond
  simpa only [Tally.add, List.nil_append, Nat.zero_add] using hboth

theorem quiet (hstyles : after.styles.length = cache.styles.length)
    (hkeyframes : after.keyframes.length = cache.keyframes.length)
    (hcounters : after.counters = cache.counters) : Balanced cache after {} where
  hits := by rw [hcounters]; rfl
  misses := by rw [hcounters]; rfl
  rejections := by rw [hcounters]; rfl
  calls := by rw [hcounters]; rfl
  entries := by rw [heldOrEvicted, heldOrEvicted, hstyles, hkeyframes, hcounters]

/-! ### Operations on a cache -/

theorem counted (verdict : Verdict) (cache : Cache) :
    Balanced cache (cache.count verdict) { verdicts := [verdict] } := by
  cases verdict <;> exact ⟨rfl, rfl, rfl, rfl, rfl⟩

theorem touch (cache : Cache) (request : Request) (now : Time) :
    Balanced cache (cache.touch request now) {} := by
  rw [Cache.touch]
  cases request.kind <;>
    exact quiet (by simp [modifyStore, Store.modify]) (by simp [modifyStore, Store.modify]) rfl

theorem enter (cache : Cache) (request : Request) (entry : Entry) :
    Balanced cache (cache.enter request entry) { entered := 1 } := by
  have hentries : (cache.enter request entry).heldOrEvicted = cache.heldOrEvicted + 1 := by
    rw [Cache.enter]
    cases request.kind <;> simp [modifyStore, heldOrEvicted, Store.add] <;> omega
  rw [Cache.enter] at hentries ⊢
  cases hkind : request.kind <;> rw [hkind] at hentries <;>
    exact ⟨rfl, rfl, rfl, rfl, hentries⟩

theorem swept (cache : Cache) (now : Time) : Balanced cache (cache.swept now) {} where
  hits := rfl
  misses := rfl
  rejections := rfl
  calls := rfl
  entries := by
    have hsplit (store : Store) :
        (store.kept now cache.config.maxIdle cache.config.maxEntries).length
          + (store.removed now cache.config.maxIdle cache.config.maxEntries).length =
          store.length :=
      (List.length_eq_length_filter_add _).symm
    have hstyles := hsplit cache.styles
    have hkeyframes := hsplit cache.keyframes
    simp only [heldOrEvicted, Cache.swept, evicted, List.length_map, List.length_append]
    omega

theorem maintained (cache : Cache) (now : Time) : Balanced cache (cache.maintained now) {} :=
  (swept cache now).trans_quiet ⟨rfl, rfl, rfl, rfl, rfl⟩

theorem followedUp (cache : Cache) (now : Time) : Balanced cache (cache.followedUp now) {} := by
  rw [Cache.followedUp]
  split
  · exact quiet rfl rfl rfl
  · exact maintained cache now

/-! ### Requests -/

theorem handover {host : Host σ} {text : Text} {repeatable delivered : Bool}
    {sinks sinksAfter : σ}
    (handover : Session.Handover host text repeatable cache sinks delivered after sinksAfter) :
    Balanced cache after
      { calls := Happening.calls (cache.deliveryHappenings host text repeatable sinks) } := by
  cases handover with
  | skipped hskip =>
    by_cases htext : text = []
    · rw [deliveryHappenings, if_pos (List.isEmpty_iff.mpr htext)]
      exact quiet rfl rfl rfl
    · rw [deliveryHappenings, if_neg (by simpa using htext), if_pos (hskip.resolve_left htext)]
      exact quiet rfl rfl rfl
  | accepted htext hnew hok =>
    simp only [deliveryHappenings, List.isEmpty_iff, htext, hnew, hok, if_false,
      Bool.false_eq_true]
    rw [accepted_eq]
    exact ⟨rfl, rfl, rfl, Nat.add_right_comm _ _ _, rfl⟩
  | refused htext hnew herror =>
    simp only [deliveryHappenings, List.isEmpty_iff, htext, hnew, herror, if_false,
      Bool.false_eq_true]
    exact ⟨rfl, rfl, rfl, rfl, rfl⟩

/-- An issue is counted as it goes only if it is rejected; the misses are counted when they are put on record. -/
theorem issuance {host : Host σ} {request : Request} {issued : Session.Issued}
    {sinks sinksAfter : σ}
    (hissue : Session.Issuance host request cache sinks issued after sinksAfter) :
    Balanced cache after
      { verdicts := if (Issue.mk cache request).isHollow then [.rejected] else []
        calls := Happening.calls (cache.issueHappenings host request sinks) } := by
  have hadvanced : Balanced cache cache.advance {} := quiet rfl rfl rfl
  cases hissue with
  | hollow hhollow =>
    rw [show (Issue.mk cache request).isHollow = true from hhollow, issueHappenings,
      if_pos hhollow]
    exact hadvanced.quiet_trans (counted .rejected cache.advance)
  | sent hfull hsync handover =>
    rw [show (Issue.mk cache request).isHollow = false from hfull]
    simp only [issueHappenings, hfull, hsync, if_true, if_false, Bool.false_eq_true]
    exact hadvanced.quiet_trans (.handover handover)
  | blank hfull hlater | queued hfull hlater =>
    rw [show (Issue.mk cache request).isHollow = false from hfull]
    simp only [issueHappenings, hfull, hlater, if_false, Bool.false_eq_true]
    exact quiet rfl rfl rfl

theorem recorded (request : Request) (now : Time) {issued : Session.Issued} (cache : Cache)
    (hreal : issued.delivery ≠ .rejected) :
    Balanced cache (cache.recorded request now issued)
      { verdicts := [.missed]
        entered := (cache.config.caching && issued.delivery.succeeded).toNat } := by
  by_cases hentered : cache.config.caching = true ∧ issued.delivery.succeeded = true
  · rw [recorded_of_entered hentered, hentered.1, hentered.2]
    have hmade := (enter cache request (issued.entry now)).trans (counted .missed _)
    exact hmade.trans_quiet (.followedUp _ now)
  · rw [Cache.recorded, if_neg hreal, if_neg hentered,
      Bool.eq_false_iff.mpr fun hboth => hentered (Bool.and_eq_true_iff.mp hboth)]
    exact counted .missed cache

/-! ### Flushes -/

end Balanced

/-- What a refused item takes away is missing afterwards, and nothing else is. -/
theorem Store.length_conclude (item : Waiting) (delivered : Bool) (store : Store) :
    (item.conclude delivered store).length
        + (if delivered then [] else
          store.filter (· ∉ item.conclude delivered store)).length =
      store.length := by
  cases delivered with
  | true =>
    rw [Waiting.conclude, if_pos rfl, markMaterialized]
    split
    · rw [if_pos rfl, modify, List.length_map]
      rfl
    · rfl
  | false =>
    rw [if_neg Bool.false_ne_true, Waiting.conclude, if_neg Bool.false_ne_true, removeIfIssued]
    split
    · have hgone : store.filter (· ∉ store.filter (·.1 ≠ item.fingerprint)) =
          store.filter fun stored => !decide (stored.1 ≠ item.fingerprint) :=
        List.filter_congr fun stored hstored => by simp [hstored]
      rw [hgone]
      exact (List.length_eq_length_filter_add _).symm
    · have hnone : store.filter (· ∉ store) = [] :=
        List.filter_eq_nil_iff.mpr fun stored hstored => by simp [hstored]
      rw [hnone]
      rfl

namespace Balanced

theorem concluded (cache : Cache) (item : Waiting) (delivered : Bool) :
    Balanced cache (cache.concluded item delivered)
      { dropped :=
          (if delivered then [] else
            (cache.store item.kind).filter
              (· ∉ (cache.concluded item delivered).store item.kind)).length } := by
  have hlength := Store.length_conclude item delivered (cache.store item.kind)
  have hself : item.kind.SharesStore item.kind := Iff.rfl
  rw [Cache.concluded, store_modifyStore, if_pos hself]
  refine ⟨?_, ?_, ?_, ?_, ?entries⟩
  case entries =>
    simp only [heldOrEvicted]
    cases hkind : item.kind <;> rw [hkind] at hlength <;>
      simp only [modifyStore, store] at hlength ⊢ <;> omega
  all_goals
    rw [modifyStore_eq]
    rfl

end Balanced

end Cache

/-- A sweep hands no sink a text. -/
theorem Cache.calls_sweepHappenings (now : Time) (cache : Cache) :
    Happening.calls (cache.sweepHappenings now) = 0 := by
  rw [Happening.calls, sweepHappenings, List.filterMap_map]
  exact congrArg _ (List.filterMap_eq_nil_iff.mpr fun _ _ => rfl)

theorem Cache.calls_recordHappenings (request : Request) (now : Time) (issued : Session.Issued)
    (cache : Cache) : Happening.calls (cache.recordHappenings request now issued) = 0 := by
  rw [recordHappenings, followUpHappenings]
  split
  · split
    · rfl
    · exact calls_sweepHappenings now _
  · rfl

namespace Session

open Cache (Balanced)

variable (host : Host σ)

theorem Issuance.rejected_iff {host : Host σ} {request : Request} {cache after : Cache}
    {sinks sinksAfter : σ} {issued : Issued}
    (hissue : Issuance host request cache sinks issued after sinksAfter) :
    issued.delivery = .rejected ↔ (Issue.mk cache request).isHollow = true := by
  cases hissue with
  | hollow hhollow => exact iff_of_true rfl hhollow
  | @sent delivered _ _ hfull =>
    refine iff_of_false ?_ (Bool.eq_false_iff.mp hfull)
    cases delivered <;> exact nofun
  | blank hfull | queued hfull => exact iff_of_false nofun (Bool.eq_false_iff.mp hfull)

theorem balanced_settle (session : Session σ) (item : Cache.Waiting) :
    Balanced session.cache (session.settle host item).2.cache
      { calls := Happening.calls
          (session.cache.deliveryHappenings host item.text item.repeatable session.sinks)
        dropped := (session.dropped host item).length } := by
  obtain ⟨settled, handover, hcache⟩ := session.settle_handover host item
  have hstore : session.cache.store item.kind = settled.store item.kind := by
    obtain ⟨memory, counters, rfl⟩ := handover.frame
    exact Cache.store_congr rfl rfl item.kind
  rw [dropped, hcache, hstore]
  have hboth := (Balanced.handover handover).trans
    (.concluded settled item (session.settle host item).1)
  simpa only [Tally.add, List.nil_append, Nat.zero_add, Nat.add_zero] using hboth

theorem balanced_settleAll (items : List Cache.Waiting) (session : Session σ) :
    Balanced session.cache (session.settleAll host items).2.cache
      { calls := Happening.calls (session.settleHappenings host items)
        dropped := (session.allDropped host items).length } := by
  induction items generalizing session with
  | nil => exact .quiet rfl rfl rfl
  | cons item rest ih =>
    rw [settleHappenings, Happening.calls_append, allDropped, List.length_append]
    exact (session.balanced_settle host item).trans (ih (session.settle host item).2)

theorem balanced_flush (mode : InsertionMode) (budget : Nat) (session : Session σ) :
    Balanced session.cache (session.flush host mode budget).2.cache
      { calls := Happening.calls (session.flushHappenings host mode budget)
        dropped := (session.flushDropped host mode budget).length } := by
  have hdrained : Balanced session.cache
      { session.cache with queue := (session.cache.queue.drain mode budget).2 } {} :=
    .quiet rfl rfl rfl
  exact hdrained.quiet_trans (balanced_settleAll host (session.cache.queue.drain mode budget).1
    (session.modify fun cache => { cache with queue := (cache.queue.drain mode budget).2 }))

theorem balanced_resolve (request : Request) (now : Time) (session : Session σ) :
    Balanced session.cache (session.resolve host request now).2.cache
      { verdicts := [session.cache.verdict request]
        calls := Happening.calls (session.resolveHappenings host request now)
        entered := (session.lands host request).toNat } := by
  have hresolved := session.resolve_resolved now host request
  cases hfound : session.cache.find? request with
  | some entry =>
    simp only [Cache.verdict, lands, resolveHappenings, hfound, Option.isSome_some, if_true,
      Option.isNone_some, Bool.false_and]
    rw [hresolved.of_hit hfound]
    exact (Balanced.touch _ request now).quiet_trans (.counted .hit _)
  | none =>
    obtain ⟨-, hcache, -⟩ := session.resolve_of_missing now host hfound
    have hissue := session.issue_issuance host request
    have hissued := Balanced.issuance hissue
    simp only [Cache.verdict, lands, resolveHappenings, hfound, Option.isSome_none,
      Bool.false_eq_true, if_false, Option.isNone_none, Bool.true_and, Happening.calls_append,
      Cache.calls_recordHappenings, Nat.add_zero, hcache]
    by_cases hhollow : (Issue.mk session.cache request).isHollow
    · have hrejected := hissue.rejected_iff.mpr hhollow
      rw [if_pos hhollow] at hissued ⊢
      rw [Cache.recorded, if_pos hrejected, hrejected,
        show Delivery.rejected.succeeded = false from rfl, Bool.and_false]
      exact hissued
    · have hreal := mt hissue.rejected_iff.mp hhollow
      rw [if_neg hhollow] at hissued ⊢
      rw [← hissue.config]
      have hboth := hissued.trans (.recorded request now _ hreal)
      simpa only [Tally.add, List.nil_append, Nat.zero_add, Nat.add_zero] using hboth

end Session

/-! ### Moments and runs -/

namespace Moment

open Cache (Balanced)

variable (host : Host σ) (moment : Moment σ)

theorem asks_of_flush {mode : InsertionMode} {budget : Nat}
    (hflush : moment.flush? = some (mode, budget)) : moment.command.asks = false := by
  obtain ⟨session, now, command⟩ := moment
  cases command with
  | flushDeferred | flushIdle => rfl
  | _ => exact absurd hflush.symm (Option.some_ne_none _)

/-- Without a request and without a flush no sink is handed a text. -/
theorem calls_of_quiet (hrequest : moment.command.request? = none)
    (hflush : moment.flush? = none) :
    Happening.calls (moment.command.happenings host moment.now moment.session) = 0 := by
  rw [Command.happenings, hrequest]
  obtain ⟨session, now, command⟩ := moment
  cases command with
  | evictAt time => exact Cache.calls_sweepHappenings time _
  | maintainAt time =>
    simp only [Command.otherHappenings]
    split
    · exact Cache.calls_sweepHappenings time _
    · rfl
  | flushDeferred | flushIdle => exact absurd hflush (Option.some_ne_none _)
  | configure update => cases hsink : update.sink <;> simp [Command.otherHappenings, hsink] <;> rfl
  | _ => rfl

theorem tally_of_quiet (hrequest : moment.command.request? = none)
    (hflush : moment.flush? = none) :
    moment.tally host =
      { verdicts := if moment.command.asks then [.rejected] else [] } := by
  rw [tally, moment.calls_of_quiet host hrequest hflush, lands, verdict?, hrequest, dropped,
    hflush]
  cases moment.command.asks <;> rfl

theorem balanced_of_quiet (hkept : moment.command.discards = false)
    (hasks : moment.command.asks = false) (hflush : moment.flush? = none) :
    Balanced moment.session.cache (moment.next host).cache {} := by
  obtain ⟨session, now, command⟩ := moment
  cases command with
  | hasStyle | hasKeyframes | configure => exact .quiet rfl rfl rfl
  | evictAt time =>
    have hswept := Session.cache_evictAt session time
    exact hswept ▸ Balanced.swept session.cache time
  | maintainAt time =>
    have hmaintained := Session.cache_maintainAt session time
    split at hmaintained
    · exact hmaintained ▸ Balanced.maintained session.cache time
    · exact hmaintained ▸ Balanced.quiet rfl rfl rfl
  | flushDeferred | flushIdle => exact absurd hflush (Option.some_ne_none _)
  | clear | destroy => exact absurd hkept.symm Bool.false_ne_true
  | style | styleJson | keyframes | keyframesJson | global =>
    exact absurd hasks.symm Bool.false_ne_true

/-- The law for one moment. -/
theorem balanced_next (hkept : moment.command.discards = false) :
    Balanced moment.session.cache (moment.next host).cache (moment.tally host) := by
  cases hrequest : moment.command.request? with
  | some request =>
    have hflush : moment.flush? = none := by
      cases hflush : moment.flush? with
      | none => rfl
      | some drained => exact absurd (hrequest.symm.trans (of_flush host hflush).1) nofun
    rw [next, Command.run_of_request host moment.now moment.session hrequest, tally, verdict?,
      lands, Command.happenings, dropped, hrequest, hflush]
    exact moment.session.balanced_resolve host request moment.now
  | none =>
    cases hflush : moment.flush? with
    | some drained =>
      obtain ⟨mode, budget⟩ := drained
      obtain ⟨-, hnext, hhappenings⟩ := of_flush host hflush
      rw [hnext, tally, verdict?, lands, hrequest, moment.asks_of_flush hflush, hhappenings,
        dropped, hflush]
      exact moment.session.balanced_flush host mode budget
    | none =>
      rw [moment.tally_of_quiet host hrequest hflush]
      cases hasks : moment.command.asks with
      | true =>
        have hfaulty := Command.faulty_iff.mpr ⟨hasks, hrequest⟩
        rw [(moment.next_of_faulty host hfaulty).1]
        exact .counted .rejected _
      | false => exact moment.balanced_of_quiet host hkept hasks hflush

end Moment

namespace Command

open Cache (Balanced)

variable (host : Host σ) {commands : List (Time × Command)}

/-- The law for a run. -/
theorem balanced_runAll (session : Session σ)
    (hkept : ∀ timed ∈ commands, timed.2.discards = false) :
    Balanced session.cache (runAll host commands session).2.cache
      (tally host commands session) := by
  induction commands generalizing session with
  | nil => exact .quiet rfl rfl rfl
  | cons head rest ih =>
    obtain ⟨now, command⟩ := head
    have hfirst := (Moment.mk session now command).balanced_next host
      (hkept _ List.mem_cons_self)
    rw [tally_cons]
    exact hfirst.trans (ih _ fun timed htimed => hkept timed (List.mem_cons_of_mem _ htimed))

/-- A run takes every request in exactly one way. -/
theorem length_verdicts (commands : List (Time × Command)) (session : Session σ) :
    (verdicts host commands session).length = commands.countP (·.2.asks) := by
  induction commands generalizing session with
  | nil => rfl
  | cons head rest ih =>
    obtain ⟨now, command⟩ := head
    have hverdict := (Moment.mk session now command).isSome_verdict?
    rw [List.countP_cons, ← ih (command.run host now session).2, verdicts_cons,
      List.length_append, Nat.add_comm, ← hverdict]
    cases (Moment.mk session now command).verdict? <;> rfl

theorem count_verdicts (verdicts : List Verdict) :
    verdicts.count .hit + verdicts.count .missed + verdicts.count .rejected =
      verdicts.length := by
  induction verdicts with
  | nil => rfl
  | cons verdict rest ih => cases verdict <;> simp <;> omega

variable (config : Config) (state : σ) {stats : Cache.Stats}

/-- As long as nothing is cleared or destroyed, every request is counted once, as a hit, as a miss or as a rejection; every text that a sink is handed is counted once, as a delivery or as a failure; and every miss that was worth an entry is still there, was evicted and counted, or was dropped by a flush whose delivery failed. -/
theorem stats_account (hkept : ∀ timed ∈ commands, timed.2.discards = false)
    (hstats : (runAll host commands (.start config state)).2.cache.stats = stats) :
    stats.counters.hits + stats.counters.misses + stats.counters.rejections =
      commands.countP (·.2.asks) ∧
    stats.counters.deliveries + stats.counters.failures =
      (events host commands (.start config state)).countP SinkEvent.isDelivery ∧
    stats.styleEntries + stats.keyframeEntries + stats.counters.evictions
        + (dropped host commands (.start config state)).length =
      (moments host commands (.start config state)).countP (Moment.lands host) := by
  subst hstats
  have hbalanced := balanced_runAll host (.start config state) hkept
  refine ⟨?requests, ?calls, ?entries⟩
  case requests =>
    rw [← length_verdicts host commands (.start config state), ← count_verdicts]
    have hhits := hbalanced.hits
    have hmisses := hbalanced.misses
    have hrejections := hbalanced.rejections
    simp only [Session.start, Cache.ofConfig, Nat.zero_add] at hhits hmisses hrejections
    exact congrArg₂ _ (congrArg₂ _ hhits hmisses) hrejections
  case calls => exact hbalanced.calls.trans (Nat.zero_add _)
  case entries => exact hbalanced.entries.trans (Nat.zero_add _)

/-- Two styles are queued and one is asked for twice, an animation has no stops, one item is refused and one accepted, an entry is evicted, and then one style is refused and one accepted at once. -/
def busyDay : List (Time × Command) :=
  let paint (color : String) : Command := .style [("color".toList, .text color.toList)] {}
  [(0, paint "red"), (0, paint "red"), (1, .keyframes []), (2, paint "blue"), (3, .flushIdle 1),
    (4, .configure { sink := some .builtin }), (5, .flushIdle 1), (700000, .evictAt 700000),
    (700000, .configure { insertion := some .sync }), (700001, paint "green"),
    (700002, .configure { sink := some (.named "page".toList) }), (700003, paint "red")]

/-- A cache whose sink refuses everything. -/
def strictPage : Session Rack :=
  .start { insertion := .idle, sink := .named "page".toList }
    (Rack.setModes "page".toList ⟨"fail".toList, .refuse⟩ .ok {})

theorem stats_account_busyDay :
    (runAll Rack.host busyDay strictPage).2.cache.stats.counters =
        { hits := 1, misses := 4, rejections := 1, deliveries := 2, failures := 2, evictions := 1,
          maintenanceRuns := 2 } ∧
      busyDay.countP (·.2.asks) = 6 ∧
      (events Rack.host busyDay strictPage).countP SinkEvent.isDelivery = 4 ∧
      (runAll Rack.host busyDay strictPage).2.cache.stats.styleEntries = 1 ∧
      (dropped Rack.host busyDay strictPage).length = 1 ∧
      (moments Rack.host busyDay strictPage).countP (Moment.lands Rack.host) = 3 := by
  have hkept : ∀ timed ∈ busyDay, timed.2.discards = false := by decide
  have hcounters : (runAll Rack.host busyDay strictPage).2.cache.stats.counters =
      { hits := 1, misses := 4, rejections := 1, deliveries := 2, failures := 2, evictions := 1,
        maintenanceRuns := 2 } := by decide +kernel
  have hstyles : (runAll Rack.host busyDay strictPage).2.cache.stats.styleEntries = 1 := by
    decide +kernel
  have hkeyframes : (runAll Rack.host busyDay strictPage).2.cache.stats.keyframeEntries = 0 := by
    decide +kernel
  have hdropped : (dropped Rack.host busyDay strictPage).length = 1 := by decide +kernel
  obtain ⟨hrequests, hcalls, hentries⟩ := stats_account Rack.host _ _ hkept
    (rfl : (runAll Rack.host busyDay strictPage).2.cache.stats = _)
  rw [hcounters] at hrequests hcalls hentries
  rw [hstyles, hkeyframes] at hentries
  exact ⟨hcounters, hrequests.symm, hcalls.symm, hstyles, hdropped,
    hentries.symm.trans (congrArg (2 + ·) hdropped)⟩

end Command

/-! ### Numbers used up -/

/-- Of the issues, the misses are those that do not come to nothing. -/
theorem Moment.count_missed (moment : Moment σ) :
    moment.verdict?.toList.count .missed =
      moment.issue?.toList.countP (fun issue => !issue.isHollow) := by
  rw [verdict?, issue?]
  cases hrequest : moment.command.request? with
  | none => cases moment.command.asks <;> rfl
  | some request =>
    cases hfound : moment.session.cache.find? request with
    | some entry => simp [Cache.verdict, hfound]
    | none =>
      cases hhollow : (Issue.mk moment.session.cache request).isHollow <;>
        simp [Cache.verdict, hfound, hhollow]

namespace Command

variable (host : Host σ) (commands : List (Time × Command)) (session : Session σ)

theorem issued_runAll : (runAll host commands session).2.cache.issued =
    session.cache.issued + (issues host commands session).length := by
  induction commands generalizing session with
  | nil => rfl
  | cons head rest ih =>
    obtain ⟨now, command⟩ := head
    have hnext := issued_next host ⟨session, now, command⟩
    rw [runAll, ih, issues_cons, List.length_append, ← Nat.add_assoc]
    exact congrArg (· + _) hnext

theorem count_missed : (verdicts host commands session).count .missed =
    (issues host commands session).countP (fun issue => !issue.isHollow) := by
  induction commands generalizing session with
  | nil => rfl
  | cons head rest ih =>
    obtain ⟨now, command⟩ := head
    have hmissed := (Moment.mk session now command).count_missed
    rw [issues_cons, List.countP_append, ← ih, ← hmissed, verdicts_cons, List.count_append]

end Command

/-- Only an animation can compile to nothing, and it is then answered with the invalid identifier. -/
theorem Moment.answer_of_hollow (host : Host σ) {moment : Moment σ} {issue : Issue}
    (hissue : moment.issue? = some issue) (hhollow : issue.isHollow = true) :
    moment.answer host = .identifier Identifier.invalid := by
  obtain ⟨issued, _, _, hissuance, hanswer⟩ := Moment.answer_of_issuance host hissue
  obtain ⟨cache, request⟩ := issue
  rw [hanswer]
  cases request with
  | keyframes stops => exact congrArg Answer.identifier (hissuance.identifier_of_hollow hhollow)
  | style | global => exact absurd hhollow Bool.false_ne_true

namespace Command

variable (host : Host σ) (config : Config) (state : σ) {commands : List (Time × Command)}
  {stats : Cache.Stats}

/-- As long as nothing is cleared or destroyed, the identifiers that are counted as issued are those of the misses and those of requests that compile to nothing. A hit and faulty input are not counted. An issue is, whether it is answered with its identifier or, as it compiles to nothing, with the invalid one. -/
theorem identifiersIssued_eq (hkept : ∀ timed ∈ commands, timed.2.discards = false)
    (hstats : (runAll host commands (.start config state)).2.cache.stats = stats) :
    stats.identifiersIssued =
      stats.counters.misses
        + (issues host commands (.start config state)).countP Issue.isHollow ∧
    ∀ moment ∈ moments host commands (.start config state),
      (moment.issue? = none →
        (moment.next host).cache.stats.identifiersIssued =
          moment.session.cache.stats.identifiersIssued) ∧
      ∀ issue, moment.issue? = some issue →
        (moment.next host).cache.stats.identifiersIssued =
          moment.session.cache.stats.identifiersIssued + 1 ∧
        (issue.isHollow = true → moment.answer host = .identifier Identifier.invalid) ∧
        (issue.isHollow = false →
          ∃ delivered, moment.answer host = issue.request.answer ⟨issue.identifier, delivered⟩) := by
  subst hstats
  refine ⟨?total, fun moment _ => ⟨fun hnone => ?same, fun issue hissue => ⟨?more, ?_, ?_⟩⟩⟩
  case total =>
    have hmisses := (balanced_runAll host (.start config state) hkept).misses
    have hissued := issued_runAll host commands (.start config state)
    have hsplit := (issues host commands (.start config state)).length_eq_length_filter_add
      Issue.isHollow
    rw [← List.countP_eq_length_filter, ← List.countP_eq_length_filter,
      ← count_missed host commands (.start config state)] at hsplit
    simp only [Session.start, Cache.ofConfig, Nat.zero_add, tally] at hmisses hissued hsplit
    simp only [Cache.stats, Session.start, Cache.ofConfig]
    omega
  case same =>
    have hnext := issued_next host moment
    rw [hnone] at hnext
    exact hnext
  case more =>
    have hnext := issued_next host moment
    rw [hissue] at hnext
    exact hnext
  · exact moment.answer_of_hollow host hissue
  · exact Moment.answer_of_issue? host hissue

/-- An animation with a stop, but without a declaration, and then a style. -/
def stillThenPaint : List (Time × Command) :=
  [(0, .keyframes [("from".toList, [])]),
    (0, .style [("color".toList, .text "red".toList)] {})]

theorem identifiersIssued_eq_stillThenPaint :
    (runAll Sheet.host stillThenPaint (.start {} [])).2.cache.stats.identifiersIssued = 2 ∧
      (runAll Sheet.host stillThenPaint (.start {} [])).2.cache.stats.counters.misses = 1 ∧
      (issues Sheet.host stillThenPaint (.start {} [])).countP Issue.isHollow = 1 := by
  have hkept : ∀ timed ∈ stillThenPaint, timed.2.discards = false := by decide
  have hmisses : (runAll Sheet.host stillThenPaint (.start {} [])).2.cache.stats.counters.misses =
      1 := by decide +kernel
  have hhollow : (issues Sheet.host stillThenPaint (.start {} [])).countP Issue.isHollow = 1 := by
    decide +kernel
  obtain ⟨hissued, -⟩ := identifiersIssued_eq Sheet.host {} [] hkept rfl
  rw [hmisses, hhollow] at hissued
  exact ⟨hissued, hmisses, hhollow⟩

/-- Only the style gets an identifier, and yet two are counted. -/
theorem identifiersIssued_ne_misses :
    (runAll Sheet.host stillThenPaint (.start {} [])).1 =
        [.identifier Identifier.invalid, .identifier "css-1wi8o32".toList] ∧
      verdicts Sheet.host stillThenPaint (.start {} []) = [.rejected, .missed] ∧
      (runAll Sheet.host stillThenPaint (.start {} [])).2.cache.stats.identifiersIssued ≠
        (verdicts Sheet.host stillThenPaint (.start {} [])).count .missed := by
  decide +kernel

end Command

end Stylesheet
