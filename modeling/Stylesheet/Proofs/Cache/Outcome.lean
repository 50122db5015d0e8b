import Stylesheet.Cache.Command
import Stylesheet.Proofs.Cache.Store

/-!
# What an operation can do

The notices of a session never decide anything, so an operation is known by what it does to the cache and to the state of the sinks. Where the outcome hangs on the sink or on the cache the possible outcomes are listed once, as the cases of `Handover`, `Issuance` and `Resolved`; everything proved about runs goes by these cases and does not open the operations again.
-/

namespace Stylesheet

variable {σ : Type}

namespace Cache

/-! ### What operations do to the cache alone -/

/-- After the sink accepted a text. -/
def accepted (text : Text) (repeatable : Bool) (cache : Cache) : Cache :=
  if cache.remembers repeatable then cache.countDelivery.remember text else cache.countDelivery

/-- After a run of maintenance. -/
def maintained (now : Time) (cache : Cache) : Cache :=
  { (cache.swept now).countRun with schedule := .ran now }

/-- After the maintenance that follows an insertion. -/
def followedUp (now : Time) (cache : Cache) : Cache :=
  if cache.schedule.withinDebounce now cache.config.sweepDebounce then
    { cache with schedule := cache.schedule.request }
  else cache.maintained now

/-- After a request was issued an identifier: a rejection is no miss, and nothing is entered without caching or after a failure. -/
def recorded (request : Request) (now : Time) (issued : Session.Issued) (cache : Cache) : Cache :=
  if issued.delivery = .rejected then cache
  else if cache.config.caching = true ∧ issued.delivery.succeeded = true then
    (cache.enter request (issued.entry now)).countMiss.followedUp now
  else cache.countMiss

/-- What a store makes of the delivery or refusal of an item of the queue. -/
def Waiting.conclude (item : Waiting) (delivered : Bool) (store : Store) : Store :=
  if delivered then store.markMaterialized item.fingerprint item.identifier
  else store.removeIfIssued item.fingerprint item.identifier

/-- After an item of the queue was delivered or refused. -/
def concluded (item : Waiting) (delivered : Bool) (cache : Cache) : Cache :=
  cache.modifyStore item.kind (item.conclude delivered)

theorem accepted_eq (text : Text) (repeatable : Bool) (cache : Cache) :
    cache.accepted text repeatable =
      { cache with
        memory := (cache.accepted text repeatable).memory
        counters := cache.countDelivery.counters } := by
  rw [accepted]
  split <;> rfl

theorem mem_memory_accepted {text : Text} {repeatable : Bool} {cache : Cache} {digest : UInt64}
    (hmem : digest ∈ (cache.accepted text repeatable).memory) :
    digest = Hash.ofText text ∨ digest ∈ cache.memory := by
  rw [accepted] at hmem
  split at hmem
  · change digest ∈ Memory.add _ _ _ at hmem
    rw [Memory.add] at hmem
    split at hmem
    · exact .inl (List.mem_singleton.mp hmem)
    · exact List.mem_insert_iff.mp hmem
  · exact .inr hmem

/-- The maintenance that follows an insertion leaves the configuration, the queue and the number of identifiers alone. -/
theorem followedUp_frame (now : Time) (cache : Cache) :
    ∃ styles keyframes memory schedule counters, cache.followedUp now =
      { cache with styles, keyframes, memory, schedule, counters } := by
  rw [followedUp]
  split
  · exact ⟨_, _, _, _, _, rfl⟩
  · exact ⟨_, _, _, _, _, rfl⟩

theorem recorded_frame (request : Request) (now : Time) (issued : Session.Issued)
    (cache : Cache) :
    ∃ styles keyframes memory schedule counters, cache.recorded request now issued =
      { cache with styles, keyframes, memory, schedule, counters } := by
  rw [recorded]
  split
  · exact ⟨_, _, _, _, _, rfl⟩
  split
  · obtain ⟨_, _, _, _, _, hframe⟩ :=
      followedUp_frame now (cache.enter request (issued.entry now)).countMiss
    rw [hframe, enter, modifyStore_eq]
    exact ⟨_, _, _, _, _, rfl⟩
  · exact ⟨_, _, _, _, _, rfl⟩

/-- A delivery that succeeds makes an entry if caching is on, and maintenance follows. -/
theorem recorded_of_entered {issued : Session.Issued} {cache : Cache}
    (hentered : cache.config.caching = true ∧ issued.delivery.succeeded = true)
    (request : Request) (now : Time) :
    cache.recorded request now issued =
      (cache.enter request (issued.entry now)).countMiss.followedUp now := by
  have hreal : issued.delivery ≠ .rejected := by
    intro hrejected
    rw [hrejected] at hentered
    exact Bool.false_ne_true hentered.2
  rw [recorded, if_neg hreal, if_pos hentered]

/-- Without an entry there is at most a miss to record. -/
theorem recorded_of_lost {issued : Session.Issued} {cache : Cache}
    (hlost : ¬(cache.config.caching = true ∧ issued.delivery.succeeded = true))
    (request : Request) (now : Time) :
    cache.recorded request now issued = cache ∨
      cache.recorded request now issued = cache.countMiss := by
  rw [recorded, if_neg hlost]
  split
  · exact .inl rfl
  · exact .inr rfl

theorem modifyStore_of_eq_self {kind : RuleKind} {change : Store → Store} {cache : Cache}
    (hself : change (cache.store kind) = cache.store kind) :
    cache.modifyStore kind change = cache := by
  cases kind <;> simp_all [modifyStore, store]

end Cache

namespace Session

variable {host : Host σ} (session : Session σ) (now : Time)

/-! ### Operations without a sink -/

@[simp] theorem cache_modify (change : Cache → Cache) :
    (session.modify change).cache = change session.cache := rfl

@[simp] theorem sinks_modify (change : Cache → Cache) :
    (session.modify change).sinks = session.sinks := rfl

@[simp] theorem cache_tell (notice : Notice) : (session.tell notice).cache = session.cache := rfl

@[simp] theorem sinks_tell (notice : Notice) : (session.tell notice).sinks = session.sinks := rfl

@[simp] theorem cache_clear : session.clear.cache = session.cache.cleared := rfl

@[simp] theorem sinks_clear : session.clear.sinks = session.sinks := rfl

@[simp] theorem cache_evictAt : (session.evictAt now).2.cache = session.cache.swept now := by
  simp only [evictAt, tellEvicted]
  split <;> rfl

@[simp] theorem sinks_evictAt : (session.evictAt now).2.sinks = session.sinks := by
  simp only [evictAt, tellEvicted]
  split <;> rfl

@[simp] theorem cache_maintain :
    (session.maintain now).2.cache = session.cache.maintained now := by
  simp [maintain, Cache.maintained]

@[simp] theorem sinks_maintain : (session.maintain now).2.sinks = session.sinks := by
  simp [maintain]

theorem cache_maintainAt : (session.maintainAt now).2.cache =
    if session.cache.schedule.isDue now session.cache.config.sweepInterval then
      session.cache.maintained now
    else session.cache := by
  rw [maintainAt]
  split
  · exact cache_maintain session now
  · rfl

@[simp] theorem sinks_maintainAt : (session.maintainAt now).2.sinks = session.sinks := by
  rw [maintainAt]
  split
  · exact sinks_maintain session now
  · rfl

@[simp] theorem cache_afterInsertion :
    (session.afterInsertion now).cache = session.cache.followedUp now := by
  simp only [afterInsertion, Cache.followedUp]
  split
  · rfl
  · rw [cache_tell, cache_maintain]
    rfl

@[simp] theorem sinks_afterInsertion : (session.afterInsertion now).sinks = session.sinks := by
  simp only [afterInsertion]
  split
  · rfl
  · rw [sinks_tell, sinks_maintain, sinks_modify]

@[simp] theorem sinks_concludeItem (item : Cache.Waiting) (delivered : Bool) :
    (session.concludeItem item delivered).sinks = session.sinks := by
  rw [concludeItem]
  split
  · rfl
  · split <;> rfl

@[simp] theorem cache_concludeItem (item : Cache.Waiting) (delivered : Bool) :
    (session.concludeItem item delivered).cache = session.cache.concluded item delivered := by
  rw [concludeItem, Cache.concluded]
  cases delivered with
  | true => rfl
  | false =>
    rw [if_neg Bool.false_ne_true]
    split
    · rfl
    · rename_i hother
      refine (Cache.modifyStore_of_eq_self ?_).symm
      rw [Cache.Waiting.conclude, if_neg Bool.false_ne_true, Cache.Store.removeIfIssued,
        if_neg hother]

@[simp] theorem cache_destroy :
    (session.destroy host).cache = session.cache.cleared.destroyed := by
  simp only [destroy, releaseSink, cache_tell, cache_modify, cache_clear]
  split <;> rfl

/-! ### Deliveries -/

/-- How the delivery of a text can go: whether the sink has it now, and what becomes of the cache and of the sinks. -/
inductive Handover (host : Host σ) (text : Text) (repeatable : Bool) (cache : Cache) (sinks : σ) :
    Bool → Cache → σ → Prop
  | skipped (hskip : text = [] ∨ cache.knows text repeatable = true) :
    Handover host text repeatable cache sinks true cache sinks
  | accepted {after : σ} (htext : text ≠ []) (hnew : cache.knows text repeatable = false)
    (hok : host.deliver cache.config.sink text sinks = (.ok (), after)) :
    Handover host text repeatable cache sinks true (cache.accepted text repeatable) after
  | refused {failure : SinkFailure} {after : σ} (htext : text ≠ [])
    (hnew : cache.knows text repeatable = false)
    (herror : host.deliver cache.config.sink text sinks = (.error failure, after)) :
    Handover host text repeatable cache sinks false cache.countFailure after

/-- A delivery changes nothing of the cache but the memory and the counters. -/
theorem Handover.frame {text : Text} {repeatable delivered : Bool} {cache after : Cache}
    {sinks sinksAfter : σ}
    (handover : Handover host text repeatable cache sinks delivered after sinksAfter) :
    ∃ memory counters, after = { cache with memory, counters } := by
  cases handover with
  | skipped => exact ⟨_, _, rfl⟩
  | accepted => exact ⟨_, _, Cache.accepted_eq _ _ _⟩
  | refused => exact ⟨_, _, rfl⟩

theorem cache_remember (text : Text) (repeatable : Bool) :
    (session.remember text repeatable).cache =
      if session.cache.remembers repeatable then session.cache.remember text
      else session.cache := by
  simp only [remember]
  split
  · split <;> rfl
  · rfl

theorem sinks_remember (text : Text) (repeatable : Bool) :
    (session.remember text repeatable).sinks = session.sinks := by
  simp only [remember]
  split
  · split <;> rfl
  · rfl

theorem deliver_handover (host : Host σ) (text : Text) (repeatable : Bool) :
    Handover host text repeatable session.cache session.sinks
      (session.deliver host text repeatable).1 (session.deliver host text repeatable).2.cache
      (session.deliver host text repeatable).2.sinks := by
  by_cases htext : text.isEmpty
  · rw [deliver, if_pos htext]
    exact .skipped (.inl (List.isEmpty_iff.mp htext))
  by_cases hknown : session.cache.knows text repeatable
  · rw [deliver, if_neg htext, if_pos hknown]
    exact .skipped (.inr hknown)
  have hne : text ≠ [] := fun heq => htext (List.isEmpty_iff.mpr heq)
  have hnew : session.cache.knows text repeatable = false := Bool.eq_false_iff.mpr hknown
  rw [deliver, if_neg htext, if_neg hknown]
  rcases hcall : host.deliver session.cache.config.sink text session.sinks with ⟨result, after⟩
  cases result with
  | ok =>
    simp only [cache_remember, sinks_remember]
    exact .accepted hne hnew hcall
  | error failure => exact .refused hne hnew hcall

/-! ### Issuing -/

/-- How a request can be issued an identifier: what comes of it, and what becomes of the cache and of the sinks. -/
inductive Issuance (host : Host σ) (request : Request) (cache : Cache) (sinks : σ) :
    Issued → Cache → σ → Prop
  | hollow
    (hhollow : request.isHollow cache.config.renderMode (cache.nextIdentifier request) = true) :
    Issuance host request cache sinks ⟨Identifier.invalid, [], .rejected⟩
      cache.advance.countRejection sinks
  | sent {delivered : Bool} {after : Cache} {sinksAfter : σ}
    (hfull : request.isHollow cache.config.renderMode (cache.nextIdentifier request) = false)
    (hsync : cache.config.insertion = .sync)
    (handover : Handover host
      (finishedText cache.config request (cache.nextIdentifier request))
      (request.isRepeatable cache.config) cache.advance sinks delivered after sinksAfter) :
    Issuance host request cache sinks
      ⟨cache.nextIdentifier request,
        finishedText cache.config request (cache.nextIdentifier request),
        if delivered then .materialized else .failed⟩
      after sinksAfter
  | blank
    (hfull : request.isHollow cache.config.renderMode (cache.nextIdentifier request) = false)
    (hlater : cache.config.insertion ≠ .sync)
    (hblank : finishedText cache.config request (cache.nextIdentifier request) = []) :
    Issuance host request cache sinks ⟨cache.nextIdentifier request, [], .materialized⟩
      cache.advance sinks
  | queued
    (hfull : request.isHollow cache.config.renderMode (cache.nextIdentifier request) = false)
    (hlater : cache.config.insertion ≠ .sync)
    (htext : finishedText cache.config request (cache.nextIdentifier request) ≠ []) :
    Issuance host request cache sinks
      ⟨cache.nextIdentifier request,
        finishedText cache.config request (cache.nextIdentifier request), .queued⟩
      (cache.advance.enqueue request (cache.nextIdentifier request)
        (finishedText cache.config request (cache.nextIdentifier request)))
      sinks

theorem issue_issuance (host : Host σ) (request : Request) :
    Issuance host request session.cache session.sinks (session.issue host request).1
      (session.issue host request).2.cache (session.issue host request).2.sinks := by
  by_cases hhollow : request.isHollow session.cache.config.renderMode
      (session.cache.nextIdentifier request)
  · simp only [issue, if_pos hhollow]
    exact .hollow hhollow
  have hfull := Bool.eq_false_iff.mpr hhollow
  simp only [issue, if_neg hhollow, send, sendNow]
  split
  · rename_i hsync
    exact .sent hfull hsync (deliver_handover ((session.beginIssue request).tell _) host _ _)
  · rename_i hlater
    split
    · rename_i hblank
      rw [List.isEmpty_iff.mp hblank]
      exact .blank hfull hlater (List.isEmpty_iff.mp hblank)
    · rename_i htext
      exact .queued hfull hlater fun heq => htext (List.isEmpty_iff.mpr heq)

/-- Issuing changes nothing of the cache but the queue, the memory, the counters and the number of identifiers. -/
theorem Issuance.frame {request : Request} {issued : Issued} {cache after : Cache}
    {sinks sinksAfter : σ}
    (hissue : Issuance host request cache sinks issued after sinksAfter) :
    ∃ queue memory counters number,
      after = { cache with queue, memory, counters, issued := number } := by
  cases hissue with
  | hollow => exact ⟨_, _, _, _, rfl⟩
  | sent _ _ handover =>
    obtain ⟨memory, counters, rfl⟩ := handover.frame
    exact ⟨_, _, _, _, rfl⟩
  | blank => exact ⟨_, _, _, _, rfl⟩
  | queued => exact ⟨_, _, _, _, rfl⟩

/-! ### Resolving -/

/-- How a request can be resolved. -/
inductive Resolved (host : Host σ) (request : Request) (now : Time) (cache : Cache) (sinks : σ) :
    Resolution → Cache → σ → Prop
  | hit {entry : Cache.Entry} (hfound : cache.find? request = some entry) :
    Resolved host request now cache sinks ⟨entry.identifier, true⟩
      (cache.touch request now).countHit sinks
  | missed {issued : Issued} {after : Cache} {sinksAfter : σ}
    (hmissing : cache.find? request = none)
    (hissue : Issuance host request cache sinks issued after sinksAfter) :
    Resolved host request now cache sinks issued.resolution (after.recorded request now issued)
      sinksAfter

theorem cache_recordMiss (request : Request) (issued : Issued)
    (hcaching : session.cache.config.caching = true) :
    (session.recordMiss request now issued).cache = session.cache.recorded request now issued := by
  cases hdelivery : issued.delivery <;>
    simp [recordMiss, Cache.recorded, hdelivery, hcaching, Delivery.succeeded]

theorem sinks_recordMiss (request : Request) (issued : Issued) :
    (session.recordMiss request now issued).sinks = session.sinks := by
  rw [recordMiss]
  split
  · rfl
  · rfl
  all_goals rw [sinks_afterInsertion, sinks_modify]

/-- A request without an entry leads to what is recorded of the identifier it is issued; without caching that is at most a miss. -/
theorem resolve_of_missing (host : Host σ) {request : Request}
    (hmissing : session.cache.find? request = none) :
    (session.resolve host request now).1 = (session.issue host request).1.resolution ∧
      (session.resolve host request now).2.cache =
        (session.issue host request).2.cache.recorded request now
          (session.issue host request).1 ∧
      (session.resolve host request now).2.sinks = (session.issue host request).2.sinks := by
  have hconfig : (session.issue host request).2.cache.config = session.cache.config := by
    obtain ⟨_, _, _, _, hframe⟩ := (issue_issuance session host request).frame
    rw [hframe]
  by_cases hcaching : session.cache.config.caching
  · simp only [resolve, hmissing, if_pos hcaching, miss, sinks_recordMiss,
      cache_recordMiss _ _ _ _ (hconfig ▸ hcaching), and_self]
  · have hoff : ¬((session.issue host request).2.cache.config.caching = true ∧
        (session.issue host request).1.delivery.succeeded = true) :=
      fun hboth => hcaching (hconfig ▸ hboth.1)
    simp only [resolve, hmissing, if_neg hcaching, bypass, true_and]
    split
    · rename_i hrejected
      exact ⟨(if_pos hrejected).symm, rfl⟩
    · rename_i hreal
      rw [Cache.recorded, if_neg hreal, if_neg hoff]
      exact ⟨rfl, rfl⟩

theorem resolve_resolved (host : Host σ) (request : Request) :
    Resolved host request now session.cache session.sinks (session.resolve host request now).1
      (session.resolve host request now).2.cache (session.resolve host request now).2.sinks := by
  cases hfound : session.cache.find? request with
  | some entry =>
    rw [resolve, hfound]
    exact .hit hfound
  | none =>
    obtain ⟨hanswer, hcache, hsinks⟩ := resolve_of_missing session now host hfound
    rw [hanswer, hcache, hsinks]
    exact .missed hfound (issue_issuance session host request)

section Resolved

variable {request : Request} {cache after : Cache} {sinks sinksAfter : σ} {now : Time}
  {resolution : Resolution}

/-- A request with an entry only touches the entry. -/
theorem Resolved.of_hit {entry : Cache.Entry}
    (hresolved : Resolved host request now cache sinks resolution after sinksAfter)
    (hfound : cache.find? request = some entry) : after = (cache.touch request now).countHit := by
  cases hresolved with
  | hit => rfl
  | missed hmissing => exact absurd (hmissing.symm.trans hfound) nofun

/-- A request without an entry is issued an identifier. -/
theorem Resolved.of_miss
    (hresolved : Resolved host request now cache sinks resolution after sinksAfter)
    (hmissing : cache.find? request = none) :
    ∃ issued issuedCache, Issuance host request cache sinks issued issuedCache sinksAfter ∧
      after = issuedCache.recorded request now issued := by
  cases hresolved with
  | hit hfound => exact absurd (hmissing.symm.trans hfound) nofun
  | missed _ hissue => exact ⟨_, _, hissue, rfl⟩

end Resolved

/-! ### Flushing -/

theorem settle_handover (host : Host σ) (item : Cache.Waiting) :
    ∃ after, Handover host item.text item.repeatable session.cache session.sinks
        (session.settle host item).1 after (session.settle host item).2.sinks ∧
      (session.settle host item).2.cache = after.concluded item (session.settle host item).1 := by
  refine ⟨(session.deliver host item.text item.repeatable).2.cache, ?_, ?_⟩
  · simp only [settle, sinks_concludeItem]
    exact deliver_handover session host item.text item.repeatable
  · simp only [settle, cache_concludeItem]

/-- Settling an item changes nothing of the cache but the stores, the memory and the counters. -/
theorem settle_frame (host : Host σ) (item : Cache.Waiting) :
    ∃ styles keyframes memory counters, (session.settle host item).2.cache =
      { session.cache with styles, keyframes, memory, counters } := by
  obtain ⟨settled, handover, hcache⟩ := session.settle_handover host item
  obtain ⟨memory, counters, rfl⟩ := handover.frame
  rw [hcache, Cache.concluded, Cache.modifyStore_eq]
  exact ⟨_, _, _, _, rfl⟩

/-- What every settlement keeps holds once all items are settled. -/
theorem settleAll_keeps (Holds : List Cache.Waiting → Session σ → Prop)
    (hstep : ∀ item rest session, Holds (item :: rest) session →
      Holds rest (session.settle host item).2)
    {items : List Cache.Waiting} {session : Session σ} (hstart : Holds items session) :
    Holds [] (session.settleAll host items).2 := by
  induction items generalizing session with
  | nil => exact hstart
  | cons item rest ih => exact ih (hstep item rest session hstart)

/-- A flush takes its items from the queue, and apart from that it is no more than settling them. -/
theorem flush_frame (host : Host σ) (session : Session σ) (mode : InsertionMode) (budget : Nat) :
    ∃ styles keyframes memory counters, (session.flush host mode budget).2.cache =
      { session.cache with
        queue := (session.cache.queue.drain mode budget).2
        styles, keyframes, memory, counters } := by
  refine settleAll_keeps (fun _ later => ∃ styles keyframes memory counters, later.cache =
    { session.cache with
      queue := (session.cache.queue.drain mode budget).2
      styles, keyframes, memory, counters }) (fun item _ later hlater => ?_) ⟨_, _, _, _, rfl⟩
  obtain ⟨_, _, _, _, hpast⟩ := hlater
  obtain ⟨_, _, _, _, hsettled⟩ := later.settle_frame host item
  rw [hsettled, hpast]
  exact ⟨_, _, _, _, rfl⟩

end Session

namespace Cache.Queue

variable {mode : InsertionMode} {budget : Nat} {queue : Queue} {item : Waiting}

/-- Draining splits the queue. -/
theorem mem_drain :
    item ∈ queue ↔ item ∈ (queue.drain mode budget).1 ∨ item ∈ (queue.drain mode budget).2 := by
  induction queue generalizing budget with
  | nil => cases budget <;> simp [drain]
  | cons head rest ih =>
    cases budget with
    | zero => simp [drain]
    | succ budget =>
      by_cases hmode : head.mode = mode
      · simp [drain, hmode, @ih budget, or_assoc]
      · simp [drain, hmode, @ih (budget + 1), or_left_comm]

end Cache.Queue

end Stylesheet
