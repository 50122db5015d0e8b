import Mathlib.Data.Set.Function
import Stylesheet.Proofs.Cache.Run
import Stylesheet.Proofs.Cache.Waiting

/-!
# Sound caches

What the sinks have can be seen in part, in the state of a sheet or in a record of the calls. The memory of deliveries only keeps digests, so the invariant `Sound` ties the two together: a remembered digest is that of a text that is seen, and an entry whose text is neither empty nor seen waits in the queue. As long as no two texts of a run share a digest, a delivery that is skipped is therefore one that was made before.

While a flush works through the items it took out of the queue, these are in flight and still count as waiting.
-/

namespace Stylesheet

variable {σ : Type}

/-! ### The texts of a run -/

/-- The text that a request is compiled to, if it has to be compiled and does not come out hollow. -/
def Cache.freshText? (request : Request) (cache : Cache) : Option Text :=
  if (cache.find? request).isSome
      || request.isHollow cache.config.renderMode (cache.nextIdentifier request) then none
  else some (Session.finishedText cache.config request (cache.nextIdentifier request))

def Moment.text? (moment : Moment σ) : Option Text :=
  moment.command.request?.bind moment.session.cache.freshText?

namespace Command

/-- The rule texts that are compiled during a run. -/
def texts (host : Host σ) (commands : List (Time × Command)) (session : Session σ) : List Text :=
  (moments host commands session).filterMap Moment.text?

theorem texts_cons (host : Host σ) (now : Time) (command : Command)
    (rest : List (Time × Command)) (session : Session σ) :
    texts host ((now, command) :: rest) session =
      (Moment.mk session now command).text?.toList
        ++ texts host rest (command.run host now session).2 := by
  rw [texts, moments, List.filterMap_cons]
  cases (Moment.mk session now command).text? <;> rfl

def installed? : Command → Option SinkId
  | configure update => update.sink
  | _ => none

end Command

/-- A view of the state of a host on which every text shows that one of the sinks accepts; a delivery hides nothing that showed before. -/
structure Host.Shows (host : Host σ) (sinks : Set SinkId) (seen : σ → Set Text) : Prop where
  accepted : ∀ sink ∈ sinks, ∀ text state after,
    host.deliver sink text state = (.ok (), after) → text ∈ seen after
  kept : ∀ sink text state, seen state ⊆ seen (host.deliver sink text state).2

namespace Cache

/-! ### The invariant -/

/-- What a run leads to, given the texts it may handle, the sinks it may install and the texts that are seen. -/
structure Sound (texts : Set Text) (sinks : Set SinkId) (seen : Set Text)
    (inFlight : List Waiting) (cache : Cache) : Prop where
  sink : cache.config.sink ∈ sinks
  distinct : cache.Distinct
  queue : ∀ item ∈ inFlight ++ cache.queue, item.text ∈ texts
  memory : ∀ digest ∈ cache.memory, ∃ text ∈ texts, text ∈ seen ∧ Hash.ofText text = digest
  held : cache.Held (fun text => text = [] ∨ text ∈ seen) inFlight

variable {texts : Set Text} {sinks : Set SinkId} {seen : Set Text} {inFlight : List Waiting}
  {cache : Cache}

theorem Sound.start (config : Config) (hsink : config.sink ∈ sinks) :
    Sound texts sinks seen [] (.ofConfig config) where
  sink := hsink
  distinct := ⟨.nil, .nil⟩
  queue _ hitem := absurd hitem List.not_mem_nil
  memory _ hdigest := absurd hdigest List.not_mem_nil
  held kind _ hstored := by cases kind <;> exact absurd hstored List.not_mem_nil

theorem Sound.mono {more : Set Text} (hmore : seen ⊆ more)
    (hsound : Sound texts sinks seen inFlight cache) : Sound texts sinks more inFlight cache where
  sink := hsound.sink
  distinct := hsound.distinct
  queue := hsound.queue
  memory digest hdigest := by
    obtain ⟨text, htext, hseen, heq⟩ := hsound.memory digest hdigest
    exact ⟨text, htext, hmore hseen, heq⟩
  held := hsound.held.mono fun _ htext => htext.imp_right fun hseen => hmore hseen

/-- A cache with the same sink, stores and queue that remembers less. -/
theorem Sound.congr {other : Cache} (hsound : Sound texts sinks seen inFlight cache)
    (hsink : other.config.sink = cache.config.sink) (hstyles : other.styles = cache.styles)
    (hkeyframes : other.keyframes = cache.keyframes) (hqueue : other.queue = cache.queue)
    (hmemory : ∀ digest ∈ other.memory, digest ∈ cache.memory) :
    Sound texts sinks seen inFlight other where
  sink := hsink ▸ hsound.sink
  distinct := ⟨hstyles ▸ hsound.distinct.styles, hkeyframes ▸ hsound.distinct.keyframes⟩
  queue := hqueue ▸ hsound.queue
  memory digest hdigest := hsound.memory digest (hmemory digest hdigest)
  held kind stored hstored := by
    have hold : stored ∈ cache.store kind := by
      cases kind <;> simp_all [store]
    exact hqueue ▸ hsound.held kind stored hold

theorem Sound.knows (hdigest : Set.InjOn Hash.ofText texts)
    (hsound : Sound texts sinks seen inFlight cache) {text : Text} (htext : text ∈ texts)
    {repeatable : Bool} (hknown : cache.knows text repeatable = true) : text ∈ seen := by
  rw [Cache.knows, Bool.and_eq_true] at hknown
  obtain ⟨known, hin, hseen, heq⟩ := hsound.memory _ (List.contains_iff_mem.mp hknown.2)
  obtain rfl := hdigest hin htext heq
  exact hseen

/-! ### Sweeps and stores -/

theorem Sound.advance (hsound : Sound texts sinks seen inFlight cache) :
    Sound texts sinks seen inFlight cache.advance :=
  hsound.congr rfl rfl rfl rfl fun _ hmem => hmem

theorem Sound.swept (hsound : Sound texts sinks seen inFlight cache) (now : Time) :
    Sound texts sinks seen inFlight (cache.swept now) where
  sink := hsound.sink
  distinct := hsound.distinct.swept now
  queue := hsound.queue
  memory digest hdigest := hsound.memory digest (List.mem_of_mem_filter hdigest)
  held := hsound.held.swept now

theorem Sound.maintained (hsound : Sound texts sinks seen inFlight cache) (now : Time) :
    Sound texts sinks seen inFlight (cache.maintained now) :=
  (hsound.swept now).congr rfl rfl rfl rfl fun _ hmem => hmem

theorem Sound.followedUp (hsound : Sound texts sinks seen inFlight cache) (now : Time) :
    Sound texts sinks seen inFlight (cache.followedUp now) := by
  rw [Cache.followedUp]
  split
  · exact hsound.congr rfl rfl rfl rfl fun _ hmem => hmem
  · exact hsound.maintained now

theorem Sound.modifyStore (hsound : Sound texts sinks seen inFlight cache) {kind : RuleKind}
    {change : Store → Store} {remaining : List Waiting}
    (hremaining : ∀ item ∈ remaining, item ∈ inFlight)
    (hdistinct : (cache.modifyStore kind change).Distinct)
    (hheld : (cache.modifyStore kind change).Held (fun text => text = [] ∨ text ∈ seen)
      remaining) :
    Sound texts sinks seen remaining (cache.modifyStore kind change) := by
  rw [modifyStore_eq] at hdistinct hheld ⊢
  refine ⟨hsound.sink, hdistinct, fun item hitem => ?_, hsound.memory, hheld⟩
  rcases List.mem_append.mp hitem with hflight | hqueue
  · exact hsound.queue item (List.mem_append_left _ (hremaining item hflight))
  · exact hsound.queue item (List.mem_append_right _ hqueue)

theorem Sound.drained (hsound : Sound texts sinks seen [] cache) (mode : InsertionMode)
    (budget : Nat) :
    Sound texts sinks seen (cache.queue.drain mode budget).1
      { cache with queue := (cache.queue.drain mode budget).2 } where
  sink := hsound.sink
  distinct := ⟨hsound.distinct.styles, hsound.distinct.keyframes⟩
  queue item hitem := hsound.queue item (Queue.mem_drain.mpr (List.mem_append.mp hitem))
  memory := hsound.memory
  held := hsound.held.drained

/-- Nothing is claimed of a cache that starts over, so the sinks may lose everything. -/
theorem Sound.cleared (hsound : Sound texts sinks seen [] cache) (more : Set Text) :
    Sound texts sinks more [] cache.cleared where
  sink := hsound.sink
  distinct := ⟨.nil, .nil⟩
  queue _ hitem := absurd hitem List.not_mem_nil
  memory _ hmem := absurd hmem List.not_mem_nil
  held := .cleared

/-- A new sink has received nothing, and nothing is remembered of what it has. -/
theorem Sound.configured (hsound : Sound texts sinks seen [] cache) {update : ConfigUpdate}
    (hsink : ∀ sink ∈ update.sink, sink ∈ sinks) :
    Sound texts sinks seen [] (cache.configured update) where
  sink := by
    show update.sink.getD cache.config.sink ∈ sinks
    cases hupdate : update.sink with
    | none => exact hsound.sink
    | some sink => exact hsink sink hupdate
  distinct := ⟨hsound.distinct.styles, hsound.distinct.keyframes⟩
  queue := hsound.queue
  memory digest hmem := by
    rw [Cache.configured] at hmem
    split at hmem
    · exact absurd hmem List.not_mem_nil
    · exact hsound.memory digest hmem
  held := hsound.held

/-! ### Deliveries -/

section Deliveries

open Session (Handover Issuance Resolved)

variable {host : Host σ} {seen : σ → Set Text} (hshows : host.Shows sinks seen)
  (hdigest : Set.InjOn Hash.ofText texts) {state stateAfter : σ} {after : Cache}
include hshows hdigest

/-- The text of a successful delivery is seen, also when the sink was not called for it. -/
theorem Sound.handover (hsound : Sound texts sinks (seen state) inFlight cache) {text : Text}
    (htext : text ∈ texts) {repeatable delivered : Bool}
    (handover : Handover host text repeatable cache state delivered after stateAfter) :
    Sound texts sinks (seen stateAfter) inFlight after ∧
      (delivered = true → text = [] ∨ text ∈ seen stateAfter) := by
  cases handover with
  | skipped hskip => exact ⟨hsound, fun _ => hskip.imp_right (hsound.knows hdigest htext)⟩
  | accepted _ _ hok =>
    have hnew := hshows.accepted _ hsound.sink _ _ _ hok
    have hkept := hshows.kept cache.config.sink text state
    rw [hok] at hkept
    have hlater := hsound.mono hkept
    refine ⟨?_, fun _ => .inr hnew⟩
    rw [accepted_eq]
    refine ⟨hlater.sink, ⟨hlater.distinct.styles, hlater.distinct.keyframes⟩, hlater.queue,
      fun digest hmem => ?_, hlater.held⟩
    rcases mem_memory_accepted hmem with rfl | hold
    · exact ⟨text, htext, hnew, rfl⟩
    · exact hlater.memory digest hold
  | refused _ _ herror =>
    have hkept := hshows.kept cache.config.sink text state
    rw [herror] at hkept
    exact ⟨(hsound.mono hkept).congr rfl rfl rfl rfl fun _ hmem => hmem,
      fun hfalse => absurd hfalse Bool.false_ne_true⟩

/-- The entry that would be made of an identifier issued with success is held. -/
theorem Sound.issuance (hsound : Sound texts sinks (seen state) [] cache) {request : Request}
    (hmissing : cache.find? request = none)
    (htext : ∀ text ∈ cache.freshText? request, text ∈ texts) {issued : Session.Issued}
    (hissue : Issuance host request cache state issued after stateAfter) (now : Time) :
    Sound texts sinks (seen stateAfter) [] after ∧
      (issued.delivery.succeeded = true →
        Holds (fun text => text = [] ∨ text ∈ seen stateAfter) after.queue request.kind
          (request.fingerprint after.config, issued.entry now)) := by
  have hfresh (hfull : request.isHollow cache.config.renderMode (cache.nextIdentifier request)
      = false) :
      Session.finishedText cache.config request (cache.nextIdentifier request) ∈ texts :=
    htext _ (by simp [freshText?, hmissing, hfull])
  cases hissue with
  | hollow =>
    exact ⟨hsound.congr rfl rfl rfl rfl fun _ hmem => hmem,
      fun hfalse => absurd hfalse Bool.false_ne_true⟩
  | @sent delivered _ _ hfull _ handover =>
    obtain ⟨hafter, hdelivered⟩ :=
      hsound.advance.handover hshows hdigest (hfresh hfull) handover
    refine ⟨hafter, fun hsucceeded => ?_⟩
    cases delivered with
    | true => exact .inl ⟨rfl, hdelivered rfl⟩
    | false => exact absurd hsucceeded Bool.false_ne_true
  | blank => exact ⟨hsound.advance, fun _ => .inl ⟨rfl, .inl rfl⟩⟩
  | queued hfull =>
    refine ⟨⟨hsound.sink, ⟨hsound.distinct.styles, hsound.distinct.keyframes⟩, ?_,
      hsound.memory, hsound.advance.held.enqueue _ _ _⟩, fun _ => ?_⟩
    · intro item hitem
      rw [List.nil_append, enqueue, List.mem_append, List.mem_singleton] at hitem
      rcases hitem with hold | rfl
      · exact hsound.queue item hold
      · exact hfresh hfull
    · exact .inr ⟨_, List.mem_append_right _ (List.mem_singleton.mpr rfl), Iff.rfl, rfl, rfl, rfl⟩

theorem Sound.resolved (hsound : Sound texts sinks (seen state) [] cache) {request : Request}
    {now : Time} (htext : ∀ text ∈ cache.freshText? request, text ∈ texts)
    {resolution : Session.Resolution}
    (hresolved : Resolved host request now cache state resolution after stateAfter) :
    Sound texts sinks (seen stateAfter) [] after := by
  cases hresolved with
  | hit hfound =>
    have htouched := hsound.modifyStore (fun _ hitem => hitem)
      (hsound.distinct.touch request now) (hsound.held.touch request now)
    exact htouched.congr rfl rfl rfl rfl fun _ hmem => hmem
  | @missed issued issuedCache _ hmissing hissue =>
    obtain ⟨hissued, hholds⟩ := hsound.issuance hshows hdigest hmissing htext hissue now
    rw [recorded]
    split
    · exact hissued
    split
    · rename_i hentered
      have hnew : (issuedCache.store request.kind).find?
          (request.fingerprint issuedCache.config) = none := by
        obtain ⟨_, _, _, _, rfl⟩ := hissue.frame
        rw [find?, if_pos hentered.1] at hmissing
        exact hmissing
      have hlater := hissued.modifyStore (fun _ hitem => hitem)
        (hissued.distinct.enter hnew) (hissued.held.enter (hholds hentered.2))
      have hcounted : Sound texts sinks (seen stateAfter) []
          (issuedCache.enter request (issued.entry now)).countMiss :=
        hlater.congr rfl rfl rfl rfl fun _ hmem => hmem
      exact hcounted.followedUp now
    · exact hissued.congr rfl rfl rfl rfl fun _ hmem => hmem

theorem Sound.settle {session : Session σ} {item : Waiting}
    (hsound : Sound texts sinks (seen session.sinks) (item :: inFlight) session.cache) :
    Sound texts sinks (seen (session.settle host item).2.sinks) inFlight
      (session.settle host item).2.cache := by
  obtain ⟨settled, handover, hcache⟩ := session.settle_handover host item
  have htext : item.text ∈ texts := hsound.queue item (List.mem_append_left _ List.mem_cons_self)
  obtain ⟨hsettled, hdelivered⟩ := hsound.handover hshows hdigest htext handover
  rw [hcache]
  exact hsettled.modifyStore (fun _ hitem => List.mem_cons_of_mem _ hitem)
    (hsettled.distinct.concluded item _) (hsettled.held.concluded hsettled.distinct hdelivered)

theorem Sound.flush {session : Session σ}
    (hsound : Sound texts sinks (seen session.sinks) [] session.cache) (mode : InsertionMode)
    (budget : Nat) :
    Sound texts sinks (seen (session.flush host mode budget).2.sinks) []
      (session.flush host mode budget).2.cache :=
  Session.settleAll_keeps
    (fun items session => Sound texts sinks (seen session.sinks) items session.cache)
    (fun _ _ _ hbefore => hbefore.settle hshows hdigest) (hsound.drained mode budget)

end Deliveries

end Cache

/-! ### Moments -/

namespace Command

open Cache (Sound)

variable {host : Host σ} {texts : Set Text} {sinks : Set SinkId} {seen : σ → Set Text}
  (hshows : host.Shows sinks seen) (hdigest : Set.InjOn Hash.ofText texts)
include hshows hdigest

theorem sound_effect {session after : Session σ} {command : Command}
    (hsound : Sound texts sinks (seen session.sinks) [] session.cache)
    (hinstalled : ∀ sink ∈ command.installed?, sink ∈ sinks)
    (heffect : Effect host session command after) :
    Sound texts sinks (seen after.sinks) [] after.cache := by
  cases heffect with
  | idle => exact hsound
  | rejected => exact hsound.congr rfl rfl rfl rfl fun _ hmem => hmem
  | swept time =>
    rw [Session.cache_evictAt, Session.sinks_evictAt]
    exact hsound.swept time
  | maintained time =>
    rw [Session.cache_maintainAt, Session.sinks_maintainAt]
    split
    · exact hsound.maintained time
    · exact hsound
  | flushedDeferred => exact hsound.flush hshows hdigest _ _
  | flushedIdle budget => exact hsound.flush hshows hdigest _ _
  | configured update => exact hsound.configured hinstalled
  | cleared => exact hsound.cleared _
  | destroyed =>
    rw [Session.cache_destroy]
    exact (hsound.cleared _).congr rfl rfl rfl rfl fun _ hmem => hmem

theorem sound_moment {moment : Moment σ} (htext : ∀ text ∈ moment.text?, text ∈ texts)
    (hinstalled : ∀ sink ∈ moment.command.installed?, sink ∈ sinks)
    (hsound : Sound texts sinks (seen moment.session.sinks) [] moment.session.cache) :
    Sound texts sinks (seen (moment.next host).sinks) [] (moment.next host).cache := by
  cases hrequest : moment.command.request? with
  | none =>
    exact sound_effect hshows hdigest hsound hinstalled
      (run_effect host moment.now moment.session hrequest)
  | some request =>
    obtain ⟨resolution, hresolved⟩ := resolved_run host moment.now moment.session hrequest
    refine hsound.resolved hshows hdigest (fun text hfresh => htext text ?_) hresolved
    rw [Moment.text?, hrequest]
    exact hfresh

end Command

end Stylesheet
