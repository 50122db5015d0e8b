import Stylesheet.Proofs.Cache.Outcome
import Stylesheet.Proofs.Cache.Run
import Stylesheet.Proofs.Cache.Store

/-!
# Where entries come from

An entry is made by a request that was not answered from the stores, and from then on its fingerprint, identifier and text stay what they are, whatever happens to the cache. So does its use, unless a request is answered from it: `Preserves` says that nothing was made and nothing was used between two states of a cache, and every operation has this property but the resolution of a request. `Descends` leaves out the use, which is all that a hit changes. The configuration is as stable: nothing but an update changes it.
-/

namespace Stylesheet

variable {σ : Type}

namespace Cache

variable {before between after cache : Cache}

/-- Two entries under one fingerprint, with the same identifier and text. -/
structure Continues (old stored : Fingerprint × Entry) : Prop where
  fingerprint : old.1 = stored.1
  identifier : old.2.identifier = stored.2.identifier
  text : old.2.text = stored.2.text

/-- Every entry of the later cache continues one of the earlier cache. -/
def Descends (before after : Cache) : Prop :=
  ∀ kind, ∀ stored ∈ after.store kind, ∃ old ∈ before.store kind, Continues old stored

/-- The later entry is the earlier one, except that it may have been marked as materialized since. -/
structure Remains (old stored : Fingerprint × Entry) : Prop where
  fingerprint : old.1 = stored.1
  entry : stored.2 = { old.2 with materialized := stored.2.materialized }
  marked : old.2.materialized = true → stored.2.materialized = true

theorem Remains.refl (stored : Fingerprint × Entry) : Remains stored stored := ⟨rfl, rfl, id⟩

theorem Remains.trans {older old stored : Fingerprint × Entry} (hearlier : Remains older old)
    (hlater : Remains old stored) : Remains older stored where
  fingerprint := hearlier.fingerprint.trans hlater.fingerprint
  entry := by rw [hlater.entry, hearlier.entry]
  marked := hlater.marked ∘ hearlier.marked

theorem Remains.continues {old stored : Fingerprint × Entry} (hremains : Remains old stored) :
    Continues old stored where
  fingerprint := hremains.fingerprint
  identifier := by rw [hremains.entry]
  text := by rw [hremains.entry]

/-- Every entry of the later cache remains from the earlier cache. -/
def Preserves (before after : Cache) : Prop :=
  ∀ kind, ∀ stored ∈ after.store kind, ∃ old ∈ before.store kind, Remains old stored

namespace Preserves

theorem trans (hfirst : before.Preserves between) (hsecond : between.Preserves after) :
    before.Preserves after := by
  intro kind stored hstored
  obtain ⟨old, hold, hlater⟩ := hsecond kind stored hstored
  obtain ⟨older, holder, hearlier⟩ := hfirst kind old hold
  exact ⟨older, holder, hearlier.trans hlater⟩

theorem descends (hpreserves : before.Preserves after) : before.Descends after := by
  intro kind stored hstored
  obtain ⟨old, hold, hremains⟩ := hpreserves kind stored hstored
  exact ⟨old, hold, hremains.continues⟩

theorem of_stores_eq (hstyles : after.styles = before.styles)
    (hkeyframes : after.keyframes = before.keyframes) : before.Preserves after := by
  intro kind stored hstored
  rw [store_congr hstyles hkeyframes] at hstored
  exact ⟨stored, hstored, .refl stored⟩

theorem concluded (cache : Cache) (item : Waiting) (delivered : Bool) :
    cache.Preserves (cache.concluded item delivered) := by
  intro kind stored hstored
  rw [Cache.concluded, store_modifyStore] at hstored
  split at hstored
  · cases delivered with
    | true =>
      rw [Waiting.conclude, if_pos rfl, Store.markMaterialized] at hstored
      split at hstored
      · obtain ⟨old, hold, rfl⟩ := Store.mem_modify.mp hstored
        refine ⟨old, hold, ?_⟩
        split
        · exact ⟨rfl, rfl, fun _ => rfl⟩
        · exact .refl old
      · exact ⟨stored, hstored, .refl stored⟩
    | false =>
      rw [Waiting.conclude, if_neg Bool.false_ne_true, Store.removeIfIssued] at hstored
      split at hstored
      · exact ⟨stored, List.mem_of_mem_filter hstored, .refl stored⟩
      · exact ⟨stored, hstored, .refl stored⟩
  · exact ⟨stored, hstored, .refl stored⟩

theorem swept (cache : Cache) (now : Time) : cache.Preserves (cache.swept now) :=
  fun _ stored hstored => ⟨stored, mem_store_of_mem_swept hstored, .refl stored⟩

theorem maintained (cache : Cache) (now : Time) : cache.Preserves (cache.maintained now) :=
  (swept cache now).trans (.of_stores_eq rfl rfl)

theorem followedUp (cache : Cache) (now : Time) : cache.Preserves (cache.followedUp now) := by
  rw [Cache.followedUp]
  split
  · exact .of_stores_eq rfl rfl
  · exact .maintained cache now

theorem cleared (cache : Cache) : cache.Preserves cache.cleared := by
  intro kind stored hstored
  cases kind <;> exact absurd hstored List.not_mem_nil

theorem settle (host : Host σ) (session : Session σ) (item : Waiting) :
    session.cache.Preserves (session.settle host item).2.cache := by
  obtain ⟨settled, handover, hcache⟩ := session.settle_handover host item
  obtain ⟨memory, counters, rfl⟩ := handover.frame
  rw [hcache]
  exact (of_stores_eq rfl rfl).trans (.concluded _ item _)

theorem flush (host : Host σ) (session : Session σ) (mode : InsertionMode) (budget : Nat) :
    session.cache.Preserves (session.flush host mode budget).2.cache :=
  Session.settleAll_keeps (fun _ later => session.cache.Preserves later.cache)
    (fun item _ later hpreserves => hpreserves.trans (.settle host later item))
    (.of_stores_eq rfl rfl)

end Preserves

theorem mem_store_touch {request : Request} {now : Time} {kind : RuleKind}
    {stored : Fingerprint × Entry} (hstored : stored ∈ (cache.touch request now).store kind) :
    ∃ old ∈ cache.store kind, stored =
      if request.kind.SharesStore kind ∧ old.1 = request.fingerprint cache.config then
        (old.1, old.2.touch now) else old := by
  rw [touch, store_modifyStore] at hstored
  by_cases hshares : request.kind.SharesStore kind
  · rw [if_pos hshares] at hstored
    obtain ⟨old, hold, rfl⟩ := Store.mem_modify.mp hstored
    exact ⟨old, hold, by simp only [hshares, true_and]⟩
  · rw [if_neg hshares] at hstored
    exact ⟨stored, hstored, (if_neg fun hboth => hshares hboth.1).symm⟩

theorem mem_store_enter {request : Request} {entry : Entry} {kind : RuleKind}
    {stored : Fingerprint × Entry} (hstored : stored ∈ (cache.enter request entry).store kind) :
    stored ∈ cache.store kind ∨
      (request.kind.SharesStore kind ∧ stored = (request.fingerprint cache.config, entry)) := by
  rw [enter, store_modifyStore] at hstored
  split at hstored
  · rename_i hshares
    exact (Store.mem_add.mp hstored).imp_right fun hnew => ⟨hshares, hnew⟩
  · exact .inl hstored

/-! ### The configuration -/

theorem config_recorded (request : Request) (now : Time) (issued : Session.Issued) :
    (cache.recorded request now issued).config = cache.config := by
  obtain ⟨_, _, _, _, _, hframe⟩ := recorded_frame request now issued cache
  rw [hframe]

theorem config_settle (host : Host σ) (session : Session σ) (item : Waiting) :
    (session.settle host item).2.cache.config = session.cache.config := by
  obtain ⟨_, _, _, _, hframe⟩ := session.settle_frame host item
  rw [hframe]

theorem config_flush (host : Host σ) (session : Session σ) (mode : InsertionMode)
    (budget : Nat) : (session.flush host mode budget).2.cache.config = session.cache.config := by
  obtain ⟨_, _, _, _, hframe⟩ := session.flush_frame host mode budget
  rw [hframe]

end Cache

/-! ### What a request makes -/

namespace Session

open Cache (Continues Preserves Remains)

variable {host : Host σ} {request : Request} {cache after : Cache} {sinks sinksAfter : σ}

theorem Issuance.preserves {issued : Issued}
    (hissue : Issuance host request cache sinks issued after sinksAfter) :
    cache.Preserves after := by
  obtain ⟨_, _, _, _, rfl⟩ := hissue.frame
  exact .of_stores_eq rfl rfl

theorem Issuance.config {issued : Issued}
    (hissue : Issuance host request cache sinks issued after sinksAfter) :
    after.config = cache.config := by
  obtain ⟨_, _, _, _, rfl⟩ := hissue.frame
  rfl

/-- What is issued with success is the next identifier and the text compiled for it. -/
theorem Issuance.issued_eq {issued : Issued}
    (hissue : Issuance host request cache sinks issued after sinksAfter)
    (hsucceeded : issued.delivery.succeeded = true) :
    issued.identifier = cache.nextIdentifier request ∧
      issued.text = finishedText cache.config request issued.identifier := by
  cases hissue with
  | hollow => exact absurd hsucceeded Bool.false_ne_true
  | sent => exact ⟨rfl, rfl⟩
  | blank _ _ hblank => exact ⟨rfl, hblank.symm⟩
  | queued => exact ⟨rfl, rfl⟩

variable {now : Time} {resolution : Resolution}

theorem Resolved.config
    (hresolved : Resolved host request now cache sinks resolution after sinksAfter) :
    after.config = cache.config := by
  cases hresolved with
  | hit => exact Cache.config_modifyStore _ cache
  | missed _ hissue => rw [Cache.config_recorded, hissue.config]

theorem Resolved.store_of_hit {entry : Cache.Entry}
    (hresolved : Resolved host request now cache sinks resolution after sinksAfter)
    (hfound : cache.find? request = some entry) (kind : RuleKind) :
    after.store kind = (cache.touch request now).store kind := by
  rw [hresolved.of_hit hfound]
  exact Cache.store_congr rfl rfl kind

/-- What a miss leads to is an entry that remains from before, or the one made for the request. -/
theorem Resolved.entries_of_miss
    (hresolved : Resolved host request now cache sinks resolution after sinksAfter)
    (hmissing : cache.find? request = none) {kind : RuleKind}
    {stored : Fingerprint × Cache.Entry} (hstored : stored ∈ after.store kind) :
    (∃ old ∈ cache.store kind, Remains old stored) ∨
      (request.kind.SharesStore kind ∧ cache.config.caching = true ∧
        ∃ flag, Remains (request.fingerprint cache.config,
          .create (cache.nextIdentifier request)
            (finishedText cache.config request (cache.nextIdentifier request)) now flag) stored) := by
  obtain ⟨issued, issuedCache, hissue, rfl⟩ := hresolved.of_miss hmissing
  have hissued := hissue.preserves
  rw [Cache.recorded] at hstored
  split at hstored
  · exact .inl (hissued kind stored hstored)
  split at hstored
  · rename_i hentered
    obtain ⟨hidentifier, htext⟩ := hissue.issued_eq hentered.2
    obtain ⟨old, hold, hsame⟩ := Preserves.followedUp _ now kind stored hstored
    have hentry : old ∈ (issuedCache.enter request (issued.entry now)).store kind := by
      cases kind <;> exact hold
    rcases Cache.mem_store_enter hentry with hbefore | ⟨hshares, rfl⟩
    · obtain ⟨older, holder, hearlier⟩ := hissued kind old hbefore
      exact .inl ⟨older, holder, hearlier.trans hsame⟩
    · refine .inr ⟨hshares, hissue.config ▸ hentered.1, issued.delivery = .materialized, ?_⟩
      rw [Issued.entry, htext, hidentifier, hissue.config] at hsame
      exact hsame
  · exact .inl (hissued kind stored hstored)

/-- What a request leads to is an entry that was there before or the one made for the request. -/
theorem Resolved.entries
    (hresolved : Resolved host request now cache sinks resolution after sinksAfter)
    {kind : RuleKind} {stored : Fingerprint × Cache.Entry} (hstored : stored ∈ after.store kind) :
    (∃ old ∈ cache.store kind, Continues old stored) ∨
      (request.kind.SharesStore kind ∧ stored.1 = request.fingerprint cache.config ∧
        stored.2.identifier = cache.nextIdentifier request ∧
        stored.2.text = finishedText cache.config request stored.2.identifier ∧
        cache.config.caching = true ∧ cache.find? request = none) := by
  cases hfound : cache.find? request with
  | some entry =>
    rw [hresolved.store_of_hit hfound] at hstored
    obtain ⟨old, hold, rfl⟩ := Cache.mem_store_touch hstored
    refine .inl ⟨old, hold, ?_⟩
    split <;> exact ⟨rfl, rfl, rfl⟩
  | none =>
    rcases hresolved.entries_of_miss hfound hstored with
      ⟨old, hold, hremains⟩ | ⟨hshares, hcaching, flag, hmade⟩
    · exact .inl ⟨old, hold, hremains.continues⟩
    · have hsame := hmade.continues
      exact .inr ⟨hshares, hsame.fingerprint.symm, hsame.identifier.symm,
        by rw [← hsame.text, ← hsame.identifier]; rfl, hcaching, rfl⟩

end Session

/-! ### What a command makes -/

namespace Command

open Cache (Preserves)

variable {host : Host σ} {session after : Session σ} {command : Command}

theorem effect_preserves (heffect : Effect host session command after) :
    session.cache.Preserves after.cache := by
  cases heffect with
  | idle => exact .of_stores_eq rfl rfl
  | rejected => exact .of_stores_eq rfl rfl
  | swept time =>
    rw [Session.cache_evictAt]
    exact .swept _ time
  | maintained time =>
    rw [Session.cache_maintainAt]
    split
    · exact .maintained _ time
    · exact .of_stores_eq rfl rfl
  | flushedDeferred => exact .flush host session _ _
  | flushedIdle budget => exact .flush host session _ _
  | configured update => exact .of_stores_eq rfl rfl
  | cleared => exact .cleared _
  | destroyed =>
    rw [Session.cache_destroy]
    exact (Preserves.cleared _).trans (.of_stores_eq rfl rfl)

theorem effect_config (heffect : Effect host session command after) :
    after.cache.config = session.cache.config ∨
      ∃ update, command = .configure update ∧
        after.cache.config = session.cache.config.apply update := by
  cases heffect with
  | idle | rejected | cleared => exact .inl rfl
  | swept time =>
    rw [Session.cache_evictAt]
    exact .inl rfl
  | maintained time =>
    rw [Session.cache_maintainAt]
    split <;> exact .inl rfl
  | flushedDeferred => exact .inl (Cache.config_flush host session _ _)
  | flushedIdle budget => exact .inl (Cache.config_flush host session _ _)
  | configured update => exact .inr ⟨update, rfl, rfl⟩
  | destroyed =>
    rw [Session.cache_destroy]
    exact .inl rfl

/-- Nothing but an update changes the configuration. -/
theorem config_run (host : Host σ) (now : Time) (session : Session σ) (command : Command) :
    (command.run host now session).2.cache.config = session.cache.config ∨
      ∃ update, command = .configure update ∧
        (command.run host now session).2.cache.config = session.cache.config.apply update := by
  cases hrequest : command.request? with
  | none => exact effect_config (run_effect host now session hrequest)
  | some request =>
    obtain ⟨resolution, hresolved⟩ := resolved_run host now session hrequest
    exact .inl hresolved.config

end Command

end Stylesheet
