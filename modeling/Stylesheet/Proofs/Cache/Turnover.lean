import Stylesheet.Proofs.Cache.Descent
import Stylesheet.Proofs.Cache.Waiting

/-!
# How the stores turn over

Whatever a command does to the stores is made of few steps: an entry is touched, made, marked or dropped, the stores are swept, or they are emptied. `Turnover` lists them once, so what is to hold of the stores throughout a run is proved by one case for each of them. Two facts are proved that way: the fingerprints of a store stay distinct, and no entry was used later than the clock has shown so far.
-/

namespace Stylesheet

variable {σ : Type}

namespace Cache

/-- A way from one state of the stores to another, on which entries are made and used at one time. -/
inductive Turnover (now : Time) : Cache → Cache → Prop
  | quiet {cache after : Cache} (hstyles : after.styles = cache.styles)
    (hkeyframes : after.keyframes = cache.keyframes) : Turnover now cache after
  | touched (cache : Cache) (request : Request) : Turnover now cache (cache.touch request now)
  | entered {cache : Cache} {request : Request} {entry : Entry}
    (hnew : (cache.store request.kind).find? (request.fingerprint cache.config) = none)
    (hused : entry.lastUsedAt = now) : Turnover now cache (cache.enter request entry)
  | swept (cache : Cache) (time : Time) : Turnover now cache (cache.swept time)
  | concluded (cache : Cache) (item : Waiting) (delivered : Bool) :
    Turnover now cache (cache.concluded item delivered)
  | cleared (cache : Cache) : Turnover now cache cache.cleared
  | trans {cache between after : Cache} (hfirst : Turnover now cache between)
    (hsecond : Turnover now between after) : Turnover now cache after

/-! ### Steps as operations take them -/

namespace Turnover

variable {cache after : Cache} {now : Time}

theorem maintained (cache : Cache) (time : Time) : Turnover now cache (cache.maintained time) :=
  (swept cache time).trans (.quiet rfl rfl)

theorem followedUp (cache : Cache) : Turnover now cache (cache.followedUp now) := by
  rw [Cache.followedUp]
  split
  · exact .quiet rfl rfl
  · exact .maintained cache now

theorem handover {host : Host σ} {text : Text} {repeatable delivered : Bool}
    {sinks sinksAfter : σ}
    (handover : Session.Handover host text repeatable cache sinks delivered after sinksAfter) :
    Turnover now cache after := by
  obtain ⟨memory, counters, rfl⟩ := handover.frame
  exact .quiet rfl rfl

theorem issuance {host : Host σ} {request : Request} {issued : Session.Issued}
    {sinks sinksAfter : σ}
    (hissue : Session.Issuance host request cache sinks issued after sinksAfter) :
    Turnover now cache after := by
  obtain ⟨queue, memory, counters, number, rfl⟩ := hissue.frame
  exact .quiet rfl rfl

theorem recorded {request : Request} (issued : Session.Issued)
    (hmissing : cache.find? request = none) :
    Turnover now cache (cache.recorded request now issued) := by
  rw [Cache.recorded]
  split
  · exact .quiet rfl rfl
  split
  · rename_i hentered
    rw [find?, if_pos hentered.1] at hmissing
    have hnew : Turnover now cache (cache.enter request (issued.entry now)) :=
      .entered hmissing rfl
    have hcounted : Turnover now cache (cache.enter request (issued.entry now)).countMiss :=
      hnew.trans (.quiet rfl rfl)
    exact hcounted.trans (.followedUp _)
  · exact .quiet rfl rfl

end Turnover

end Cache

namespace Session

open Cache (Turnover)

variable {host : Host σ} {request : Request} {cache after : Cache} {sinks sinksAfter : σ}
  {now : Time}

theorem Issuance.find?_eq {issued : Issued}
    (hissue : Issuance host request cache sinks issued after sinksAfter) (other : Request) :
    after.find? other = cache.find? other := by
  obtain ⟨_, _, _, _, rfl⟩ := hissue.frame
  cases hkind : other.kind <;> simp only [Cache.find?, Cache.store, hkind]

theorem Resolved.turnover {resolution : Resolution}
    (hresolved : Resolved host request now cache sinks resolution after sinksAfter) :
    Turnover now cache after := by
  cases hresolved with
  | hit => exact (Turnover.touched cache request).trans (.quiet rfl rfl)
  | missed hmissing hissue =>
    exact (Turnover.issuance hissue).trans
      (.recorded _ ((hissue.find?_eq request).trans hmissing))

theorem turnover_settle (session : Session σ) (item : Cache.Waiting) :
    Turnover now session.cache (session.settle host item).2.cache := by
  obtain ⟨settled, handover, hcache⟩ := session.settle_handover host item
  rw [hcache]
  exact (Turnover.handover handover).trans (.concluded settled item _)

theorem turnover_flush (session : Session σ) (mode : InsertionMode) (budget : Nat) :
    Turnover now session.cache (session.flush host mode budget).2.cache :=
  settleAll_keeps (fun _ later => Turnover now session.cache later.cache)
    (fun item _ later hpast => hpast.trans (later.turnover_settle item)) (.quiet rfl rfl)

end Session

namespace Command

open Cache (Turnover)

variable (host : Host σ)

theorem turnover_run (now : Time) (session : Session σ) (command : Command) :
    Turnover now session.cache (command.run host now session).2.cache := by
  cases hrequest : command.request? with
  | some request =>
    obtain ⟨resolution, hresolved⟩ := resolved_run host now session hrequest
    exact hresolved.turnover
  | none =>
    have heffect := run_effect host now session hrequest
    generalize (command.run host now session).2 = after at heffect ⊢
    cases heffect with
    | idle | rejected | configured => exact .quiet rfl rfl
    | swept time =>
      rw [Session.cache_evictAt]
      exact .swept _ time
    | maintained time =>
      rw [Session.cache_maintainAt]
      split
      · exact .maintained _ time
      · exact .quiet rfl rfl
    | flushedDeferred | flushedIdle => exact session.turnover_flush _ _
    | cleared => exact .cleared _
    | destroyed =>
      rw [Session.cache_destroy]
      exact (Turnover.cleared _).trans (.quiet rfl rfl)

end Command

/-! ### What turnover keeps -/

namespace Cache

variable {cache after : Cache} {now bound : Time}

theorem Distinct.turnover (hdistinct : cache.Distinct) (hturnover : Turnover now cache after) :
    after.Distinct := by
  induction hturnover with
  | quiet hstyles hkeyframes =>
    exact ⟨hstyles ▸ hdistinct.styles, hkeyframes ▸ hdistinct.keyframes⟩
  | touched => exact hdistinct.touch _ _
  | entered hnew => exact hdistinct.enter hnew
  | swept => exact hdistinct.swept _
  | concluded => exact hdistinct.concluded _ _
  | cleared => exact ⟨.nil, .nil⟩
  | trans _ _ ihfirst ihsecond => exact ihsecond (ihfirst hdistinct)

theorem Distinct.handover {host : Host σ} {text : Text} {repeatable delivered : Bool}
    {sinks sinksAfter : σ} (hdistinct : cache.Distinct)
    (handover : Session.Handover host text repeatable cache sinks delivered after sinksAfter) :
    after.Distinct := by
  obtain ⟨memory, counters, rfl⟩ := handover.frame
  exact ⟨hdistinct.styles, hdistinct.keyframes⟩

theorem Distinct.settle {session : Session σ} (hdistinct : session.cache.Distinct)
    (host : Host σ) (item : Waiting) : (session.settle host item).2.cache.Distinct := by
  obtain ⟨settled, handover, hcache⟩ := session.settle_handover host item
  rw [hcache]
  exact (hdistinct.handover handover).concluded item _

/-- No entry was used after a time. -/
def Store.UsedBy (bound : Time) (store : Store) : Prop :=
  ∀ stored ∈ store, stored.2.lastUsedAt ≤ bound

namespace Store.UsedBy

variable {store : Store} {fingerprint : Fingerprint}

theorem filter (hused : store.UsedBy bound) (keep : Fingerprint × Entry → Bool) :
    Store.UsedBy bound (store.filter keep) :=
  fun stored hstored => hused stored (List.mem_of_mem_filter hstored)

theorem add (hused : store.UsedBy bound) {entry : Entry} (hentry : entry.lastUsedAt ≤ bound) :
    (store.add fingerprint entry).UsedBy bound := by
  intro stored hstored
  rcases mem_add.mp hstored with hold | rfl
  · exact hused stored hold
  · exact hentry

theorem modify (hused : store.UsedBy bound) {change : Entry → Entry}
    (hchange : ∀ entry, entry.lastUsedAt ≤ bound → (change entry).lastUsedAt ≤ bound) :
    (store.modify fingerprint change).UsedBy bound := by
  intro stored hstored
  obtain ⟨old, hold, rfl⟩ := mem_modify.mp hstored
  split
  · exact hchange old.2 (hused old hold)
  · exact hused old hold

theorem conclude (hused : store.UsedBy bound) (item : Waiting) (delivered : Bool) :
    (item.conclude delivered store).UsedBy bound := by
  cases delivered with
  | true =>
    rw [Waiting.conclude, if_pos rfl, markMaterialized]
    split
    · exact hused.modify fun _ hentry => hentry
    · exact hused
  | false =>
    rw [Waiting.conclude, if_neg Bool.false_ne_true, removeIfIssued]
    split
    · exact hused.filter _
    · exact hused

end Store.UsedBy

def UsedBy (bound : Time) (cache : Cache) : Prop := ∀ kind, (cache.store kind).UsedBy bound

theorem UsedBy.ofConfig (config : Config) : (ofConfig config).UsedBy bound := by
  intro kind stored hstored
  cases kind <;> exact absurd hstored List.not_mem_nil

theorem UsedBy.modifyStore (hused : cache.UsedBy bound) {kind : RuleKind}
    {change : Store → Store}
    (hchange : ∀ store : Store, store.UsedBy bound → (change store).UsedBy bound) :
    (cache.modifyStore kind change).UsedBy bound := by
  intro other
  rw [store_modifyStore]
  split
  · exact hchange _ (hused other)
  · exact hused other

theorem UsedBy.turnover (hused : cache.UsedBy bound) (hnow : now ≤ bound)
    (hturnover : Turnover now cache after) : after.UsedBy bound := by
  induction hturnover with
  | quiet hstyles hkeyframes =>
    intro kind
    rw [store_congr hstyles hkeyframes]
    exact hused kind
  | touched =>
    exact hused.modifyStore fun _ hstore =>
      hstore.modify fun _ hentry => Int.max_le.mpr ⟨hentry, hnow⟩
  | entered _ hentry => exact hused.modifyStore fun _ hstore => hstore.add (hentry ▸ hnow)
  | swept => exact fun kind stored hstored => hused kind stored (mem_store_of_mem_swept hstored)
  | concluded => exact hused.modifyStore fun _ hstore => hstore.conclude _ _
  | cleared =>
    intro kind stored hstored
    cases kind <;> exact absurd hstored List.not_mem_nil
  | trans _ _ ihfirst ihsecond => exact ihsecond (ihfirst hused)

end Cache

namespace Command

variable (host : Host σ) (config : Config) (state : σ) {commands : List (Time × Command)}

theorem distinct_start :
    (∀ moment ∈ moments host commands (.start config state), moment.session.cache.Distinct) ∧
      (runAll host commands (.start config state)).2.cache.Distinct := by
  refine runAll_keeps host (fun session => session.cache.Distinct) ⟨.nil, .nil⟩ ?_
  intro moment _ hdistinct
  exact hdistinct.turnover (turnover_run host moment.now moment.session moment.command)

theorem usedBy_start {bound : Time} (hclock : ∀ timed ∈ commands, timed.1 ≤ bound) :
    (runAll host commands (.start config state)).2.cache.UsedBy bound := by
  refine (runAll_keeps host (fun session => session.cache.UsedBy bound)
    (Cache.UsedBy.ofConfig config) ?_).2
  intro moment hmoment hused
  exact hused.turnover (hclock _ (mem_of_mem_moments host hmoment))
    (turnover_run host moment.now moment.session moment.command)

end Command

end Stylesheet
