import Stylesheet.Proofs.Cache.Descent
import Stylesheet.Proofs.Cache.Sweep
import Stylesheet.Proofs.Cache.Turnover
import Stylesheet.Sink.Sheet

/-!
# What entries keep

An identifier that was handed out stays with its text as long as its entry is there, whatever is done to the cache in the meantime. After a command every entry was there before and is as it was, up to the flag that a delivery sets; or it is the one that the command was answered from; or it was made by the command, under a fingerprint that was free. That uses are counted without ever going back takes one more invariant, as they are counted up to a limit: no entry of a run is beyond it.
-/

namespace Stylesheet

variable {σ : Type}

/-- What an entry keeps, and what can only grow. -/
structure Cache.Entry.Endures (old entry : Cache.Entry) : Prop where
  identifier : entry.identifier = old.identifier
  text : entry.text = old.text
  createdAt : entry.createdAt = old.createdAt
  bytes : entry.bytes = old.bytes
  materialized : old.materialized = true → entry.materialized = true
  uses : old.uses ≤ entry.uses
  lastUsedAt : old.lastUsedAt ≤ entry.lastUsedAt

namespace Moment

variable {host : Host σ} {moment : Moment σ} {kind : RuleKind} {fingerprint : Fingerprint}
  {stored : Fingerprint × Cache.Entry}

/-- The command is a request that is answered from the entry under this fingerprint. -/
def Hits (moment : Moment σ) (kind : RuleKind) (fingerprint : Fingerprint) : Prop :=
  ∃ request, moment.command.request? = some request ∧ request.kind.SharesStore kind ∧
    request.fingerprint moment.session.cache.config = fingerprint ∧
      (moment.session.cache.find? request).isSome = true

/-- The command is a request that may make an entry under this fingerprint. -/
def Admits (moment : Moment σ) (kind : RuleKind) (fingerprint : Fingerprint) : Prop :=
  ∃ request, moment.command.request? = some request ∧ request.kind.SharesStore kind ∧
    request.fingerprint moment.session.cache.config = fingerprint ∧
      moment.session.cache.config.caching = true

/-- The entry is there after the command, and before it there was none under its fingerprint. -/
def Adds (host : Host σ) (moment : Moment σ) (kind : RuleKind)
    (stored : Fingerprint × Cache.Entry) : Prop :=
  stored ∈ (moment.next host).cache.store kind ∧
    (moment.session.cache.store kind).find? stored.1 = none

/-! ### Entries after a command -/

/-- Where an entry comes from that is there after a command. -/
inductive Source (moment : Moment σ) (kind : RuleKind) (stored : Fingerprint × Cache.Entry) : Prop
  | remains {old : Fingerprint × Cache.Entry} (hold : old ∈ moment.session.cache.store kind)
    (hremains : Cache.Remains old stored) (hother : ¬moment.Hits kind stored.1)
  | touched {old : Fingerprint × Cache.Entry} (hold : old ∈ moment.session.cache.store kind)
    (htouched : stored = (old.1, old.2.touch moment.now)) (hhits : moment.Hits kind stored.1)
  | made {identifier : Identifier} {text : Text} {flag : Bool}
    (hmade : Cache.Remains (stored.1, .create identifier text moment.now flag) stored)
    (hadmits : moment.Admits kind stored.1)
    (hfree : (moment.session.cache.store kind).find? stored.1 = none)

theorem source_of_hit {request : Request} {entry : Cache.Entry}
    (hrequest : moment.command.request? = some request)
    (hfound : moment.session.cache.find? request = some entry)
    (hstored : stored ∈ (moment.session.cache.touch request moment.now).store kind) :
    moment.Source kind stored := by
  obtain ⟨old, hold, heq⟩ := Cache.mem_store_touch hstored
  split at heq
  · rename_i hanswers
    refine .touched hold heq ⟨request, hrequest, hanswers.1, ?_, by rw [hfound]; rfl⟩
    rw [heq]
    exact hanswers.2.symm
  · rename_i hother
    subst heq
    refine .remains hold (.refl stored) ?_
    rintro ⟨same, hsame, hshares, hfingerprint, -⟩
    rw [hrequest, Option.some.injEq] at hsame
    subst hsame
    exact hother ⟨hshares, hfingerprint.symm⟩

theorem source (hstored : stored ∈ (moment.next host).cache.store kind) :
    moment.Source kind stored := by
  rw [Moment.next] at hstored
  cases hrequest : moment.command.request? with
  | none =>
    have heffect := Command.run_effect host moment.now moment.session hrequest
    obtain ⟨old, hold, hremains⟩ := Command.effect_preserves heffect kind stored hstored
    refine .remains hold hremains ?_
    rintro ⟨request, hsome, -⟩
    exact absurd (hrequest.symm.trans hsome) nofun
  | some request =>
    obtain ⟨resolution, hresolved⟩ :=
      Command.resolved_run host moment.now moment.session hrequest
    cases hfound : moment.session.cache.find? request with
    | some entry =>
      rw [hresolved.store_of_hit hfound] at hstored
      exact source_of_hit hrequest hfound hstored
    | none =>
      rcases hresolved.entries_of_miss hfound hstored with
        ⟨old, hold, hremains⟩ | ⟨hshares, hcaching, flag, hmade⟩
      · refine .remains hold hremains ?_
        rintro ⟨same, hsame, -, -, hsome⟩
        rw [hrequest, Option.some.injEq] at hsame
        rw [← hsame, hfound] at hsome
        exact Bool.false_ne_true hsome
      · have hfingerprint : request.fingerprint moment.session.cache.config = stored.1 :=
          hmade.fingerprint
        rw [hfingerprint] at hmade
        refine .made hmade ⟨request, hrequest, hshares, hfingerprint, hcaching⟩ ?_
        rw [Cache.find?_eq hcaching, Cache.store_of_shares hshares] at hfound
        exact hfingerprint ▸ hfound

end Moment

/-! ### Counting uses -/

namespace Cache

/-- No entry was used more often than is counted. -/
def Countable (cache : Cache) : Prop :=
  ∀ kind, ∀ stored ∈ cache.store kind, stored.2.uses ≤ Entry.usesLimit

theorem Countable.next {host : Host σ} {moment : Moment σ}
    (hcountable : moment.session.cache.Countable) : (moment.next host).cache.Countable := by
  intro kind stored hstored
  cases moment.source hstored with
  | remains hold hremains =>
    rw [hremains.entry]
    exact hcountable kind _ hold
  | touched hold htouched =>
    rw [htouched]
    exact Nat.min_le_right _ _
  | made hmade =>
    rw [hmade.entry]
    show 1 ≤ Entry.usesLimit
    decide

theorem Entry.endures_touch {old : Entry} (huses : old.uses ≤ usesLimit) (now : Time) :
    old.Endures (old.touch now) where
  identifier := rfl
  text := rfl
  createdAt := rfl
  bytes := rfl
  materialized := id
  uses := Nat.le_min.mpr ⟨Nat.le_succ _, huses⟩
  lastUsedAt := Int.le_max_left _ _

theorem Remains.endures {old stored : Fingerprint × Entry} (hremains : Remains old stored) :
    old.2.Endures stored.2 where
  identifier := by rw [hremains.entry]
  text := by rw [hremains.entry]
  createdAt := by rw [hremains.entry]
  bytes := by rw [hremains.entry]; rfl
  materialized := hremains.marked
  uses := by rw [hremains.entry]
  lastUsedAt := by rw [hremains.entry]

end Cache

namespace Command

variable (host : Host σ) (config : Config) (state : σ) {commands : List (Time × Command)}

theorem countable_moments : ∀ moment ∈ moments host commands (.start config state),
    moment.session.cache.Countable := by
  refine (runAll_keeps host (fun session => session.cache.Countable) ?_ ?_).1
  · intro kind stored hstored
    cases kind <;> exact absurd hstored List.not_mem_nil
  · intro moment _ hcountable
    exact hcountable.next

/-! ### Every command of a run -/

/-- An entry that is there before and after a command is the same but for its flag and its use; it is used by exactly those requests that are answered from it; and what is new was made by a request under its own fingerprint, which was free, and is the only new entry. -/
theorem endures_next {moment : Moment σ}
    (hmoment : moment ∈ moments host commands (.start config state)) :
    (∀ kind fingerprint old entry,
      (moment.session.cache.store kind).find? fingerprint = some old →
      ((moment.next host).cache.store kind).find? fingerprint = some entry →
        old.Endures entry ∧
        (moment.Hits kind fingerprint → entry.uses = min (old.uses + 1) Cache.Entry.usesLimit ∧
          entry.lastUsedAt = max old.lastUsedAt moment.now) ∧
        (¬moment.Hits kind fingerprint → entry.uses = old.uses ∧
          entry.lastUsedAt = old.lastUsedAt)) ∧
    (∀ kind stored, moment.Adds host kind stored → moment.Admits kind stored.1) ∧
    (∀ kind stored other added, moment.Adds host kind stored → moment.Adds host other added →
      kind.SharesStore other ∧ stored = added) := by
  have hdistinct := (distinct_start host config state).1 moment hmoment
  have hcountable := countable_moments host config state moment hmoment
  have hafter : (moment.next host).cache.Distinct :=
    hdistinct.turnover (turnover_run host moment.now moment.session moment.command)
  have hadmits : ∀ kind stored, moment.Adds host kind stored → moment.Admits kind stored.1 := by
    rintro kind stored ⟨hstored, hfree⟩
    cases moment.source hstored with
    | remains hold hremains =>
      rw [← hremains.fingerprint] at hfree
      exact absurd hfree (Cache.Store.find?_of_mem (hdistinct.store kind) hold ▸ nofun)
    | touched hold htouched =>
      rw [htouched] at hfree
      exact absurd hfree (Cache.Store.find?_of_mem (hdistinct.store kind) hold ▸ nofun)
    | made _ hadmits => exact hadmits
  refine ⟨?kept, hadmits, ?single⟩
  case kept =>
    intro kind fingerprint old entry hold hentry
    -- Fingerprints are distinct, so what the entry comes from is the old one.
    cases moment.source (Cache.Store.mem_of_find? hentry) with
    | @remains before hbefore hremains hother =>
      obtain rfl : before.1 = fingerprint := hremains.fingerprint
      rw [Cache.Store.find?_of_mem (hdistinct.store kind) hbefore, Option.some.injEq] at hold
      subst hold
      refine ⟨hremains.endures, fun hhits => absurd hhits hother, fun _ => ?_⟩
      have hentry : entry = { before.2 with materialized := entry.materialized } := hremains.entry
      rw [hentry]
      exact ⟨rfl, rfl⟩
    | @touched before hbefore htouched hhits =>
      obtain ⟨rfl, rfl⟩ := Prod.mk.inj htouched
      rw [Cache.Store.find?_of_mem (hdistinct.store kind) hbefore, Option.some.injEq] at hold
      subst hold
      exact ⟨Cache.Entry.endures_touch (hcountable kind before hbefore) moment.now,
        fun _ => ⟨rfl, rfl⟩, fun hother => absurd hhits hother⟩
    | made _ _ hfree => exact absurd (hold.symm.trans hfree) nofun
  case single =>
    -- Two new entries are both under the fingerprint of the one request there is.
    intro kind stored other added hstored hadded
    obtain ⟨request, hrequest, hshares, hfingerprint, -⟩ := hadmits kind stored hstored
    obtain ⟨same, hsame, halso, hequal, -⟩ := hadmits other added hadded
    rw [hrequest, Option.some.injEq] at hsame
    subst hsame
    have hkinds : kind.SharesStore other := hshares.symm.trans halso
    refine ⟨hkinds, ?_⟩
    have hmem : added ∈ (moment.next host).cache.store kind :=
      Cache.store_of_shares hkinds (moment.next host).cache ▸ hadded.1
    exact Cache.Store.eq_of_fingerprint (hafter.store kind) hstored.1 hmem
      (hfingerprint.symm.trans hequal)

/-- The first request of a run, for a style. -/
def paint : Moment Sheet :=
  ⟨.start {} [], 0, .style [("color".toList, .text "red".toList)] {}⟩

/-- The same request, five milliseconds later. -/
def paintAgain : Moment Sheet := ⟨paint.next Sheet.host, 5, paint.command⟩

/-- What the first of the two makes. -/
def painted : Fingerprint × Cache.Entry :=
  ((Request.style [("color".toList, .text "red".toList)] {}).fingerprint {},
    .create "css-1wi8o31".toList ".css-1wi8o31 { color: red; }".toList 0 true)

theorem endures_next_paintAgain :
    paint.Admits .style painted.1 ∧ painted.2.Endures (painted.2.touch 5) ∧
      (painted.2.touch 5).uses = 2 ∧ (painted.2.touch 5).lastUsedAt = 5 := by
  have hpaint : paint ∈
      moments Sheet.host [(0, paint.command), (5, paint.command)] (.start {} []) :=
    List.mem_cons_self
  have hpaintAgain : paintAgain ∈
      moments Sheet.host [(0, paint.command), (5, paint.command)] (.start {} []) :=
    List.mem_cons_of_mem _ List.mem_cons_self
  have hfirst := endures_next Sheet.host {} [] hpaint
  have hagain := endures_next Sheet.host {} [] hpaintAgain
  obtain ⟨hendures, htouched, -⟩ := hagain.1 .style painted.1 painted.2 (painted.2.touch 5)
    (by decide +kernel) (by decide +kernel)
  have hhits : paintAgain.Hits .style painted.1 :=
    ⟨_, rfl, Iff.rfl, by decide +kernel, by decide +kernel⟩
  have hadds : paint.Adds Sheet.host .style painted := ⟨by decide +kernel, rfl⟩
  exact ⟨hfirst.2.1 .style painted hadds, hendures, htouched hhits⟩

end Command

end Stylesheet
