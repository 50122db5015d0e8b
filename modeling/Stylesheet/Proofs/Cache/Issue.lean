import Mathlib.Data.List.Nodup
import Mathlib.Data.List.Range
import Stylesheet.Proofs.Cache.Outcome
import Stylesheet.Proofs.Cache.Run
import Stylesheet.Proofs.Cache.Store
import Stylesheet.Proofs.Identifier.Default

/-!
# Identifiers issued during a run

Each request that the stores have no answer for uses up one number, and nothing else moves the count of these numbers, in either direction. So the issues of a run are numbered one after the other, and as the default scheme writes its number into the identifier, it never makes the same identifier twice, whatever happens to the configuration and to the stores in between.
-/

namespace Stylesheet

variable {σ : Type}

/-- A request that the stores of a cache have no answer for, about to be issued an identifier. -/
structure Issue where
  cache : Cache
  request : Request

namespace Issue

def seed (issue : Issue) : Seed := issue.cache.nextSeed issue.request

def number (issue : Issue) : Nat := issue.seed.sequence

def identifier (issue : Issue) : Identifier := issue.cache.nextIdentifier issue.request

/-- Neither a custom name nor a generated one is there to be used. -/
def isDefault (issue : Issue) : Bool :=
  (issue.request.options?.bind (Identifier.custom? issue.seed.identPrefix)).isNone
    && (Identifier.generated? issue.cache.config issue.seed).isNone

variable {issue : Issue}

theorem identifier_of_isDefault (hdefault : issue.isDefault = true) :
    issue.identifier = Identifier.byDefault issue.cache.config.debug issue.seed := by
  simp only [isDefault, Bool.and_eq_true, Option.isNone_iff_eq_none] at hdefault
  obtain ⟨hcustom, hgenerated⟩ := hdefault
  rw [seed] at hgenerated
  rw [identifier, Cache.nextIdentifier, Identifier.issue, hgenerated, Option.or_none]
  exact congrArg (Option.getD · _) hcustom

theorem number_of_isDefault (hdefault : issue.isDefault = true) :
    Identifier.number issue.identifier = issue.number := by
  rw [identifier_of_isDefault hdefault, Identifier.number_byDefault, number]

end Issue

/-- The issue that a command begins with. -/
def Moment.issue? (moment : Moment σ) : Option Issue :=
  moment.command.request?.bind fun request =>
    if (moment.session.cache.find? request).isNone then some ⟨moment.session.cache, request⟩
    else none

theorem Moment.issue?_eq_some_iff {moment : Moment σ} {issue : Issue} :
    moment.issue? = some issue ↔
      moment.command.request? = some issue.request ∧ moment.session.cache = issue.cache ∧
        issue.cache.find? issue.request = none := by
  simp only [issue?, Option.bind_eq_some_iff, Option.ite_none_right_eq_some,
    Option.isNone_iff_eq_none, Option.some.injEq]
  constructor
  · rintro ⟨request, hrequest, hmissing, rfl⟩
    exact ⟨hrequest, rfl, hmissing⟩
  · rintro ⟨hrequest, hcache, hmissing⟩
    exact ⟨issue.request, hrequest, hcache ▸ hmissing, by rw [hcache]⟩

theorem Session.Issuance.identifier_of_full {host : Host σ} {request : Request}
    {cache after : Cache} {sinks sinksAfter : σ} {issued : Issued}
    (hissue : Issuance host request cache sinks issued after sinksAfter)
    (hfull : request.isHollow cache.config.renderMode (cache.nextIdentifier request) = false) :
    issued.identifier = cache.nextIdentifier request := by
  cases hissue with
  | hollow hhollow => exact absurd (hfull.symm.trans hhollow) Bool.false_ne_true
  | sent | blank | queued => rfl

theorem Session.Issuance.identifier_of_hollow {host : Host σ} {request : Request}
    {cache after : Cache} {sinks sinksAfter : σ} {issued : Issued}
    (hissue : Issuance host request cache sinks issued after sinksAfter)
    (hhollow : request.isHollow cache.config.renderMode (cache.nextIdentifier request) = true) :
    issued.identifier = Identifier.invalid := by
  cases hissue with
  | hollow => rfl
  | sent hfull | blank hfull | queued hfull =>
    exact absurd (hfull.symm.trans hhollow) Bool.false_ne_true

/-- An issue is answered with what comes of it. -/
theorem Moment.answer_of_issuance (host : Host σ) {moment : Moment σ} {issue : Issue}
    (hissue : moment.issue? = some issue) :
    ∃ issued after sinksAfter,
      Session.Issuance host issue.request issue.cache moment.session.sinks issued after
        sinksAfter ∧ moment.answer host = issue.request.answer issued.resolution := by
  obtain ⟨hrequest, hcache, hmissing⟩ := Moment.issue?_eq_some_iff.mp hissue
  obtain ⟨hresolution, -, -⟩ :=
    Session.resolve_of_missing moment.session moment.now host (hcache ▸ hmissing)
  have hissuance := Session.issue_issuance moment.session host issue.request
  rw [hcache] at hissuance
  refine ⟨_, _, _, hissuance, ?_⟩
  rw [Moment.answer, Command.run_of_request host moment.now moment.session hrequest, hresolution]

/-- An issue is answered with its identifier, unless the request compiles to nothing. -/
theorem Moment.answer_of_issue? (host : Host σ) {moment : Moment σ} {issue : Issue}
    (hissue : moment.issue? = some issue)
    (hfull : issue.request.isHollow issue.cache.config.renderMode issue.identifier = false) :
    ∃ delivered, moment.answer host = issue.request.answer ⟨issue.identifier, delivered⟩ := by
  obtain ⟨issued, _, _, hissuance, hanswer⟩ := Moment.answer_of_issuance host hissue
  have hidentifier : _ = issue.identifier := hissuance.identifier_of_full hfull
  rw [hanswer, ← hidentifier]
  exact ⟨_, rfl⟩

/-! ### Counting -/

namespace Session

variable {host : Host σ} {request : Request} {cache after : Cache} {sinks sinksAfter : σ}
  {now : Time}

theorem Issuance.number {issued : Issued}
    (hissue : Issuance host request cache sinks issued after sinksAfter) :
    after.issued = cache.issued + 1 := by
  cases hissue with
  | hollow | blank | queued => rfl
  | sent _ _ handover =>
    obtain ⟨memory, counters, rfl⟩ := handover.frame
    rfl

theorem Resolved.issued_of_hit {resolution : Resolution} {entry : Cache.Entry}
    (hresolved : Resolved host request now cache sinks resolution after sinksAfter)
    (hfound : cache.find? request = some entry) : after.issued = cache.issued := by
  rw [hresolved.of_hit hfound]
  exact Cache.issued_modifyStore _ _

theorem Resolved.issued_of_miss {resolution : Resolution}
    (hresolved : Resolved host request now cache sinks resolution after sinksAfter)
    (hmissing : cache.find? request = none) : after.issued = cache.issued + 1 := by
  obtain ⟨issued, issuedCache, hissue, rfl⟩ := hresolved.of_miss hmissing
  obtain ⟨_, _, _, _, _, hframe⟩ := Cache.recorded_frame request now issued issuedCache
  rw [hframe, hissue.number]

end Session

namespace Command

variable (host : Host σ) (commands : List (Time × Command)) (session : Session σ)

theorem effect_issued {command : Command} {after : Session σ}
    (heffect : Effect host session command after) :
    after.cache.issued = session.cache.issued := by
  cases heffect with
  | idle | rejected | configured | cleared => rfl
  | swept time =>
    rw [Session.cache_evictAt]
    rfl
  | maintained time =>
    rw [Session.cache_maintainAt]
    split <;> rfl
  | flushedDeferred | flushedIdle =>
    obtain ⟨_, _, _, _, hframe⟩ := session.flush_frame host _ _
    show (session.flush host _ _).2.cache.issued = session.cache.issued
    rw [hframe]
  | destroyed =>
    rw [Session.cache_destroy]
    rfl

/-- A command uses up a number exactly if it begins with an issue. -/
theorem issued_next (moment : Moment σ) :
    (moment.next host).cache.issued =
      moment.session.cache.issued + moment.issue?.toList.length := by
  rw [Moment.next]
  cases hrequest : moment.command.request? with
  | none =>
    rw [effect_issued host moment.session (run_effect host moment.now moment.session hrequest),
      Moment.issue?, hrequest]
    rfl
  | some request =>
    obtain ⟨resolution, hresolved⟩ := resolved_run host moment.now moment.session hrequest
    rw [Moment.issue?, hrequest]
    cases hfound : moment.session.cache.find? request with
    | none => simp [hresolved.issued_of_miss hfound, hfound]
    | some entry => simp [hresolved.issued_of_hit hfound, hfound]

/-- The issues of a run, in order. -/
def issues : List Issue := (moments host commands session).filterMap Moment.issue?

theorem issues_cons (now : Time) (command : Command) :
    issues host ((now, command) :: commands) session =
      (Moment.mk session now command).issue?.toList
        ++ issues host commands (command.run host now session).2 := by
  rw [issues, moments, List.filterMap_cons, issues]
  cases (Moment.mk session now command).issue? <;> rfl

/-- The issues of a run are numbered without a gap, from the number after the ones used up before. -/
theorem numbers_issues : (issues host commands session).map Issue.number =
    List.range' (session.cache.issued + 1) (issues host commands session).length := by
  induction commands generalizing session with
  | nil => rfl
  | cons head rest ih =>
    obtain ⟨now, command⟩ := head
    have hnext := issued_next host ⟨session, now, command⟩
    rw [Moment.next] at hnext
    rw [issues_cons, List.map_append, ih, hnext]
    cases hissue : (Moment.mk session now command).issue? with
    | none => rfl
    | some issue =>
      obtain ⟨-, hcache, -⟩ := Moment.issue?_eq_some_iff.mp hissue
      have hnumber : issue.number = session.cache.issued + 1 := by
        rw [show session.cache = issue.cache from hcache]
        rfl
      simp only [Option.toList_some, List.map_cons, List.map_nil, List.singleton_append,
        List.length_cons, List.length_nil, List.range'_succ, hnumber]

/-- What the default scheme makes during a run. -/
def defaultIdentifiers : List Identifier :=
  ((issues host commands session).filter Issue.isDefault).map Issue.identifier

/-- The default scheme never makes an identifier again, whatever else is done with the cache. -/
theorem nodup_defaultIdentifiers : (defaultIdentifiers host commands session).Nodup := by
  refine List.Nodup.of_map Identifier.number ?_
  have hnumbers : (defaultIdentifiers host commands session).map Identifier.number =
      ((issues host commands session).filter Issue.isDefault).map Issue.number := by
    rw [defaultIdentifiers, List.map_map]
    refine List.map_congr_left fun issue hissue => ?_
    exact Issue.number_of_isDefault (List.mem_filter.mp hissue).2
  have hdistinct : ((issues host commands session).map Issue.number).Nodup := by
    rw [numbers_issues]
    exact List.nodup_range'
  rw [hnumbers]
  exact hdistinct.sublist (List.filter_sublist.map _)

end Command

end Stylesheet
