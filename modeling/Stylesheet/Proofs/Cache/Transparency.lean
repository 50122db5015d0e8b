import Stylesheet.Proofs.Cache.Descent
import Stylesheet.Proofs.Cache.Record
import Stylesheet.Proofs.Compile.Sameness
import Stylesheet.Sink.Sheet

/-!
# Cached answers are fresh

An entry holds the text of the request that it was made for, under the configuration of that time. The fingerprint covers all of the request and every setting that shapes rule text but the post-processor. So as long as that one is kept and no two requests clash, an entry that answers a request holds just what the request would be compiled to now.
-/

namespace Stylesheet

variable {σ : Type}

/-- A request and the configuration it is made under. -/
structure Query where
  config : Config
  request : Request

namespace Query

def fingerprint (query : Query) : Fingerprint := query.request.fingerprint query.config

/-- What the request is compiled to for an identifier. -/
def text (query : Query) (identifier : Identifier) : Text :=
  Session.finishedText query.config query.request identifier

/-- The same request under settings that do not differ in what a fingerprint covers. -/
structure Same (left right : Query) : Prop where
  identPrefix : left.config.identPrefix = right.config.identPrefix
  minify : left.config.minify = right.config.minify
  debug : left.config.debug = right.config.debug
  request : left.request.same right.request = true

instance (left right : Query) : Decidable (left.Same right) :=
  decidable_of_iff
    (left.config.identPrefix = right.config.identPrefix ∧
      left.config.minify = right.config.minify ∧ left.config.debug = right.config.debug ∧
      left.request.same right.request = true)
    ⟨fun ⟨hident, hminify, hdebug, hrequest⟩ => ⟨hident, hminify, hdebug, hrequest⟩,
      fun ⟨hident, hminify, hdebug, hrequest⟩ => ⟨hident, hminify, hdebug, hrequest⟩⟩

theorem Same.text_eq {left right : Query} (hsame : left.Same right)
    (hpostProcess : left.config.postProcess = right.config.postProcess)
    (identifier : Identifier) : left.text identifier = right.text identifier := by
  have hmode : left.config.renderMode = right.config.renderMode := by
    rw [Config.renderMode, Config.renderMode, hsame.minify]
  rw [text, text, Session.finishedText, Session.finishedText, hmode,
    Request.compile_of_same right.config.renderMode identifier hsame.request, Config.finish,
    Config.finish, hpostProcess]

end Query

def Moment.query? (moment : Moment σ) : Option Query :=
  moment.command.request?.map (⟨moment.session.cache.config, ·⟩)

namespace Command

/-- The requests of a run, each with its configuration. -/
def queries (host : Host σ) (commands : List (Time × Command)) (session : Session σ) :
    List Query :=
  (moments host commands session).filterMap Moment.query?

/-! ### The post-processor -/

def replacesPostProcess : Command → Bool
  | configure update => update.postProcess.isSome
  | _ => false

theorem replacesPostProcess_of_request {command : Command} {request : Request}
    (hrequest : command.request? = some request) : command.replacesPostProcess = false := by
  cases command with
  | configure update => simp [request?] at hrequest
  | _ => rfl

variable (host : Host σ) {session : Session σ}

theorem postProcess_run (now : Time) {command : Command}
    (hkept : command.replacesPostProcess = false) :
    (command.run host now session).2.cache.config.postProcess =
      session.cache.config.postProcess := by
  rcases config_run host now session command with hsame | ⟨update, rfl, hupdated⟩
  · rw [hsame]
  · have hnone : update.postProcess = none :=
      Option.isNone_iff_eq_none.mp (Option.isSome_eq_false_iff.mp hkept)
    rw [hupdated, Config.apply, hnone]
    rfl

theorem postProcess_moments {commands : List (Time × Command)}
    (hkept : ∀ timed ∈ commands, timed.2.replacesPostProcess = false) :
    ∀ moment ∈ moments host commands session,
      moment.session.cache.config.postProcess = session.cache.config.postProcess := by
  refine (runAll_keeps host
    (fun later => later.cache.config.postProcess = session.cache.config.postProcess) rfl ?_).1
  intro moment hmoment hsame
  have hcommand := hkept _ (mem_of_mem_moments host hmoment)
  exact (postProcess_run host moment.now hcommand).trans hsame

/-- If the post-processor is not replaced any more after a request, then it is the same for all requests. -/
theorem exists_postProcess {commands : List (Time × Command)}
    (hkept : commands.Pairwise fun earlier later =>
      earlier.2.request?.isSome = true → later.2.replacesPostProcess = false) :
    ∃ postProcess, ∀ query ∈ queries host commands session,
      query.config.postProcess = postProcess := by
  induction commands generalizing session with
  | nil => exact ⟨none, fun _ hquery => absurd hquery List.not_mem_nil⟩
  | cons head rest ih =>
    obtain ⟨now, command⟩ := head
    obtain ⟨hhead, hrest⟩ := List.pairwise_cons.mp hkept
    rw [queries, moments, List.filterMap_cons]
    cases hrequest : command.request? with
    | none =>
      have hnone : (Moment.mk session now command).query? = none := by
        rw [Moment.query?, hrequest, Option.map_none]
      rw [hnone]
      exact ih hrest
    | some request =>
      have hsome :
          (Moment.mk session now command).query? = some ⟨session.cache.config, request⟩ := by
        rw [Moment.query?, hrequest, Option.map_some]
      have hlater : ∀ timed ∈ rest, timed.2.replacesPostProcess = false :=
        fun timed htimed => hhead timed htimed (by simp [hrequest])
      rw [hsome]
      refine ⟨session.cache.config.postProcess, fun query hquery => ?_⟩
      rcases List.mem_cons.mp hquery with rfl | hquery
      · rfl
      · obtain ⟨moment, hmoment, hmade⟩ := List.mem_filterMap.mp hquery
        obtain ⟨_, _, rfl⟩ := Option.map_eq_some_iff.mp hmade
        exact (postProcess_moments host hlater moment hmoment).trans
          (postProcess_run host now (replacesPostProcess_of_request hrequest))

end Command

/-! ### The origin of entries -/

namespace Cache

/-- An entry under the fingerprint of a query, with the text that the query is compiled to. -/
structure StemsFrom (query : Query) (kind : RuleKind) (stored : Fingerprint × Entry) : Prop where
  kind : query.request.kind.SharesStore kind
  fingerprint : stored.1 = query.fingerprint
  text : stored.2.text = query.text stored.2.identifier

/-- Every entry stems from one of the queries. -/
def Originates (queries : Set Query) (cache : Cache) : Prop :=
  ∀ kind, ∀ stored ∈ cache.store kind, ∃ query ∈ queries, StemsFrom query kind stored

theorem StemsFrom.continues {query : Query} {kind : RuleKind} {old stored : Fingerprint × Entry}
    (hstems : StemsFrom query kind old) (hsame : Continues old stored) :
    StemsFrom query kind stored where
  kind := hstems.kind
  fingerprint := hsame.fingerprint.symm.trans hstems.fingerprint
  text := by rw [← hsame.text, hstems.text, hsame.identifier]

theorem Originates.moment {host : Host σ} {queries : Set Query} {moment : Moment σ}
    (hquery : ∀ query ∈ moment.query?, query ∈ queries)
    (horiginates : moment.session.cache.Originates queries) :
    (moment.next host).cache.Originates queries := by
  intro kind stored hstored
  cases hrequest : moment.command.request? with
  | none =>
    have heffect := Command.run_effect host moment.now moment.session hrequest
    obtain ⟨old, hold, hsame⟩ := (Command.effect_preserves heffect).descends kind stored hstored
    obtain ⟨query, hmem, hstems⟩ := horiginates kind old hold
    exact ⟨query, hmem, hstems.continues hsame⟩
  | some request =>
    obtain ⟨resolution, hresolved⟩ :=
      Command.resolved_run host moment.now moment.session hrequest
    rcases hresolved.entries hstored with ⟨old, hold, hsame⟩ | ⟨hshares, hfingerprint, _, htext, _⟩
    · obtain ⟨query, hmem, hstems⟩ := horiginates kind old hold
      exact ⟨query, hmem, hstems.continues hsame⟩
    · refine ⟨⟨moment.session.cache.config, request⟩, hquery _ ?_, hshares, hfingerprint, htext⟩
      rw [Moment.query?, hrequest]
      rfl

end Cache

/-! ### Hits -/

namespace Command

variable (host : Host σ) (config : Config) (state : σ) (commands : List (Time × Command))

theorem originates_moments : ∀ moment ∈ moments host commands (.start config state),
    moment.session.cache.Originates
      {query | query ∈ queries host commands (.start config state)} := by
  refine (runAll_keeps host (fun later => later.cache.Originates
    {query | query ∈ queries host commands (.start config state)}) ?_ ?_).1
  · intro kind stored hstored
    cases kind <;> exact absurd hstored List.not_mem_nil
  · intro moment hmoment horiginates
    exact horiginates.moment fun query hquery =>
      List.mem_filterMap.mpr ⟨moment, hmoment, hquery⟩

/-- A hit is answered with the identifier of the entry and calls no sink. -/
theorem answer_of_find? {moment : Moment σ} {request : Request} {entry : Cache.Entry}
    (hrequest : moment.command.request? = some request)
    (hfound : moment.session.cache.find? request = some entry) :
    moment.answer host = request.answer ⟨entry.identifier, true⟩ ∧
      events host [(moment.now, moment.command)] moment.session = [] := by
  have hhit {τ : Type} (other : Host τ) (session : Session τ)
      (hfound : session.cache.find? request = some entry) :
      moment.command.run other moment.now session =
        (request.answer ⟨entry.identifier, true⟩,
          (session.hit request moment.now entry).2) := by
    rw [run_of_request other moment.now session hrequest, Session.resolve, hfound]
    rfl
  constructor
  · rw [Moment.answer, hhit host moment.session hfound]
  · rw [events, recorded, runAll, hhit host.recording _ hfound]
    rfl

/-- An entry that answers a request holds what the request would be compiled to now, and the answer takes no call of a sink. -/
theorem transparent_runAll
    (hkept : commands.Pairwise fun earlier later =>
      earlier.2.request?.isSome = true → later.2.replacesPostProcess = false)
    (hdistinct : ∀ left ∈ queries host commands (.start config state),
      ∀ right ∈ queries host commands (.start config state),
      left.request.kind.SharesStore right.request.kind →
      left.fingerprint = right.fingerprint → left.Same right) :
    ∀ moment ∈ moments host commands (.start config state), ∀ request entry,
      moment.command.request? = some request →
      moment.session.cache.find? request = some entry →
        entry.text =
            Session.finishedText moment.session.cache.config request entry.identifier ∧
          moment.answer host = request.answer ⟨entry.identifier, true⟩ ∧
          events host [(moment.now, moment.command)] moment.session = [] := by
  intro moment hmoment request entry hrequest hfound
  obtain ⟨postProcess, hsame⟩ := exists_postProcess host hkept
  have hasked : ⟨moment.session.cache.config, request⟩ ∈
      queries host commands (.start config state) := by
    refine List.mem_filterMap.mpr ⟨moment, hmoment, ?_⟩
    rw [Moment.query?, hrequest]
    rfl
  have hstored : (request.fingerprint moment.session.cache.config, entry) ∈
      moment.session.cache.store request.kind := by
    rw [Cache.find?] at hfound
    split at hfound
    · exact Cache.Store.mem_of_find? hfound
    · exact absurd hfound.symm (Option.some_ne_none entry)
  obtain ⟨origin, horigin, hstems⟩ :=
    originates_moments host config state commands moment hmoment _ _ hstored
  have hquery := hdistinct origin horigin _ hasked hstems.kind hstems.fingerprint.symm
  have hpostProcess := (hsame origin horigin).trans (hsame _ hasked).symm
  refine ⟨?_, answer_of_find? host hrequest hfound⟩
  rw [hstems.text]
  exact hquery.text_eq hpostProcess entry.identifier

/-- A post-processor is installed, a style is asked for, and after a change of the insertion mode the same style again with the other zero. -/
def zeroTwice : List (Time × Command) :=
  [(0, .configure { postProcess := some (· ++ ['\n']) }),
    (1, .style [("margin".toList, .number .negativeZero)] ⟨some "a".toList, none, false⟩),
    (2, .configure { insertion := some .deferred }),
    (3, .style [("margin".toList, .number .zero)] ⟨some "a".toList, none, false⟩)]

theorem transparent_zeroTwice :
    (zeroTwice.Pairwise fun earlier later =>
      earlier.2.request?.isSome = true → later.2.replacesPostProcess = false) ∧
    (∀ left ∈ queries Sheet.host zeroTwice (.start {} []),
      ∀ right ∈ queries Sheet.host zeroTwice (.start {} []),
      left.request.kind.SharesStore right.request.kind →
      left.fingerprint = right.fingerprint → left.Same right) ∧
    (moments Sheet.host zeroTwice (.start {} [])).map (fun moment =>
      (moment.command.request?.bind moment.session.cache.find?).isSome) =
        [false, false, false, true] ∧
    ∀ moment ∈ moments Sheet.host zeroTwice (.start {} []), ∀ request entry,
      moment.command.request? = some request →
      moment.session.cache.find? request = some entry →
        entry.text =
            Session.finishedText moment.session.cache.config request entry.identifier ∧
          moment.answer Sheet.host = request.answer ⟨entry.identifier, true⟩ ∧
          events Sheet.host [(moment.now, moment.command)] moment.session = [] := by
  have hkept : zeroTwice.Pairwise fun earlier later =>
      earlier.2.request?.isSome = true → later.2.replacesPostProcess = false := by
    decide +kernel
  have hdistinct : ∀ left ∈ queries Sheet.host zeroTwice (.start {} []),
      ∀ right ∈ queries Sheet.host zeroTwice (.start {} []),
      left.request.kind.SharesStore right.request.kind →
      left.fingerprint = right.fingerprint → left.Same right := by
    decide +kernel
  exact ⟨hkept, hdistinct, by decide +kernel,
    transparent_runAll Sheet.host {} [] zeroTwice hkept hdistinct⟩

end Command

end Stylesheet
