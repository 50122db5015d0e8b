import Stylesheet.Proofs.Cache.Origin
import Stylesheet.Proofs.Cache.Transparency
import Stylesheet.Proofs.Identifier.Validity
import Stylesheet.Sink.Sheet

/-!
# The identifiers of a run

An identifier that a request is answered with was issued during the run, for this request or for one before it, unless it is the one for rejected requests. What an issued identifier starts with was supplied by a command: a custom name that goes without the prefix, the product of a generator, or a prefix. All of these were made fragments, so there is no identifier with a foreign character or with a digit in front, and none that could be taken for more than one selector. A hyphen in front stays where it was supplied, also before a digit, and then the identifier is not one of CSS.
-/

namespace Stylesheet

variable {σ : Type}

open Identifier (Made)

namespace Command

variable {host : Host σ} {config : Config} {state : σ} {commands : List (Time × Command)}
  {session : Session σ} {identifier : Identifier}

/-! ### Answers -/

theorem answers_runAll (host : Host σ) (commands : List (Time × Command)) (session : Session σ) :
    (runAll host commands session).1 = (moments host commands session).map (Moment.answer host) := by
  induction commands generalizing session with
  | nil => rfl
  | cons head rest ih =>
    rw [runAll, moments, List.map_cons, ih]
    rfl

theorem answer_animate {stops : Stops} {now : Time} (hrequest : animation? stops = none)
    (hanswer : (identified (session.animate host stops now)).1 = .identifier identifier) :
    identifier = Identifier.invalid := by
  by_cases hstops : stops.isEmpty
  · rw [Session.animate, if_pos hstops] at hanswer
    exact (Answer.identifier.inj hanswer).symm
  · simp [animation?, hstops] at hrequest

/-- Without a request there is only the identifier for rejected ones to answer with. -/
theorem answer_of_no_request {command : Command} {now : Time} (hrequest : command.request? = none)
    (hanswer : (command.run host now session).1 = .identifier identifier) :
    identifier = Identifier.invalid := by
  cases command with
  | style description options => exact absurd hrequest (Option.some_ne_none _)
  | styleJson json options =>
    cases hjson : Description.ofJson json with
    | error error =>
      rw [run, hjson] at hanswer
      exact (Answer.identifier.inj hanswer).symm
    | ok description => simp [request?, hjson, Except.toOption] at hrequest
  | keyframes stops => exact answer_animate hrequest hanswer
  | keyframesJson json =>
    cases hjson : Stops.ofJson json with
    | error error =>
      rw [run, hjson] at hanswer
      exact (Answer.identifier.inj hanswer).symm
    | ok stops =>
      simp only [request?, hjson, Except.toOption, Option.bind_some] at hrequest
      rw [run, hjson] at hanswer
      exact answer_animate hrequest hanswer
  | global | hasStyle | hasKeyframes | evictAt | maintainAt | flushDeferred | flushIdle
  | configure | clear | destroy => cases hanswer

theorem identifier_of_answer {request : Request} {resolution : Session.Resolution}
    (hanswer : request.answer resolution = .identifier identifier) :
    identifier = resolution.identifier := by
  cases request with
  | style | keyframes => exact (Answer.identifier.inj hanswer).symm
  | global => cases hanswer

/-! ### Identifiers are issued -/

theorem mem_issues {moment : Moment σ} {issue : Issue}
    (hmoment : moment ∈ moments host commands session) (hissue : moment.issue? = some issue) :
    issue ∈ issues host commands session :=
  List.mem_filterMap.mpr ⟨moment, hmoment, hissue⟩

/-- The identifier of every entry was issued during the run. -/
theorem issued_of_stored {moment : Moment σ}
    (hmoment : moment ∈ moments host commands (.start config state)) {kind : RuleKind}
    {stored : Fingerprint × Cache.Entry} (hstored : stored ∈ moment.session.cache.store kind) :
    ∃ issue ∈ issues host commands (.start config state),
      stored.2.identifier = issue.identifier := by
  refine (runAll_keeps host (fun later => ∀ kind, ∀ stored ∈ later.cache.store kind,
    ∃ issue ∈ issues host commands (.start config state),
      stored.2.identifier = issue.identifier) ?_ ?_).1 moment hmoment kind stored hstored
  · intro kind stored hstored
    cases kind <;> exact absurd hstored List.not_mem_nil
  · intro moment hmoment hissued kind stored hstored
    rcases Moment.entries_next hstored with ⟨old, hold, hsame⟩ | ⟨-, issue, hissue, hmade⟩
    · obtain ⟨issue, hmem, hidentifier⟩ := hissued kind old hold
      exact ⟨issue, hmem, hsame.identifier.symm.trans hidentifier⟩
    · exact ⟨issue, mem_issues hmoment hissue, hmade.identifier⟩

/-- So was every identifier that is answered, but for the one for rejected requests. -/
theorem issued_of_answer
    (hanswer : .identifier identifier ∈ (runAll host commands (.start config state)).1) :
    identifier = Identifier.invalid ∨
      ∃ issue ∈ issues host commands (.start config state), identifier = issue.identifier := by
  rw [answers_runAll] at hanswer
  obtain ⟨moment, hmoment, hanswer⟩ := List.mem_map.mp hanswer
  cases hrequest : moment.command.request? with
  | none => exact .inl (answer_of_no_request hrequest hanswer)
  | some request =>
    cases hfound : moment.session.cache.find? request with
    | some entry =>
      rw [(answer_of_find? host hrequest hfound).1] at hanswer
      have hstored : (request.fingerprint moment.session.cache.config, entry) ∈
          moment.session.cache.store request.kind := by
        rw [Cache.find?] at hfound
        split at hfound
        · exact Cache.Store.mem_of_find? hfound
        · exact absurd hfound.symm (Option.some_ne_none entry)
      obtain ⟨issue, hissue, hidentifier⟩ := issued_of_stored hmoment hstored
      exact .inr ⟨issue, hissue, (identifier_of_answer hanswer).trans hidentifier⟩
    | none =>
      have hissue : moment.issue? = some ⟨moment.session.cache, request⟩ :=
        Moment.issue?_eq_some_iff.mpr ⟨hrequest, rfl, hfound⟩
      obtain ⟨issued, _, _, hissuance, hissued⟩ := Moment.answer_of_issuance host hissue
      rw [hissued] at hanswer
      have hidentifier : identifier = issued.identifier := identifier_of_answer hanswer
      cases hhollow : request.isHollow moment.session.cache.config.renderMode
          (moment.session.cache.nextIdentifier request) with
      | true => exact .inl (hidentifier.trans (hissuance.identifier_of_hollow hhollow))
      | false =>
        refine .inr ⟨_, mem_issues hmoment hissue, ?_⟩
        exact hidentifier.trans (hissuance.identifier_of_full hhollow)

/-! ### What identifiers start with -/

/-- A command supplies a text that identifiers start with. -/
inductive Supplies : Command → Text → Prop
  | name {command : Command} {request : Request} {given : StyleOptions} {raw : Text}
    (hrequest : command.request? = some request) (hoptions : request.options? = some given)
    (hname : given.name = some raw) (hbare : given.prefixName = false) :
    Supplies command raw.sanitize
  | identPrefix {update : ConfigUpdate} {raw : Text} (hfront : update.identPrefix = some raw) :
    Supplies (.configure update) (raw.sanitize ++ ['-'])
  | product {update : ConfigUpdate} {generate : Seed → Text}
    (hgenerate : update.generate = some generate) (seed : Seed) :
    Supplies (.configure update) (generate seed).sanitize

/-- What identifiers can start with in a run from the default configuration. -/
def Supplied (commands : List (Time × Command)) (text : Text) : Prop :=
  text = "css-".toList ∨ ∃ timed ∈ commands, timed.2.Supplies text

/-- Prefix and generator of a configuration were supplied. -/
structure Outfitted (commands : List (Time × Command)) (config : Config) : Prop where
  isName : config.identPrefix.IsName
  identPrefix : Supplied commands (config.identPrefix ++ ['-'])
  products : ∀ generate, config.generate = some generate →
    ∀ seed, Supplied commands (generate seed).sanitize

theorem Outfitted.start (commands : List (Time × Command)) : Outfitted commands {} where
  isName := by decide
  identPrefix := .inl rfl
  products generate hgenerate := absurd hgenerate.symm (Option.some_ne_none generate)

theorem Outfitted.apply (houtfitted : Outfitted commands config) {update : ConfigUpdate}
    {now : Time} (hcommand : (now, configure update) ∈ commands) :
    Outfitted commands (config.apply update) := by
  refine ⟨?_, ?_, ?_⟩
  · show Text.IsName (Config.updatedPrefix config.identPrefix update.identPrefix)
    unfold Config.updatedPrefix
    split
    · exact houtfitted.isName
    · split
      · exact houtfitted.isName
      · rename_i husable
        exact Text.isName_sanitize fun hempty => husable (by rw [hempty]; rfl)
  · show Supplied commands (Config.updatedPrefix config.identPrefix update.identPrefix ++ ['-'])
    unfold Config.updatedPrefix
    split
    · exact houtfitted.identPrefix
    · rename_i raw hraw
      split
      · exact houtfitted.identPrefix
      · exact .inr ⟨_, hcommand, .identPrefix hraw⟩
  · intro generate hgenerate seed
    change update.generate.or config.generate = some generate at hgenerate
    rcases Option.or_eq_some_iff.mp hgenerate with hnew | ⟨-, hold⟩
    · exact .inr ⟨_, hcommand, .product hnew seed⟩
    · exact houtfitted.products generate hold seed

theorem outfitted_moments : ∀ moment ∈ moments host commands (.start {} state),
    Outfitted commands moment.session.cache.config := by
  refine (runAll_keeps host (fun later => Outfitted commands later.cache.config)
    (.start commands) ?_).1
  intro moment hmoment houtfitted
  rcases config_run host moment.now moment.session moment.command with
    hsame | ⟨update, hcommand, hupdated⟩
  · rw [Moment.next, hsame]
    exact houtfitted
  · rw [Moment.next, hupdated]
    have hmem := mem_of_mem_moments host hmoment
    rw [hcommand] at hmem
    exact houtfitted.apply hmem

/-- An issued identifier is a name, and starts amiss just if what was supplied for its start does. -/
theorem start_of_issue {issue : Issue}
    (hissue : issue ∈ issues host commands (.start {} state)) :
    issue.identifier.IsName ∧
      ∃ text, Supplied commands text ∧ issue.identifier.startsAmiss = text.startsAmiss := by
  obtain ⟨moment, hmoment, hmade⟩ := List.mem_filterMap.mp hissue
  obtain ⟨hrequest, hcache, -⟩ := Moment.issue?_eq_some_iff.mp hmade
  have houtfitted := outfitted_moments moment hmoment
  rw [hcache] at houtfitted
  have hissued : Made issue.cache.config issue.request.options? issue.seed issue.identifier :=
    Identifier.made_issue _ _ _
  refine ⟨Identifier.isName_of_made hissued houtfitted.isName, ?_⟩
  generalize issue.identifier = identifier at hissued
  cases hissued with
  | bare hoptions hname hbare =>
    exact ⟨_, .inr ⟨_, mem_of_mem_moments host hmoment, .name hrequest hoptions hname hbare⟩, rfl⟩
  | generated hgenerate => exact ⟨_, houtfitted.products _ hgenerate issue.seed, rfl⟩
  | prefixed =>
    exact ⟨_, houtfitted.identPrefix, Text.startsAmiss_hyphen houtfitted.isName.ne_nil _⟩

theorem isValid_invalid : Identifier.IsValid Identifier.invalid := by decide

/-- Whatever is asked for, the identifier of an answer has the right characters, no digit in front and a class selector that is a single one; and it is valid unless some command supplied a start with a hyphen that stands alone or before a digit. -/
theorem isName_of_answer (host : Host σ) (state : σ) (commands : List (Time × Command))
    (hanswer : .identifier identifier ∈ (runAll host commands (.start {} state)).1) :
    identifier.IsName ∧
      Selector.split identifier.classSelector = [identifier.classSelector] ∧
      (identifier.IsValid ∨
        ∃ timed ∈ commands, ∃ text, timed.2.Supplies text ∧ text.startsAmiss = true) := by
  have hstart : identifier.IsName ∧ (identifier.IsValid ∨
      ∃ timed ∈ commands, ∃ text, timed.2.Supplies text ∧ text.startsAmiss = true) := by
    rcases issued_of_answer hanswer with rfl | ⟨issue, hissue, rfl⟩
    · exact ⟨isValid_invalid.toIsName, .inl isValid_invalid⟩
    · obtain ⟨hname, text, hsupplied, hsame⟩ := start_of_issue hissue
      refine ⟨hname, ?_⟩
      cases hamiss : text.startsAmiss with
      | false => exact .inl (Identifier.isValid_iff.mpr ⟨hname, hsame.trans hamiss⟩)
      | true =>
        rcases hsupplied with rfl | ⟨timed, htimed, hsupplies⟩
        · exact absurd hamiss (by decide)
        · exact .inr ⟨timed, htimed, text, hsupplies, hamiss⟩
  exact ⟨hstart.1, Selector.split_classSelector hstart.1.toIsFragment, hstart.2⟩

/-- A prefix and a label that cannot stay as they are, then a bare name and a generator that start with a hyphen. -/
def hyphens : List (Time × Command) :=
  [(0, .configure { identPrefix := some "2 été".toList, debug := some true }),
    (1, .style [("top".toList, .number .zero)] ⟨none, some "café".toList, true⟩),
    (2, .style [("top".toList, .number .zero)] ⟨some "-1st".toList, none, false⟩),
    (3, .configure { generate := some fun _ => "-".toList }),
    (4, .style [("top".toList, .number .zero)] {})]

theorem isName_hyphens :
    .identifier "_2--t--caf--370nrd1".toList ∈
        (runAll Sheet.host hyphens (.start {} [])).1 ∧
      Text.IsName "_2--t--caf--370nrd1".toList ∧
      Selector.split (Identifier.classSelector "_2--t--caf--370nrd1".toList) =
        [Identifier.classSelector "_2--t--caf--370nrd1".toList] ∧
      (Identifier.IsValid "_2--t--caf--370nrd1".toList ∨
        ∃ timed ∈ hyphens, ∃ text, timed.2.Supplies text ∧ text.startsAmiss = true) := by
  have hanswer : .identifier "_2--t--caf--370nrd1".toList ∈
      (runAll Sheet.host hyphens (.start {} [])).1 := by
    decide +kernel
  exact ⟨hanswer, isName_of_answer Sheet.host [] hyphens hanswer⟩

/-- A digit after a hyphen gets nothing in front of it, and a hyphen may be all there is. -/
theorem not_isValid_hyphens :
    (.identifier "-1st".toList ∈ (runAll Sheet.host hyphens (.start {} [])).1 ∧
        ¬Identifier.IsValid "-1st".toList) ∧
      .identifier "-".toList ∈ (runAll Sheet.host hyphens (.start {} [])).1 ∧
        ¬Identifier.IsValid "-".toList := by
  exact ⟨⟨by decide +kernel, by decide⟩, by decide +kernel, by decide⟩

end Command

end Stylesheet
