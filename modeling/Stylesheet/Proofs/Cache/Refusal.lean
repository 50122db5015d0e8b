import Stylesheet.Proofs.Cache.Issue
import Stylesheet.Proofs.Cache.Path
import Stylesheet.Sink.Rack

/-!
# Requests that come to nothing

A request can fail late, when its identifier is issued, its text is finished and the sink refuses it; or it is turned away, before the stores are asked or after the compilation came to nothing. Whichever it is, the cache counts it and is otherwise as it was before. Faults of the input are told apart here by the input alone (`Faulty`); that they are all the faults there are is `faulty_iff`.
-/

namespace Stylesheet

variable {σ : Type}

/-! ### Faulty input -/

theorem Json.eq_object_of_kind {json : Json} (hkind : json.kind = .object) :
    ∃ members, json = .object members := by
  cases json with
  | object members => exact ⟨members, rfl⟩
  | _ => exact absurd hkind nofun

theorem Description.ofJson_of_kind {json : Json} (hroot : json.kind ≠ .object) :
    Description.ofJson json = .error (.notAMapping json.kind) := by
  cases json with
  | object members => exact absurd rfl hroot
  | _ => rfl

theorem Stops.ofJson_of_kind {json : Json} (hroot : json.kind ≠ .object) :
    Stops.ofJson json = .error (.notAMapping json.kind) := by
  cases json with
  | object members => exact absurd rfl hroot
  | _ => rfl

theorem Stops.ofMembers_of_mem {members : List (Text × Json)} {member : Text × Json}
    (hmember : member ∈ members) (hbody : member.2.kind ≠ .object) :
    ∃ error, Stops.ofMembers members = .error error := by
  induction members with
  | nil => exact absurd hmember List.not_mem_nil
  | cons first rest ih =>
    rw [ofMembers]
    rcases List.mem_cons.mp hmember with rfl | hrest
    · rw [Description.ofJson_of_kind hbody]
      exact ⟨_, rfl⟩
    · obtain ⟨error, herror⟩ := ih hrest
      rw [herror]
      cases Description.ofJson first.2 <;> exact ⟨_, rfl⟩

theorem Stops.ofMembers_of_forall {members : List (Text × Json)}
    (hbodies : ∀ member ∈ members, member.2.kind = .object) :
    ∃ stops, Stops.ofMembers members = .ok stops ∧ stops.length = members.length := by
  induction members with
  | nil => exact ⟨[], rfl, rfl⟩
  | cons first rest ih =>
    obtain ⟨stops, hstops, hlength⟩ := ih fun member hmember =>
      hbodies member (List.mem_cons_of_mem _ hmember)
    obtain ⟨label, json⟩ := first
    obtain ⟨body, rfl⟩ := Json.eq_object_of_kind (hbodies _ List.mem_cons_self)
    rw [ofMembers, hstops]
    exact ⟨_, rfl, congrArg (· + 1) hlength⟩

namespace Command

/-- The command asks for an identifier or for global rules. -/
def asks : Command → Bool
  | style .. | styleJson .. | keyframes .. | keyframesJson .. | global .. => true
  | _ => false

theorem asks_of_request? {command : Command} {request : Request}
    (hrequest : command.request? = some request) : command.asks = true := by
  cases command with
  | style | styleJson | keyframes | keyframesJson | global => rfl
  | _ => exact absurd hrequest nofun

/-- What the command comes with cannot be the content of a request. -/
inductive Faulty : Command → Prop
  | description {json : Json} {options : StyleOptions} (hroot : json.kind ≠ .object) :
    Faulty (.styleJson json options)
  | stops {json : Json} (hroot : json.kind ≠ .object) : Faulty (.keyframesJson json)
  | body {members : List (Text × Json)} {member : Text × Json} (hmember : member ∈ members)
    (hbody : member.2.kind ≠ .object) : Faulty (.keyframesJson (.object members))
  | noStops : Faulty (.keyframes [])
  | noMembers : Faulty (.keyframesJson (.object []))
  | blank {selector : Text} {description : Description} (hblank : selector.trim = []) :
    Faulty (.global selector description)

variable {command : Command}

theorem Faulty.asks (hfaulty : command.Faulty) : command.asks = true := by
  cases hfaulty <;> rfl

theorem Faulty.request? (hfaulty : command.Faulty) : command.request? = none := by
  cases hfaulty with
  | description hroot => rw [Command.request?, Description.ofJson_of_kind hroot]; rfl
  | stops hroot => rw [Command.request?, Stops.ofJson_of_kind hroot]; rfl
  | body hmember hbody =>
    obtain ⟨error, herror⟩ := Stops.ofMembers_of_mem hmember hbody
    rw [Command.request?, Stops.ofJson, herror]
    rfl
  | noStops | noMembers => rfl
  | blank hblank => rw [Command.request?, hblank]; rfl

theorem Faulty.run (hfaulty : command.Faulty) (host : Host σ) (now : Time)
    (session : Session σ) : ∃ reason, (command.run host now session).2 = session.reject reason := by
  cases hfaulty with
  | description hroot => exact ⟨_, by rw [Command.run, Description.ofJson_of_kind hroot]; rfl⟩
  | stops hroot => exact ⟨_, by rw [Command.run, Stops.ofJson_of_kind hroot]; rfl⟩
  | body hmember hbody =>
    obtain ⟨error, herror⟩ := Stops.ofMembers_of_mem hmember hbody
    exact ⟨_, by rw [Command.run, Stops.ofJson, herror]; rfl⟩
  | noStops | noMembers => exact ⟨_, rfl⟩
  | blank hblank => exact ⟨_, by rw [Command.run, Session.inject, hblank]; rfl⟩

/-- A command that asks for something makes a request, unless it is faulty. -/
theorem faulty_iff : command.Faulty ↔ command.asks = true ∧ command.request? = none := by
  refine ⟨fun hfaulty => ⟨hfaulty.asks, hfaulty.request?⟩, ?_⟩
  rintro ⟨hasks, hrequest⟩
  cases command with
  | style description options => exact absurd hrequest (Option.some_ne_none _)
  | styleJson json options =>
    by_cases hroot : json.kind = .object
    · obtain ⟨members, rfl⟩ := Json.eq_object_of_kind hroot
      exact absurd hrequest (Option.some_ne_none _)
    · exact .description hroot
  | keyframes stops =>
    cases stops with
    | nil => exact .noStops
    | cons stop rest => exact absurd hrequest (Option.some_ne_none _)
  | keyframesJson json =>
    by_cases hroot : json.kind = .object
    · obtain ⟨members, rfl⟩ := Json.eq_object_of_kind hroot
      by_cases hbodies : ∀ member ∈ members, member.2.kind = .object
      · obtain ⟨stops, hstops, hlength⟩ := Stops.ofMembers_of_forall hbodies
        rw [Command.request?, Stops.ofJson, hstops] at hrequest
        cases members with
        | nil => exact .noMembers
        | cons first rest =>
          obtain ⟨stop, others, rfl⟩ := List.exists_cons_of_length_eq_add_one hlength
          exact absurd hrequest (Option.some_ne_none _)
      · obtain ⟨member, hmember⟩ := not_forall.mp hbodies
        obtain ⟨hmember, hbody⟩ := Classical.not_imp.mp hmember
        exact .body hmember hbody
    · exact .stops hroot
  | global selector description =>
    by_cases hblank : selector.trim = []
    · exact .blank hblank
    · rw [Command.request?, if_neg fun hempty => hblank (List.isEmpty_iff.mp hempty)] at hrequest
      exact absurd hrequest (Option.some_ne_none _)
  | _ => exact absurd hasks Bool.false_ne_true

end Command

/-! ### What is counted as a rejection -/

namespace Cache

theorem recorded_of_failed {issued : Session.Issued} (hfailed : issued.delivery = .failed)
    (request : Request) (now : Time) (cache : Cache) :
    cache.recorded request now issued = cache.countMiss := by
  have hlost : ¬(cache.config.caching = true ∧ issued.delivery.succeeded = true) := by
    rw [hfailed]
    exact fun hboth => Bool.false_ne_true hboth.2
  have hreal : issued.delivery ≠ .rejected := by
    rw [hfailed]
    decide
  rw [recorded, if_neg hreal, if_neg hlost]

theorem rejections_recorded (request : Request) (now : Time) (issued : Session.Issued)
    (cache : Cache) :
    (cache.recorded request now issued).counters.rejections = cache.counters.rejections := by
  have hfollowed (later : Cache) :
      (later.followedUp now).counters.rejections = later.counters.rejections := by
    rw [followedUp]
    split <;> rfl
  rw [recorded]
  split
  · rfl
  split
  · rw [hfollowed, enter, modifyStore_eq]
    rfl
  · rfl

end Cache

/-- A request is rejected only if it is issued an identifier and compiles to nothing. -/
theorem Session.Resolved.rejections {host : Host σ} {request : Request} {now : Time}
    {cache after : Cache} {sinks sinksAfter : σ} {resolution : Resolution}
    (hresolved : Resolved host request now cache sinks resolution after sinksAfter) :
    after.counters.rejections = cache.counters.rejections ∨
      (cache.find? request = none ∧
        request.isHollow cache.config.renderMode (cache.nextIdentifier request) = true) := by
  cases hresolved with
  | hit =>
    left
    rw [Cache.touch, Cache.modifyStore_eq]
    rfl
  | missed hmissing hissue =>
    rw [Cache.rejections_recorded]
    cases hissue with
    | hollow hhollow => exact .inr ⟨hmissing, hhollow⟩
    | sent _ _ handover =>
      left
      cases handover with
      | skipped | refused => rfl
      | accepted => rw [Cache.accepted_eq]; rfl
    | blank | queued => exact .inl rfl

/-! ### Refusals -/

/-- If the sink refuses the text of a request, the request was a miss whose text was sent at once, and nothing comes of it but the counts. -/
theorem Session.Resolved.of_refused {host : Host σ} {request : Request} {now : Time}
    {cache after : Cache} {sinks : σ} {state : σ × List SinkEvent} {resolution : Resolution}
    {sink : SinkId} {text : Text}
    (hresolved : Resolved host.recording request now cache (sinks, []) resolution after state)
    (hrefused : .refused sink text ∈ state.2) :
    after = cache.advance.countFailure.countMiss ∧ state.2 = [.refused sink text] ∧
      cache.find? request = none ∧ cache.config.insertion = .sync := by
  -- Only a text that is sent at once reaches a sink, and a delivery leaves one record of how it went.
  cases hresolved with
  | hit => exact absurd hrefused List.not_mem_nil
  | missed hmissing hissue =>
    cases hissue with
    | hollow | blank | queued => exact absurd hrefused List.not_mem_nil
    | sent _ hsync handover =>
      cases handover with
      | skipped => exact absurd hrefused List.not_mem_nil
      | accepted _ _ hok =>
        rw [Host.recorded_of_deliver hok] at hrefused
        exact absurd (List.mem_singleton.mp hrefused) nofun
      | refused _ _ herror =>
        have hrecord := Host.recorded_of_deliver herror
        rw [hrecord] at hrefused
        rw [hrecord, List.mem_singleton.mp hrefused]
        exact ⟨Cache.recorded_of_failed rfl request now _, rfl, hmissing, hsync⟩

theorem Session.Resolved.of_hollow {host : Host σ} {request : Request} {now : Time}
    {cache after : Cache} {sinks sinksAfter : σ} {resolution : Resolution}
    (hresolved : Resolved host request now cache sinks resolution after sinksAfter)
    (hmissing : cache.find? request = none)
    (hhollow : request.isHollow cache.config.renderMode (cache.nextIdentifier request) = true) :
    after = cache.advance.countRejection ∧ sinksAfter = sinks := by
  obtain ⟨issued, issuedCache, hissue, rfl⟩ := hresolved.of_miss hmissing
  cases hissue with
  | hollow => exact ⟨rfl, rfl⟩
  | sent hfull | blank hfull | queued hfull =>
    exact absurd (hfull.symm.trans hhollow) Bool.false_ne_true

namespace Moment

/-- The command is rejected: it is faulty, or it is a request without an entry that compiles to nothing, which uses up one number. -/
inductive Rejected (moment : Moment σ) : Nat → Prop
  | faulty (hfaulty : moment.command.Faulty) : Rejected moment 0
  | hollow {issue : Issue} (hissue : moment.issue? = some issue)
    (hhollow : issue.request.isHollow issue.cache.config.renderMode issue.identifier = true) :
    Rejected moment 1

variable (host : Host σ) (moment : Moment σ)

/-- The same command under a record of the sinks, which is empty at first. -/
theorem run_recording :
    moment.command.run host.recording moment.now
        ⟨moment.session.cache, (moment.session.sinks, []), moment.session.notices⟩ =
      (moment.answer host, ⟨(moment.next host).cache,
        ((moment.next host).sinks, moment.events host), (moment.next host).notices⟩) := by
  have hsame := Command.run_viewed host.viewed_recording moment.now
    ⟨moment.session.cache, (moment.session.sinks, []), moment.session.notices⟩ moment.command
  have hanswer : moment.answer host = _ := congrArg Prod.fst hsame
  have hnext : moment.next host = _ := congrArg Prod.snd hsame
  rw [hanswer, hnext]
  rfl

theorem resolved_recording {request : Request}
    (hrequest : moment.command.request? = some request) :
    ∃ resolution, Session.Resolved host.recording request moment.now moment.session.cache
      (moment.session.sinks, []) resolution (moment.next host).cache
      ((moment.next host).sinks, moment.events host) := by
  obtain ⟨resolution, hresolved⟩ := Command.resolved_run host.recording moment.now
    ⟨moment.session.cache, (moment.session.sinks, []), moment.session.notices⟩ hrequest
  rw [run_recording] at hresolved
  exact ⟨resolution, hresolved⟩

theorem next_of_faulty (hfaulty : moment.command.Faulty) :
    (moment.next host).cache = moment.session.cache.countRejection ∧
      (moment.next host).sinks = moment.session.sinks ∧ moment.events host = [] := by
  obtain ⟨reason, hreject⟩ := hfaulty.run host.recording moment.now
    ⟨moment.session.cache, (moment.session.sinks, []), moment.session.notices⟩
  rw [run_recording] at hreject
  obtain ⟨hcache, hsinks, -⟩ := Session.mk.inj hreject
  obtain ⟨hstate, hevents⟩ := Prod.mk.inj hsinks
  exact ⟨hcache, hstate, hevents⟩

theorem next_of_hollow {issue : Issue} (hissue : moment.issue? = some issue)
    (hhollow : issue.request.isHollow issue.cache.config.renderMode issue.identifier = true) :
    (moment.next host).cache = moment.session.cache.advance.countRejection ∧
      (moment.next host).sinks = moment.session.sinks ∧ moment.events host = [] := by
  obtain ⟨hrequest, hcache, hmissing⟩ := Moment.issue?_eq_some_iff.mp hissue
  rw [← hcache] at hmissing hhollow
  obtain ⟨resolution, hresolved⟩ := moment.resolved_recording host hrequest
  rw [Issue.identifier, ← hcache] at hhollow
  obtain ⟨hafter, hsinks⟩ := hresolved.of_hollow hmissing hhollow
  obtain ⟨hstate, hevents⟩ := Prod.mk.inj hsinks
  exact ⟨hafter, hstate, hevents⟩

/-- A command that counts a rejection while it asks for something is rejected in one of the two ways. -/
theorem rejected_of_counted (hasks : moment.command.asks = true)
    (hcounted : (moment.next host).cache.counters.rejections ≠
      moment.session.cache.counters.rejections) : ∃ numbers, moment.Rejected numbers := by
  cases hrequest : moment.command.request? with
  | none => exact ⟨0, .faulty (Command.faulty_iff.mpr ⟨hasks, hrequest⟩)⟩
  | some request =>
    obtain ⟨resolution, hresolved⟩ := moment.resolved_recording host hrequest
    rcases hresolved.rejections with hsame | ⟨hmissing, hhollow⟩
    · exact absurd hsame hcounted
    · have hissue : moment.issue? = some ⟨moment.session.cache, request⟩ :=
        Moment.issue?_eq_some_iff.mpr ⟨hrequest, rfl, hmissing⟩
      exact ⟨1, .hollow hissue hhollow⟩

/-- If the sink refuses the text of a request, the request was a miss, its text was sent at once, and all that is left of it is a number that was used up, a miss and a failure; and that is all that reached a sink. A rejected command leaves the rejection and at most a number, and no sink hears of it; and commands are counted as rejected for no other reason. -/
theorem next_of_failure :
    (∀ sink text, moment.command.asks = true → .refused sink text ∈ moment.events host →
      (moment.next host).cache =
          { moment.session.cache with
            issued := moment.session.cache.issued + 1
            counters :=
              { moment.session.cache.counters with
                misses := moment.session.cache.counters.misses + 1
                failures := moment.session.cache.counters.failures + 1 } } ∧
        moment.events host = [.refused sink text] ∧
        moment.issue?.isSome = true ∧ moment.session.cache.config.insertion = .sync) ∧
    (∀ numbers, moment.Rejected numbers →
      (moment.next host).cache =
          { moment.session.cache with
            issued := moment.session.cache.issued + numbers
            counters :=
              { moment.session.cache.counters with
                rejections := moment.session.cache.counters.rejections + 1 } } ∧
        (moment.next host).sinks = moment.session.sinks ∧ moment.events host = []) ∧
    (moment.command.asks = true →
      (moment.next host).cache.counters.rejections ≠ moment.session.cache.counters.rejections →
        ∃ numbers, moment.Rejected numbers) := by
  refine ⟨?refused, ?rejected, moment.rejected_of_counted host⟩
  case refused =>
    intro sink text hasks hrefused
    cases hrequest : moment.command.request? with
    | none =>
      obtain ⟨-, -, hnothing⟩ :=
        moment.next_of_faulty host (Command.faulty_iff.mpr ⟨hasks, hrequest⟩)
      exact absurd (hnothing ▸ hrefused) List.not_mem_nil
    | some request =>
      obtain ⟨resolution, hresolved⟩ := moment.resolved_recording host hrequest
      obtain ⟨hafter, hevents, hmissing, hsync⟩ := hresolved.of_refused hrefused
      have hissue : moment.issue? = some ⟨moment.session.cache, request⟩ :=
        Moment.issue?_eq_some_iff.mpr ⟨hrequest, rfl, hmissing⟩
      exact ⟨hafter, hevents, hissue ▸ rfl, hsync⟩
  case rejected =>
    intro numbers hrejected
    cases hrejected with
    | faulty hfaulty => exact moment.next_of_faulty host hfaulty
    | hollow hissue hhollow => exact moment.next_of_hollow host hissue hhollow

/-- A named sheet that refuses everything, as the sink of a fresh cache. -/
def refusing : Session Rack :=
  .start { sink := .named "strict".toList }
    (Rack.setModes "strict".toList ⟨"no".toList, .refuse⟩ .ok {})

def refusedPaint : Moment Rack :=
  ⟨refusing, 0, .style [("color".toList, .text "red".toList)] {}⟩

/-- An animation with a stop, but without a declaration. -/
def stillAnimation : Moment Rack := ⟨refusing, 0, .keyframes [("from".toList, [])]⟩

def noAnimation : Moment Rack := ⟨refusing, 0, .keyframes []⟩

theorem next_of_failure_refusing :
    ((refusedPaint.next Rack.host).cache.counters = { misses := 1, failures := 1 } ∧
      (refusedPaint.next Rack.host).cache.styles = [] ∧
      refusedPaint.events Rack.host =
        [.refused (.named "strict".toList) ".css-1wi8o31 { color: red; }".toList]) ∧
    ((stillAnimation.next Rack.host).cache.counters = { rejections := 1 } ∧
      (stillAnimation.next Rack.host).cache.issued = 1 ∧ stillAnimation.events Rack.host = []) ∧
    (noAnimation.next Rack.host).cache.counters = { rejections := 1 } ∧
      (noAnimation.next Rack.host).cache.issued = 0 ∧ noAnimation.events Rack.host = [] := by
  have hrefused : SinkEvent.refused (.named "strict".toList) ".css-1wi8o31 { color: red; }".toList ∈
      refusedPaint.events Rack.host := by decide +kernel
  obtain ⟨hpaint, hcalls, -⟩ := (next_of_failure Rack.host refusedPaint).1 _ _ rfl hrefused
  have hissue : stillAnimation.issue? =
      some ⟨refusing.cache, .keyframes [("from".toList, [])]⟩ :=
    Moment.issue?_eq_some_iff.mpr ⟨rfl, rfl, by decide +kernel⟩
  have hhollow : stillAnimation.Rejected 1 := .hollow hissue (by decide +kernel)
  obtain ⟨hstill, -, hsilent⟩ := (next_of_failure Rack.host stillAnimation).2.1 1 hhollow
  obtain ⟨hnone, -, hquiet⟩ := (next_of_failure Rack.host noAnimation).2.1 0 (.faulty .noStops)
  refine ⟨⟨?_, ?_, hcalls⟩, ⟨?_, ?_, hsilent⟩, ?_, ?_, hquiet⟩
  · rw [hpaint]
    rfl
  · rw [hpaint]
    rfl
  · rw [hstill]
    rfl
  · rw [hstill]
    rfl
  · rw [hnone]
    rfl
  · rw [hnone]
    rfl

end Moment

end Stylesheet
