import Mathlib.Data.List.Basic
import Stylesheet.Proofs.Cache.Record
import Stylesheet.Proofs.Cache.Run

/-!
# The chronicle of a run

The memory of deliveries at the end of a run does not show in which order texts were taken, kept back and forgotten. A chronicle lists that, command by command. It is defined along the operations, never read by them, and the same for every host that does the same.
-/

namespace Stylesheet

variable {σ τ : Type}

/-! ### Happenings -/

/-- Something that bears on what a sink has or is known to have. -/
inductive Happening
  /-- A sink took a text, one that can come again or not as its request says; to remember it the memory may have had to start over. -/
  | accepted (sink : SinkId) (text : Text) (repeatable startedOver : Bool)
  | refused (sink : SinkId) (text : Text)
  /-- A text was kept from a sink that is known to have it. -/
  | skipped (sink : SinkId) (text : Text)
  /-- An entry with this text was swept out. -/
  | evicted (text : Text)
  | installed (sink : SinkId)
  | cleared
  | destroyed (sink : SinkId)
deriving DecidableEq

/-- The call of a sink that a happening tells of. -/
def Happening.event? : Happening → Option SinkEvent
  | accepted sink text _ _ => some (.accepted sink text)
  | refused sink text => some (.refused sink text)
  | destroyed sink => some (.released sink)
  | _ => none

/-! ### Looking back -/

/-- One of the happenings is of a sort, and none after it puts an end to that. -/
def Since (origin ending : Happening → Prop) (past : List Happening) : Prop :=
  ∃ before happening between, past = before ++ happening :: between ∧ origin happening ∧
    ∀ later ∈ between, ¬ending later

/-- Whatever happens is in order after what happened before it. -/
def Always (inOrder : List Happening → Happening → Prop) (past : List Happening) : Prop :=
  ∀ before happening, before ++ [happening] <+: past → inOrder before happening

section Concat

variable {past : List Happening} {happening : Happening}

theorem since_concat {origin ending : Happening → Prop} :
    Since origin ending (past ++ [happening]) ↔
      origin happening ∨ Since origin ending past ∧ ¬ending happening := by
  constructor
  · rintro ⟨before, first, between, hpast, horigin, hbetween⟩
    rcases List.eq_nil_or_concat' between with rfl | ⟨between, last, rfl⟩
    · obtain ⟨rfl, rfl⟩ := List.append_singleton_inj.mp hpast
      exact .inl horigin
    · rw [← List.cons_append, ← List.append_assoc] at hpast
      obtain ⟨rfl, rfl⟩ := List.append_singleton_inj.mp hpast
      exact .inr ⟨⟨before, first, between, rfl, horigin, fun later hlater =>
        hbetween later (List.mem_append_left _ hlater)⟩, hbetween happening (by simp)⟩
  · rintro (horigin | ⟨⟨before, first, between, rfl, horigin, hbetween⟩, hkept⟩)
    · exact ⟨past, happening, [], rfl, horigin, by simp⟩
    · refine ⟨before, first, between ++ [happening], by simp, horigin, fun later hlater => ?_⟩
      rcases List.mem_append.mp hlater with hold | hlast
      · exact hbetween later hold
      · obtain rfl := List.mem_singleton.mp hlast
        exact hkept

theorem always_nil {inOrder : List Happening → Happening → Prop} : Always inOrder [] := by
  intro before happening hprefix
  simp at hprefix

theorem Always.concat {inOrder : List Happening → Happening → Prop} (halways : Always inOrder past)
    (hlast : inOrder past happening) : Always inOrder (past ++ [happening]) := by
  intro before last hprefix
  rcases List.prefix_concat_iff.mp hprefix with heq | hearlier
  · obtain ⟨rfl, rfl⟩ := List.append_singleton_inj.mp heq
    exact hlast
  · exact halways before last hearlier

end Concat

/-! ### The happenings of a run -/

namespace Cache

variable (host : Host σ)

/-- Whether the memory starts over when the sink accepts a text. -/
def startsOver (repeatable : Bool) (cache : Cache) : Bool :=
  cache.remembers repeatable && cache.memory.isFull cache.memoryLimit

def deliveryHappenings (text : Text) (repeatable : Bool) (sinks : σ) (cache : Cache) :
    List Happening :=
  let sink := cache.config.sink
  if text.isEmpty then []
  else if cache.knows text repeatable then [.skipped sink text]
  else
    match (host.deliver sink text sinks).1 with
    | .ok () => [.accepted sink text repeatable (cache.startsOver repeatable)]
    | .error _ => [.refused sink text]

/-- Only a text that is sent at once meets the sink while its identifier is issued. -/
def issueHappenings (request : Request) (sinks : σ) (cache : Cache) : List Happening :=
  let config := cache.config
  let identifier := cache.nextIdentifier request
  if request.isHollow config.renderMode identifier then []
  else if config.insertion = .sync then
    cache.deliveryHappenings host (Session.finishedText config request identifier)
      (request.isRepeatable config) sinks
  else []

def sweepHappenings (now : Time) (cache : Cache) : List Happening :=
  (cache.evicted now).map fun entry => .evicted entry.text

def followUpHappenings (now : Time) (cache : Cache) : List Happening :=
  if cache.schedule.withinDebounce now cache.config.sweepDebounce then []
  else cache.sweepHappenings now

/-- What happens when an identifier was issued for a request and is put on record. -/
def recordHappenings (request : Request) (now : Time) (issued : Session.Issued) (cache : Cache) :
    List Happening :=
  if cache.config.caching = true ∧ issued.delivery.succeeded = true then
    (cache.enter request (issued.entry now)).countMiss.followUpHappenings now
  else []

end Cache

namespace Session

variable (host : Host σ)

def resolveHappenings (request : Request) (now : Time) (session : Session σ) : List Happening :=
  match session.cache.find? request with
  | some _ => []
  | none =>
    let outcome := session.issue host request
    session.cache.issueHappenings host request session.sinks
      ++ outcome.2.cache.recordHappenings request now outcome.1

def settleHappenings : List Cache.Waiting → Session σ → List Happening
  | [], _ => []
  | item :: rest, session =>
    session.cache.deliveryHappenings host item.text item.repeatable session.sinks
      ++ settleHappenings rest (session.settle host item).2

def flushHappenings (mode : InsertionMode) (budget : Nat) (session : Session σ) :
    List Happening :=
  let drained := session.cache.queue.drain mode budget
  settleHappenings host drained.1 (session.modify fun cache => { cache with queue := drained.2 })

end Session

namespace Command

variable (host : Host σ)

/-- What happens under a command that makes no request. -/
def otherHappenings (session : Session σ) : Command → List Happening
  | evictAt time => session.cache.sweepHappenings time
  | maintainAt time =>
    if session.cache.schedule.isDue time session.cache.config.sweepInterval then
      session.cache.sweepHappenings time
    else []
  | flushDeferred => session.flushHappenings host .deferred session.cache.queue.length
  | flushIdle budget => session.flushHappenings host .idle budget
  | configure update => update.sink.toList.map .installed
  | clear => [.cleared]
  | destroy => [.destroyed session.cache.config.sink]
  | _ => []

/-- What happens while a command is carried out, in order. -/
def happenings (now : Time) (session : Session σ) (command : Command) : List Happening :=
  match command.request? with
  | some request => session.resolveHappenings host request now
  | none => command.otherHappenings host session

/-- What happens during a run, in order. -/
def chronicle : List (Time × Command) → Session σ → List Happening
  | [], _ => []
  | (now, command) :: rest, session =>
    command.happenings host now session ++ chronicle rest (command.run host now session).2

end Command

/-! ### What a host sees -/

section Viewed

variable {view : τ → σ} {host : Host σ} {finer : Host τ} (hviewed : Host.Viewed view host finer)
include hviewed

theorem Cache.deliveryHappenings_viewed (text : Text) (repeatable : Bool) (state : τ)
    (cache : Cache) :
    cache.deliveryHappenings host text repeatable (view state) =
      cache.deliveryHappenings finer text repeatable state := by
  simp only [deliveryHappenings, hviewed.deliver]

theorem Session.resolveHappenings_viewed (request : Request) (now : Time) (session : Session τ) :
    (session.view view).resolveHappenings host request now =
      session.resolveHappenings finer request now := by
  simp only [resolveHappenings, Cache.issueHappenings, cache_view, sinks_view,
    Cache.deliveryHappenings_viewed hviewed, view_issue session hviewed]

theorem Session.settleHappenings_viewed (items : List Cache.Waiting) (session : Session τ) :
    (session.view view).settleHappenings host items = session.settleHappenings finer items := by
  induction items generalizing session with
  | nil => rfl
  | cons item rest ih =>
    simp only [settleHappenings, cache_view, sinks_view, view_settle session hviewed,
      Cache.deliveryHappenings_viewed hviewed, ih]

theorem Session.flushHappenings_viewed (mode : InsertionMode) (budget : Nat)
    (session : Session τ) : (session.view view).flushHappenings host mode budget =
      session.flushHappenings finer mode budget := by
  simp only [flushHappenings, cache_view, view_modify, settleHappenings_viewed hviewed]

theorem Command.happenings_viewed (now : Time) (session : Session τ) (command : Command) :
    command.happenings host now (session.view view) = command.happenings finer now session := by
  rw [happenings, happenings]
  split
  · exact session.resolveHappenings_viewed hviewed _ now
  · cases command with
    | flushDeferred | flushIdle => exact Session.flushHappenings_viewed hviewed _ _ session
    | _ => rfl

/-- What a host sees of its sinks does not change what happens. -/
theorem Command.chronicle_viewed (commands : List (Time × Command)) (session : Session τ) :
    chronicle host commands (session.view view) = chronicle finer commands session := by
  induction commands generalizing session with
  | nil => rfl
  | cons head rest ih =>
    simp only [chronicle, happenings_viewed hviewed, run_viewed hviewed, ih]

end Viewed

end Stylesheet
