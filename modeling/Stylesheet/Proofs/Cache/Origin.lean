import Stylesheet.Proofs.Cache.Backlog
import Stylesheet.Proofs.Cache.Turnover

/-!
# Where entries and waiting items come from

The cache does not keep which issue made an entry or put an item into the queue: an item and its entry have only a fingerprint and an identifier in common. Here both are followed beside the run, by the number of the issue. The numbers are given out by looking at the cache before and after each command, so they rest on nothing that the cache itself goes by: a new item or a new entry gets the number that the command uses up, and everything else keeps the one it has.

`Traced` ties the numbers to the run: whatever has a number was queued or made by the issue with this number.
-/

namespace Stylesheet

variable {σ : Type}

/-! ### Items with numbers -/

/-- An item of the queue with the number of the issue that it comes from. -/
structure Marked where
  item : Cache.Waiting
  number : Nat

namespace Marked

/-- Takes from the marked items what a flush takes from the queue. -/
def drain (mode : InsertionMode) : Nat → List Marked → List Marked × List Marked
  | _, [] => ([], [])
  | 0, queue => ([], queue)
  | budget + 1, marked :: rest =>
    if marked.item.mode = mode then
      let drained := drain mode budget rest
      (marked :: drained.1, drained.2)
    else
      let drained := drain mode (budget + 1) rest
      (drained.1, marked :: drained.2)

variable {mode : InsertionMode} {budget : Nat}

theorem map_drain (queue : List Marked) :
    ((drain mode budget queue).1.map item, (drain mode budget queue).2.map item) =
      Cache.Queue.drain mode budget (queue.map item) := by
  induction queue generalizing budget with
  | nil => cases budget <;> rfl
  | cons marked rest ih =>
    cases budget with
    | zero => rfl
    | succ budget =>
      rw [List.map_cons, Cache.Queue.drain, drain]
      split
      · simp only [← ih, List.map_cons]
      · simp only [← ih, List.map_cons]

theorem mem_drain {queue : List Marked} {marked : Marked} :
    marked ∈ queue ↔ marked ∈ (drain mode budget queue).1 ∨ marked ∈ (drain mode budget queue).2 := by
  induction queue generalizing budget with
  | nil => cases budget <;> simp [drain]
  | cons head rest ih =>
    cases budget with
    | zero => simp [drain]
    | succ budget =>
      by_cases hmode : head.item.mode = mode
      · simp [drain, hmode, @ih budget, or_assoc]
      · simp [drain, hmode, @ih (budget + 1), or_left_comm]

end Marked

/-! ### Origins along a run -/

/-- The numbers of the issues that the contents of a cache come from. -/
structure Origins where
  queue : List Marked := []
  /-- The number of the issue that made the entry under a fingerprint, if there is one. -/
  maker? : RuleKind → Fingerprint → Option Nat := fun _ _ => none

namespace Moment

variable (host : Host σ) (moment : Moment σ)

/-- The number that an issue uses up if the command begins with one. -/
def number : Nat := moment.session.cache.issued + 1

/-- What a command that takes nothing from the queue adds to it. -/
def queued : List Cache.Waiting :=
  (moment.next host).cache.queue.drop moment.session.cache.queue.length

end Moment

namespace Origins

/-- The numbers after a command. -/
def next (host : Host σ) (moment : Moment σ) (origins : Origins) : Origins where
  queue :=
    match moment.command, moment.flush? with
    | .clear, _ | .destroy, _ => []
    | _, some (mode, budget) => (Marked.drain mode budget origins.queue).2
    | _, none => origins.queue ++ (moment.queued host).map (⟨·, moment.number⟩)
  maker? kind fingerprint :=
    if ((moment.next host).cache.store kind).contains fingerprint then
      if (moment.session.cache.store kind).contains fingerprint then
        origins.maker? kind fingerprint
      else some moment.number
    else none

end Origins

/-- The moments of a run, each with the numbers for what the cache holds then. -/
def Command.tracked (host : Host σ) :
    List (Time × Command) → Session σ → Origins → List (Moment σ × Origins)
  | [], _, _ => []
  | (now, command) :: rest, session, origins =>
    let moment : Moment σ := ⟨session, now, command⟩
    (moment, origins) :: tracked host rest (moment.next host) (origins.next host moment)

/-! ### What the numbers say -/

/-- The issue put the item into the queue. -/
structure Issue.Queued (issue : Issue) (marked : Marked) : Prop where
  number : marked.number = issue.number
  kind : marked.item.kind = issue.request.kind
  fingerprint : marked.item.fingerprint = issue.seed.fingerprint
  identifier : marked.item.identifier = issue.identifier

theorem Issue.queued_of_item? {issue : Issue} {item : Cache.Waiting}
    (hitem : issue.item? = some item) : issue.Queued ⟨item, issue.number⟩ := by
  simp only [item?, Option.ite_none_left_eq_some, Option.some.injEq] at hitem
  obtain ⟨-, rfl⟩ := hitem
  exact ⟨rfl, rfl, rfl, rfl⟩

/-- The issue with this number made the entry. -/
structure Issue.Made (issue : Issue) (number : Option Nat) (kind : RuleKind)
    (stored : Fingerprint × Cache.Entry) : Prop where
  number : number = some issue.number
  kind : issue.request.kind.SharesStore kind
  fingerprint : stored.1 = issue.seed.fingerprint
  identifier : stored.2.identifier = issue.identifier

theorem Issue.Made.continues {issue : Issue} {maker? : RuleKind → Fingerprint → Option Nat}
    {kind : RuleKind} {old stored : Fingerprint × Cache.Entry}
    (hmade : issue.Made (maker? kind old.1) kind old) (hsame : Cache.Continues old stored) :
    issue.Made (maker? kind stored.1) kind stored where
  number := hsame.fingerprint ▸ hmade.number
  kind := hmade.kind
  fingerprint := hsame.fingerprint.symm.trans hmade.fingerprint
  identifier := hsame.identifier.symm.trans hmade.identifier

/-- The marked items are the queue, and each of them was put there by one of the issues. -/
def TracedQueue (known : Set Issue) (queue : Cache.Queue) (marks : List Marked) : Prop :=
  marks.map Marked.item = queue ∧ ∀ marked ∈ marks, ∃ issue ∈ known, issue.Queued marked

/-- Everything in a cache was queued or made by one of the issues, the one with its number. -/
structure Traced (known : Set Issue) (cache : Cache) (origins : Origins) : Prop where
  distinct : cache.Distinct
  queue : TracedQueue known cache.queue origins.queue
  entries : ∀ kind, ∀ stored ∈ cache.store kind,
    ∃ issue ∈ known, issue.Made (origins.maker? kind stored.1) kind stored

theorem Traced.start (known : Set Issue) (config : Config) :
    Traced known (.ofConfig config) {} where
  distinct := ⟨.nil, .nil⟩
  queue := ⟨rfl, fun _ hmarked => absurd hmarked List.not_mem_nil⟩
  entries kind _ hstored := by cases kind <;> exact absurd hstored List.not_mem_nil

/-! ### The numbers after a command -/

section Next

open Cache (Continues)

variable {host : Host σ} {moment : Moment σ} {known : Set Issue} {origins : Origins}

/-- What a store holds after a command was there before, or was made by the issue that the command began with. -/
theorem Moment.entries_next {kind : RuleKind} {stored : Fingerprint × Cache.Entry}
    (hstored : stored ∈ (moment.next host).cache.store kind) :
    (∃ old ∈ moment.session.cache.store kind, Continues old stored) ∨
      ((moment.session.cache.store kind).contains stored.1 = false ∧
        ∃ issue, moment.issue? = some issue ∧ issue.Made (some moment.number) kind stored) := by
  rw [Moment.next] at hstored
  cases hrequest : moment.command.request? with
  | none =>
    have heffect := Command.run_effect host moment.now moment.session hrequest
    exact .inl ((Command.effect_preserves heffect).descends kind stored hstored)
  | some request =>
    obtain ⟨resolution, hresolved⟩ :=
      Command.resolved_run host moment.now moment.session hrequest
    rcases hresolved.entries hstored with
      hold | ⟨hshares, hfingerprint, hidentifier, -, hcaching, hmissing⟩
    · exact .inl hold
    · have hissue : moment.issue? = some ⟨moment.session.cache, request⟩ :=
        Moment.issue?_eq_some_iff.mpr ⟨hrequest, rfl, hmissing⟩
      refine .inr ⟨?_, _, hissue, rfl, hshares, hfingerprint, hidentifier⟩
      rw [Cache.find?_eq hcaching, Cache.store_of_shares hshares] at hmissing
      rw [Cache.Store.contains, hfingerprint, hmissing, Option.isSome_none]

theorem TracedQueue.drain {queue : Cache.Queue} {marks : List Marked}
    (htraced : TracedQueue known queue marks) (mode : InsertionMode) (budget : Nat) :
    TracedQueue known (queue.drain mode budget).1 (Marked.drain mode budget marks).1 ∧
      TracedQueue known (queue.drain mode budget).2 (Marked.drain mode budget marks).2 := by
  obtain ⟨rfl, hissues⟩ := htraced
  rw [← Marked.map_drain]
  exact ⟨⟨rfl, fun marked hmarked => hissues marked (Marked.mem_drain.mpr (.inl hmarked))⟩,
    ⟨rfl, fun marked hmarked => hissues marked (Marked.mem_drain.mpr (.inr hmarked))⟩⟩

theorem TracedQueue.added
    (htraced : TracedQueue known moment.session.cache.queue origins.queue)
    (hknown : ∀ issue, moment.issue? = some issue → issue ∈ known) (hflush : moment.flush? = none)
    (hkept : moment.command.discards = false) :
    TracedQueue known (moment.next host).cache.queue
      (origins.queue ++ (moment.queued host).map (⟨·, moment.number⟩)) := by
  obtain ⟨hmarks, hissues⟩ := htraced
  rw [Moment.queued, Moment.queue_of_no_flush hflush hkept, List.drop_left]
  refine ⟨by simp [hmarks, Function.comp_def], fun marked hmarked => ?_⟩
  rcases List.mem_append.mp hmarked with hold | hnew
  · exact hissues marked hold
  · obtain ⟨item, hitem, rfl⟩ := List.mem_map.mp hnew
    obtain ⟨issue, hissue, hqueued⟩ := Option.bind_eq_some_iff.mp (Option.mem_toList.mp hitem)
    have hnumber : moment.number = issue.number := by
      rw [Moment.number, (Moment.issue?_eq_some_iff.mp hissue).2.1]
      rfl
    exact ⟨issue, hknown issue hissue, hnumber ▸ Issue.queued_of_item? hqueued⟩

theorem TracedQueue.next (htraced : TracedQueue known moment.session.cache.queue origins.queue)
    (hknown : ∀ issue, moment.issue? = some issue → issue ∈ known) :
    TracedQueue known (moment.next host).cache.queue (origins.next host moment).queue := by
  obtain ⟨session, now, command⟩ := moment
  cases command with
  | clear => exact ⟨rfl, fun _ hmarked => absurd hmarked List.not_mem_nil⟩
  | destroy =>
    refine ⟨?_, fun _ hmarked => absurd hmarked List.not_mem_nil⟩
    show [] = (session.destroy host).cache.queue
    rw [Session.cache_destroy]
    rfl
  | flushDeferred | flushIdle =>
    rw [Moment.queue_of_flush rfl]
    exact (htraced.drain _ _).2
  | _ => exact htraced.added hknown rfl rfl

theorem Traced.entries_next (htraced : Traced known moment.session.cache origins)
    (hknown : ∀ issue, moment.issue? = some issue → issue ∈ known) {kind : RuleKind}
    {stored : Fingerprint × Cache.Entry}
    (hstored : stored ∈ (moment.next host).cache.store kind) :
    ∃ issue ∈ known,
      issue.Made ((origins.next host moment).maker? kind stored.1) kind stored := by
  have hthere := Cache.Store.contains_of_mem hstored
  simp only [Origins.next, hthere, if_true]
  rcases Moment.entries_next hstored with ⟨old, hold, hsame⟩ | ⟨hnew, issue, hissue, hmade⟩
  · obtain ⟨issue, hmem, hmade⟩ := htraced.entries kind old hold
    have hbefore : (moment.session.cache.store kind).contains stored.1 = true :=
      hsame.fingerprint ▸ Cache.Store.contains_of_mem hold
    rw [hbefore, if_pos rfl]
    exact ⟨issue, hmem, hmade.continues hsame⟩
  · rw [hnew, if_neg Bool.false_ne_true]
    exact ⟨issue, hknown issue hissue, hmade⟩

theorem Traced.next (htraced : Traced known moment.session.cache origins)
    (hknown : ∀ issue, moment.issue? = some issue → issue ∈ known) :
    Traced known (moment.next host).cache (origins.next host moment) where
  distinct := htraced.distinct.turnover
    (Command.turnover_run host moment.now moment.session moment.command)
  queue := htraced.queue.next hknown
  entries _ _ hstored := htraced.entries_next hknown hstored

end Next

/-- Throughout a run everything that has a number was queued or made by the issue with that number. -/
theorem Command.traced_of_mem_tracked (host : Host σ) {known : Set Issue}
    {commands : List (Time × Command)} {session : Session σ} {origins : Origins}
    (htraced : Traced known session.cache origins)
    (hknown : ∀ issue ∈ issues host commands session, issue ∈ known)
    {moment : Moment σ} {current : Origins}
    (hmoment : (moment, current) ∈ tracked host commands session origins) :
    Traced known moment.session.cache current := by
  induction commands generalizing session origins with
  | nil => exact absurd hmoment List.not_mem_nil
  | cons head rest ih =>
    obtain ⟨now, command⟩ := head
    rw [issues_cons] at hknown
    rcases List.mem_cons.mp hmoment with heq | hlater
    · obtain ⟨rfl, rfl⟩ := Prod.mk.inj heq
      exact htraced
    · refine ih (htraced.next fun issue hissue => ?_) (fun issue hissue => ?_) hlater
      · exact hknown issue (List.mem_append_left _ (by rw [hissue]; exact List.mem_cons_self))
      · exact hknown issue (List.mem_append_right _ hissue)

end Stylesheet
