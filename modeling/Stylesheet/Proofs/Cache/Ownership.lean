import Stylesheet.Proofs.Cache.Origin
import Stylesheet.Sink.Rack

/-!
# Whose entry an item settles

A flush marks or drops the entry that still has the fingerprint and the identifier of the item it delivers. The item may have outlived its own entry, and the same request may have been made again since. Then the new entry has another identifier, so it is left alone, as long as identifiers do not come again; the default scheme sees to that, and for custom and generated names it is a hypothesis. Without it an item can take away an entry that is not its own.
-/

namespace Stylesheet

variable {σ : Type}

/-! ### Items as a flush handles them -/

/-- An item about to be delivered by a flush, with the number of its issue, and the numbers for the entries of the session. -/
structure Handling (σ : Type) where
  session : Session σ
  marked : Marked
  maker? : RuleKind → Fingerprint → Option Nat

/-- Delivering the item takes this entry out of its store or changes it. -/
def Handling.Touches (host : Host σ) (handling : Handling σ) (kind : RuleKind)
    (stored : Fingerprint × Cache.Entry) : Prop :=
  stored ∈ handling.session.cache.store kind ∧
    stored ∉ (handling.session.settle host handling.marked.item).2.cache.store kind

instance (host : Host σ) (handling : Handling σ) (kind : RuleKind)
    (stored : Fingerprint × Cache.Entry) : Decidable (handling.Touches host kind stored) :=
  inferInstanceAs (Decidable (_ ∧ _))

/-- The items of a flush, each as it is settled; nothing is made during a flush, so the numbers for entries stay what they are. -/
def Session.handlings (host : Host σ) (maker? : RuleKind → Fingerprint → Option Nat) :
    List Marked → Session σ → List (Handling σ)
  | [], _ => []
  | marked :: rest, session =>
    ⟨session, marked, maker?⟩ :: handlings host maker? rest (session.settle host marked.item).2

/-- Settling items one after the other is going through their handlings. -/
theorem Session.settleAll_handlings (host : Host σ)
    (maker? : RuleKind → Fingerprint → Option Nat) (marks : List Marked) (session : Session σ) :
    (session.settleAll host (marks.map Marked.item)).2 =
      (session.handlings host maker? marks).foldl
        (fun _ handling => (handling.session.settle host handling.marked.item).2) session := by
  induction marks generalizing session with
  | nil => rfl
  | cons marked rest ih => exact ih (session.settle host marked.item).2

def Moment.handlings (host : Host σ) (origins : Origins) (moment : Moment σ) :
    List (Handling σ) :=
  match moment.flush? with
  | none => []
  | some (mode, budget) =>
    (moment.session.modify fun cache =>
      { cache with queue := (cache.queue.drain mode budget).2 }).handlings host origins.maker?
        (Marked.drain mode budget origins.queue).1

/-- All items that the flushes of a run handle, in order. -/
def Command.handlings (host : Host σ) (commands : List (Time × Command)) (session : Session σ) :
    List (Handling σ) :=
  (tracked host commands session {}).flatMap fun (moment, origins) =>
    moment.handlings host origins

/-! ### What settling an item touches -/

namespace Cache

variable {cache : Cache} {item : Waiting} {delivered : Bool} {kind : RuleKind}
  {stored : Fingerprint × Entry}

theorem Store.mem_conclude {store : Store} (hdistinct : store.Distinct) (hstored : stored ∈ store)
    (hother : ¬(stored.1 = item.fingerprint ∧ stored.2.identifier = item.identifier)) :
    stored ∈ item.conclude delivered store := by
  have hfingerprint (hcarries : store.carries item.fingerprint item.identifier = true) :
      stored.1 ≠ item.fingerprint := by
    intro heq
    rw [Store.carries_of_mem hdistinct hstored heq, decide_eq_true_eq] at hcarries
    exact hother ⟨heq, hcarries⟩
  cases delivered with
  | true =>
    rw [Waiting.conclude, if_pos rfl, Store.markMaterialized]
    split
    · rename_i hcarries
      exact Store.mem_modify.mpr ⟨stored, hstored, (if_neg (hfingerprint hcarries)).symm⟩
    · exact hstored
  | false =>
    rw [Waiting.conclude, if_neg Bool.false_ne_true, Store.removeIfIssued]
    split
    · rename_i hcarries
      exact List.mem_filter.mpr ⟨hstored, decide_eq_true (hfingerprint hcarries)⟩
    · exact hstored

/-- Only the entry that carries the identifier of the item is not there any more as it was. -/
theorem carries_of_not_mem_concluded (hdistinct : cache.Distinct)
    (hstored : stored ∈ cache.store kind)
    (hgone : stored ∉ (cache.concluded item delivered).store kind) :
    item.kind.SharesStore kind ∧ stored.1 = item.fingerprint ∧
      stored.2.identifier = item.identifier := by
  rw [concluded, store_modifyStore] at hgone
  by_cases hshares : item.kind.SharesStore kind
  · rw [if_pos hshares] at hgone
    refine ⟨hshares, not_not.mp fun hother => hgone ?_⟩
    exact Store.mem_conclude (hdistinct.store kind) hstored hother
  · rw [if_neg hshares] at hgone
    exact absurd hstored hgone

end Cache

theorem Handling.Touches.carries {host : Host σ} {handling : Handling σ} {kind : RuleKind}
    {stored : Fingerprint × Cache.Entry} (htouches : handling.Touches host kind stored)
    (hdistinct : handling.session.cache.Distinct) :
    handling.marked.item.kind.SharesStore kind ∧ stored.1 = handling.marked.item.fingerprint ∧
      stored.2.identifier = handling.marked.item.identifier := by
  obtain ⟨hstored, hgone⟩ := htouches
  obtain ⟨settled, handover, hcache⟩ :=
    handling.session.settle_handover host handling.marked.item
  have hstores : settled.store kind = handling.session.cache.store kind := by
    obtain ⟨memory, counters, rfl⟩ := handover.frame
    exact Cache.store_congr rfl rfl kind
  exact Cache.carries_of_not_mem_concluded (hdistinct.handover handover) (hstores ▸ hstored)
    (hcache ▸ hgone)

/-! ### Handlings of a run -/

section Traced

variable {host : Host σ} {known : Set Issue} {handling : Handling σ}

/-- The item was queued and every entry was made by one of the issues, the one with its number. -/
structure Handling.Traced (known : Set Issue) (handling : Handling σ) : Prop where
  distinct : handling.session.cache.Distinct
  item : ∃ issue ∈ known, issue.Queued handling.marked
  entries : ∀ kind, ∀ stored ∈ handling.session.cache.store kind,
    ∃ issue ∈ known, issue.Made (handling.maker? kind stored.1) kind stored

theorem Session.traced_handlings {maker? : RuleKind → Fingerprint → Option Nat}
    {marks : List Marked} {session : Session σ} (hdistinct : session.cache.Distinct)
    (hmarks : ∀ marked ∈ marks, ∃ issue ∈ known, issue.Queued marked)
    (hentries : ∀ kind, ∀ stored ∈ session.cache.store kind,
      ∃ issue ∈ known, issue.Made (maker? kind stored.1) kind stored)
    (hhandling : handling ∈ session.handlings host maker? marks) : handling.Traced known := by
  induction marks generalizing session with
  | nil => exact absurd hhandling List.not_mem_nil
  | cons marked rest ih =>
    rcases List.mem_cons.mp hhandling with rfl | hlater
    · exact ⟨hdistinct, hmarks marked List.mem_cons_self, hentries⟩
    · refine ih (hdistinct.settle host marked.item)
        (fun other hother => hmarks other (List.mem_cons_of_mem _ hother))
        (fun kind stored hstored => ?_) hlater
      obtain ⟨old, hold, hremains⟩ :=
        Cache.Preserves.settle host session marked.item kind stored hstored
      obtain ⟨issue, hissue, hmade⟩ := hentries kind old hold
      exact ⟨issue, hissue, hmade.continues hremains.continues⟩

theorem Moment.traced_handlings {moment : Moment σ} {origins : Origins}
    (htraced : Stylesheet.Traced known moment.session.cache origins)
    (hhandling : handling ∈ moment.handlings host origins) : handling.Traced known := by
  rw [Moment.handlings] at hhandling
  split at hhandling
  · exact absurd hhandling List.not_mem_nil
  · rename_i mode budget _
    have hdrained : (moment.session.modify fun cache =>
        { cache with queue := (cache.queue.drain mode budget).2 }).cache.Distinct :=
      ⟨htraced.distinct.styles, htraced.distinct.keyframes⟩
    refine Session.traced_handlings hdrained (htraced.queue.drain mode budget).1.2
      (fun kind stored hstored => ?_) hhandling
    have hold : stored ∈ moment.session.cache.store kind := by
      rw [← Cache.store_congr rfl rfl kind]
      exact hstored
    exact htraced.entries kind stored hold

end Traced

namespace Command

variable (host : Host σ) (config : Config) (state : σ) {commands : List (Time × Command)}

/-- If no identifier comes again for one fingerprint, apart from what the default scheme makes, then no item of the queue touches an entry but the one of its own issue. -/
theorem own_of_touches
    (hnames : ∀ left ∈ issues host commands (.start config state),
      ∀ right ∈ issues host commands (.start config state),
      (left.isDefault && right.isDefault) = false →
      left.request.kind.SharesStore right.request.kind →
      left.seed.fingerprint = right.seed.fingerprint → left.identifier = right.identifier →
        left.number = right.number) :
    ∀ handling ∈ handlings host commands (.start config state), ∀ kind stored,
      handling.Touches host kind stored →
        handling.maker? kind stored.1 = some handling.marked.number := by
  intro handling hhandling kind stored htouches
  obtain ⟨⟨moment, origins⟩, hmoment, hhandled⟩ := List.mem_flatMap.mp hhandling
  have htraced : Traced {issue | issue ∈ issues host commands (.start config state)}
      moment.session.cache origins :=
    traced_of_mem_tracked host (.start _ config) (fun _ hissue => hissue) hmoment
  have hsession := Moment.traced_handlings htraced hhandled
  obtain ⟨hshares, hfingerprint, hidentifier⟩ := htouches.carries hsession.distinct
  obtain ⟨queued, hqueued, hqueues⟩ := hsession.item
  obtain ⟨made, hmade, hmakes⟩ := hsession.entries kind stored htouches.1
  have hsame : made.identifier = queued.identifier := by
    rw [← hmakes.identifier, hidentifier, hqueues.identifier]
  have hnumber : made.number = queued.number := by
    cases hdefault : made.isDefault && queued.isDefault with
    | true =>
      obtain ⟨hleft, hright⟩ := Bool.and_eq_true_iff.mp hdefault
      rw [← Issue.number_of_isDefault hleft, hsame, Issue.number_of_isDefault hright]
    | false =>
      refine hnames made hmade queued hqueued hdefault ?_ ?_ hsame
      · rw [hqueues.kind] at hshares
        exact hmakes.kind.trans hshares.symm
      · rw [← hmakes.fingerprint, hfingerprint, hqueues.fingerprint]
  rw [hmakes.number, hnumber, hqueues.number]

/-- A style is asked for, swept out and asked for again, and then its two items are flushed one by one. -/
def renewed (options : StyleOptions) : List (Time × Command) :=
  let paint : Command := .style [("color".toList, .text "red".toList)] options
  [(0, paint), (700000, .evictAt 700000), (700000, paint), (700001, .flushIdle 1),
    (700002, .flushIdle 1)]

/-- A cache that queues everything for a sink that refuses everything. -/
def refusing : Session Rack :=
  .start { insertion := .idle, sink := .named "page".toList }
    (Rack.setModes "page".toList ⟨"fail".toList, .refuse⟩ .ok {})

/-- The number of every item that is handled, with the numbers of the styles it touches. -/
def settledStyles (options : StyleOptions) : List (Nat × List (Option Nat)) :=
  (handlings Rack.host (renewed options) refusing).map fun handling =>
    (handling.marked.number,
      (handling.session.cache.styles.filter fun stored =>
        decide (handling.Touches Rack.host .style stored)).map fun stored =>
          handling.maker? .style stored.1)

theorem own_of_touches_renewed :
    settledStyles {} = [(1, []), (2, [some 2])] ∧
      (∀ left ∈ issues Rack.host (renewed {}) refusing,
        ∀ right ∈ issues Rack.host (renewed {}) refusing,
        (left.isDefault && right.isDefault) = false →
        left.request.kind.SharesStore right.request.kind →
        left.seed.fingerprint = right.seed.fingerprint → left.identifier = right.identifier →
          left.number = right.number) ∧
      ∀ handling ∈ handlings Rack.host (renewed {}) refusing, ∀ kind stored,
        handling.Touches Rack.host kind stored →
          handling.maker? kind stored.1 = some handling.marked.number := by
  have hnames : ∀ left ∈ issues Rack.host (renewed {}) refusing,
      ∀ right ∈ issues Rack.host (renewed {}) refusing,
      (left.isDefault && right.isDefault) = false →
      left.request.kind.SharesStore right.request.kind →
      left.seed.fingerprint = right.seed.fingerprint → left.identifier = right.identifier →
        left.number = right.number := by
    decide +kernel
  exact ⟨by decide +kernel, hnames, own_of_touches Rack.host _ _ hnames⟩

/-- With a name of its own the style gets the same identifier again, and the item of the first call takes away the entry that the second one made. -/
theorem drops_newer :
    ∃ handling ∈ handlings Rack.host (renewed ⟨some "note".toList, none, true⟩) refusing,
      ∃ stored ∈ handling.session.cache.store .style, handling.Touches Rack.host .style stored ∧
        handling.maker? .style stored.1 = some 2 ∧ handling.marked.number = 1 := by
  decide +kernel

end Command

end Stylesheet
