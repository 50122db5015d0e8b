import Stylesheet.Proofs.Cache.Outcome
import Stylesheet.Proofs.Cache.Store

/-!
# Entries and the queue

An entry is held by the cache in one of two ways: it is materialized and its text is backed by whatever a delivery stands for, or an item waits in the queue that belongs to it. `Held` says this of every entry, for any meaning of "backed", and while a flush works through the items it took out these still count. Each operation on the cache keeps it, with what it has to show for that as a hypothesis.
-/

namespace Stylesheet

namespace Cache

/-- An item with the store, fingerprint, identifier and text of an entry. -/
structure Waiting.BelongsTo (item : Waiting) (kind : RuleKind) (stored : Fingerprint × Entry) :
    Prop where
  kind : item.kind.SharesStore kind
  fingerprint : item.fingerprint = stored.1
  identifier : item.identifier = stored.2.identifier
  text : item.text = stored.2.text

/-- Both stores have distinct fingerprints. -/
structure Distinct (cache : Cache) : Prop where
  styles : cache.styles.Distinct
  keyframes : cache.keyframes.Distinct

/-- An entry is materialized with a backed text, or one of the items belongs to it. -/
def Holds (backed : Text → Prop) (items : List Waiting) (kind : RuleKind)
    (stored : Fingerprint × Entry) : Prop :=
  (stored.2.materialized = true ∧ backed stored.2.text) ∨
    ∃ item ∈ items, item.BelongsTo kind stored

/-- Every entry is held, where the items in flight count as if they were still in the queue. -/
def Held (backed : Text → Prop) (inFlight : List Waiting) (cache : Cache) : Prop :=
  ∀ kind, ∀ stored ∈ cache.store kind, Holds backed (inFlight ++ cache.queue) kind stored

variable {backed : Text → Prop} {inFlight : List Waiting} {cache : Cache} {kind : RuleKind}
  {stored : Fingerprint × Entry}

/-! ### Distinct fingerprints -/

theorem Distinct.store (hdistinct : cache.Distinct) (kind : RuleKind) :
    (cache.store kind).Distinct := by
  cases kind
  · exact hdistinct.styles
  · exact hdistinct.keyframes
  · exact hdistinct.styles

theorem Distinct.modifyStore (hdistinct : cache.Distinct) {change : Store → Store}
    (hchange : (change (cache.store kind)).Distinct) : (cache.modifyStore kind change).Distinct := by
  cases kind
  · exact ⟨hchange, hdistinct.keyframes⟩
  · exact ⟨hdistinct.styles, hchange⟩
  · exact ⟨hchange, hdistinct.keyframes⟩

theorem Distinct.touch (hdistinct : cache.Distinct) (request : Request) (now : Time) :
    (cache.touch request now).Distinct :=
  hdistinct.modifyStore ((hdistinct.store _).modify _)

theorem Distinct.enter (hdistinct : cache.Distinct) {request : Request} {entry : Entry}
    (hnew : (cache.store request.kind).find? (request.fingerprint cache.config) = none) :
    (cache.enter request entry).Distinct :=
  hdistinct.modifyStore ((hdistinct.store _).add hnew)

theorem Distinct.swept (hdistinct : cache.Distinct) (now : Time) : (cache.swept now).Distinct :=
  ⟨hdistinct.styles.kept _ _ _, hdistinct.keyframes.kept _ _ _⟩

theorem Distinct.concluded (hdistinct : cache.Distinct) (item : Waiting) (delivered : Bool) :
    (cache.concluded item delivered).Distinct := by
  refine hdistinct.modifyStore ?_
  cases delivered
  · exact (hdistinct.store _).removeIfIssued
  · exact (hdistinct.store _).markMaterialized

/-! ### The queue -/

theorem queue_recorded (request : Request) (now : Time) (issued : Session.Issued) :
    (cache.recorded request now issued).queue = cache.queue := by
  obtain ⟨_, _, _, _, _, hframe⟩ := recorded_frame request now issued cache
  rw [hframe]

/-! ### Held entries -/

theorem Holds.mono {stronger : Text → Prop} {items more : List Waiting}
    (hbacked : ∀ text, stronger text → backed text) (hitems : ∀ item ∈ items, item ∈ more)
    (hholds : Holds stronger items kind stored) : Holds backed more kind stored := by
  rcases hholds with ⟨hflag, htext⟩ | ⟨item, hitem, hbelongs⟩
  · exact .inl ⟨hflag, hbacked _ htext⟩
  · exact .inr ⟨item, hitems item hitem, hbelongs⟩

/-- Only identifier, text and flag of an entry count. -/
theorem Holds.congr {items : List Waiting} {changed : Entry}
    (hholds : Holds backed items kind stored)
    (hidentifier : changed.identifier = stored.2.identifier) (htext : changed.text = stored.2.text)
    (hflag : changed.materialized = stored.2.materialized) :
    Holds backed items kind (stored.1, changed) := by
  rcases hholds with hsettled | ⟨item, hitem, hbelongs⟩
  · exact .inl ⟨hflag.trans hsettled.1, htext ▸ hsettled.2⟩
  · exact .inr ⟨item, hitem, hbelongs.kind, hbelongs.fingerprint,
      hbelongs.identifier.trans hidentifier.symm, hbelongs.text.trans htext.symm⟩

theorem Held.mono {stronger : Text → Prop} (hbacked : ∀ text, stronger text → backed text)
    (hheld : cache.Held stronger inFlight) : cache.Held backed inFlight :=
  fun kind stored hstored => (hheld kind stored hstored).mono hbacked fun _ hitem => hitem

theorem Held.touch (hheld : cache.Held backed inFlight) (request : Request) (now : Time) :
    (cache.touch request now).Held backed inFlight := by
  intro kind stored hstored
  rw [Cache.touch, queue_modifyStore]
  rw [Cache.touch, store_modifyStore] at hstored
  split at hstored
  · obtain ⟨old, hold, rfl⟩ := Store.mem_modify.mp hstored
    split
    · exact (hheld kind old hold).congr rfl rfl rfl
    · exact hheld kind old hold
  · exact hheld kind stored hstored

theorem Held.enter (hheld : cache.Held backed inFlight) {request : Request} {entry : Entry}
    (hentry : Holds backed (inFlight ++ cache.queue) request.kind
      (request.fingerprint cache.config, entry)) :
    (cache.enter request entry).Held backed inFlight := by
  intro kind stored hstored
  rw [Cache.enter, queue_modifyStore]
  rw [Cache.enter, store_modifyStore] at hstored
  split at hstored
  · rename_i hshares
    rcases Store.mem_add.mp hstored with hold | rfl
    · exact hheld kind stored hold
    · rcases hentry with hsettled | ⟨item, hitem, hbelongs⟩
      · exact .inl hsettled
      · exact .inr ⟨item, hitem, hbelongs.kind.trans hshares, hbelongs.fingerprint,
          hbelongs.identifier, hbelongs.text⟩
  · exact hheld kind stored hstored

theorem Held.enqueue (hheld : cache.Held backed inFlight) (request : Request)
    (identifier : Identifier) (text : Text) :
    (cache.enqueue request identifier text).Held backed inFlight := by
  intro kind stored hstored
  refine (hheld kind stored hstored).mono (fun _ htext => htext) fun item hitem => ?_
  rw [Cache.enqueue, ← List.append_assoc]
  exact List.mem_append_left _ hitem

theorem Held.swept (hheld : cache.Held backed inFlight) (now : Time) :
    (cache.swept now).Held backed inFlight :=
  fun kind stored hstored => hheld kind stored (mem_store_of_mem_swept hstored)

theorem Held.cleared : cache.cleared.Held backed [] := by
  intro kind stored hstored
  cases kind <;> exact absurd hstored List.not_mem_nil

theorem Held.drained {mode : InsertionMode} {budget : Nat} (hheld : cache.Held backed []) :
    { cache with queue := (cache.queue.drain mode budget).2 }.Held backed
      (cache.queue.drain mode budget).1 := by
  intro kind stored hstored
  refine (hheld kind stored hstored).mono (fun _ htext => htext) fun item hitem => ?_
  exact List.mem_append.mpr (Queue.mem_drain.mp hitem)

/-- Once an item is settled no entry needs it any more: the entries it belongs to are marked after a delivery and gone after a failure. -/
theorem Held.concluded {item : Waiting} (hdistinct : cache.Distinct) {delivered : Bool}
    (hheld : cache.Held backed (item :: inFlight)) (hitem : delivered = true → backed item.text) :
    (cache.concluded item delivered).Held backed inFlight := by
  -- An entry that the item does not belong to is held by the same means as before.
  have hother {kind : RuleKind} {stored : Fingerprint × Entry} (hstored : stored ∈ cache.store kind)
      (hnot : ¬item.BelongsTo kind stored) :
      Holds backed (inFlight ++ cache.queue) kind stored := by
    rcases hheld kind stored hstored with hsettled | ⟨needed, hneeded, hbelongs⟩
    · exact .inl hsettled
    · rcases List.mem_cons.mp hneeded with rfl | hrest
      · exact absurd hbelongs hnot
      · exact .inr ⟨needed, hrest, hbelongs⟩
  intro kind stored hstored
  rw [Cache.concluded, queue_modifyStore]
  rw [Cache.concluded, store_modifyStore] at hstored
  by_cases hshares : item.kind.SharesStore kind
  · rw [if_pos hshares] at hstored
    cases delivered with
    | true =>
      obtain ⟨old, hold, rfl⟩ := Store.mem_markMaterialized (hdistinct.store kind) hstored
      by_cases hbelongs : item.BelongsTo kind old
      · rw [if_pos ⟨hbelongs.fingerprint.symm, hbelongs.identifier.symm⟩]
        exact .inl ⟨rfl, hbelongs.text ▸ hitem rfl⟩
      · have hholds := hother hold hbelongs
        split
        · rcases hholds with ⟨_, htext⟩ | ⟨needed, hneeded, hneeds⟩
          · exact .inl ⟨rfl, htext⟩
          · exact .inr ⟨needed, hneeded, hneeds.kind, hneeds.fingerprint, hneeds.identifier,
              hneeds.text⟩
        · exact hholds
    | false =>
      obtain ⟨hold, hnot⟩ := Store.mem_removeIfIssued (hdistinct.store kind) hstored
      exact hother hold fun hbelongs =>
        hnot ⟨hbelongs.fingerprint.symm, hbelongs.identifier.symm⟩
  · rw [if_neg hshares] at hstored
    exact hother hstored fun hbelongs => hshares hbelongs.kind

end Cache

end Stylesheet
