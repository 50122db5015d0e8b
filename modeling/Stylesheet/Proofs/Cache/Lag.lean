import Stylesheet.Proofs.Cache.Soundness
import Stylesheet.Sink.Sheet

/-!
# Caches that lag behind

A cache that delivers late is compared with one that delivers at once. Their stores differ in nothing but the flags of the entries, and the sheet of the one ahead is the sheet of the other once it has received what waits in the queue. `Cache.Lags` is the first half of this; requests and sweeps keep it when both caches are asked the same.

Neither cache need remember the same deliveries as the other. A delivery that is skipped is of a text that the sheet has, and a sheet takes no text twice.
-/

namespace Stylesheet

namespace Sheet

variable {text : Text} {sheet : Sheet}

/-- What the delivery of a text makes of a sheet; empty text is not delivered. -/
def receive (sheet : Sheet) (text : Text) : Sheet := if text = [] then sheet else sheet.add text

/-- What the delivery of all items of a queue makes of a sheet. -/
def receiveAll (sheet : Sheet) (items : List Cache.Waiting) : Sheet :=
  items.foldl (fun sheet item => sheet.receive item.text) sheet

theorem receiveAll_append (items more : List Cache.Waiting) :
    sheet.receiveAll (items ++ more) = (sheet.receiveAll items).receiveAll more :=
  List.foldl_append

theorem receive_of_mem (hmem : text ∈ sheet) : sheet.receive text = sheet := by
  rw [receive]
  split
  · rfl
  · exact if_pos (List.contains_iff_mem.mpr hmem)

theorem host_shows : host.Shows Set.univ fun sheet => {text | text ∈ sheet} where
  accepted _ _ text sheet after hok := by
    obtain rfl : sheet.add text = after := congrArg Prod.snd hok
    by_cases hmem : text ∈ sheet
    · simp [add, hmem]
    · simp [add, hmem]
  kept _ text sheet := by
    intro other hother
    show other ∈ sheet.add text
    rw [add]
    split
    · exact hother
    · exact List.mem_append_left _ hother

end Sheet

namespace Cache

/-! ### Stores up to the flags -/

def Entry.settled (entry : Entry) : Entry := { entry with materialized := true }

namespace Store

variable (store : Store) (fingerprint : Fingerprint)

/-- The store with every entry materialized. -/
def settled (store : Store) : Store := store.map fun item => (item.1, item.2.settled)

theorem find?_settled :
    store.settled.find? fingerprint = (store.find? fingerprint).map Entry.settled := by
  induction store with
  | nil => rfl
  | cons head rest ih =>
    rw [settled, List.map_cons, find?, find?]
    split
    · rfl
    · exact ih

theorem settled_add (entry : Entry) :
    (store.add fingerprint entry).settled = store.settled.add fingerprint entry.settled := by
  rw [settled, Store.add, List.map_append]
  rfl

theorem settled_touch (now : Time) : (store.modify fingerprint (Entry.touch now)).settled =
    store.settled.modify fingerprint (Entry.touch now) := by
  rw [settled, Store.modify, settled, Store.modify, List.map_map, List.map_map]
  apply List.map_congr_left
  intro item _
  simp only [Function.comp_apply]
  split <;> rfl

theorem settled_markMaterialized (identifier : Identifier) :
    (store.markMaterialized fingerprint identifier).settled = store.settled := by
  rw [markMaterialized]
  split
  · rw [settled, Store.modify, settled, List.map_map]
    apply List.map_congr_left
    intro item _
    simp only [Function.comp_apply]
    split <;> rfl
  · rfl

theorem survives_settled (now : Time) (maxIdle limit : Nat) (item : Fingerprint × Entry) :
    survives now maxIdle limit store.settled (item.1, item.2.settled) =
      survives now maxIdle limit store item := by
  have hcount : store.settled.countP (precedes (item.1, item.2.settled)) =
      store.countP (precedes item) := by
    rw [settled, List.countP_map]
    rfl
  rw [survives, survives, isRecent, isRecent, hcount, settled, List.length_map]
  rfl

theorem settled_filter {keep keepSettled : Fingerprint × Entry → Bool}
    (hkeep : ∀ item, keepSettled (item.1, item.2.settled) = keep item) :
    settled (store.filter keep) = store.settled.filter keepSettled := by
  rw [settled, settled, List.filter_map]
  congr 1
  exact List.filter_congr fun item _ => (hkeep item).symm

theorem fresh_settled (now : Time) (maxIdle : Nat) :
    store.settled.fresh now maxIdle = (store.fresh now maxIdle).settled :=
  (settled_filter store fun _ => rfl).symm

theorem settled_kept (now : Time) (maxIdle limit : Nat) :
    (store.kept now maxIdle limit).settled = store.settled.kept now maxIdle limit := by
  rw [kept, kept, fresh_settled]
  exact settled_filter store (survives_settled _ now maxIdle limit)

theorem settled_removed (now : Time) (maxIdle limit : Nat) :
    (store.removed now maxIdle limit).settled = store.settled.removed now maxIdle limit := by
  rw [removed, removed, fresh_settled]
  refine settled_filter store fun item => ?_
  rw [survives_settled]

theorem length_settled : store.settled.length = store.length := List.length_map ..

theorem settled_eq_self {store : Store} (hall : ∀ stored ∈ store, stored.2.materialized = true) :
    store.settled = store := by
  rw [settled]
  refine (List.map_congr_left fun stored hstored => ?_).trans (List.map_id store)
  obtain ⟨fingerprint, entry⟩ := stored
  have hflag : entry.materialized = true := hall _ hstored
  rw [Entry.settled, ← hflag]
  rfl

end Store

/-! ### A cache that delivers late -/

/-- The second cache inserts rules in another mode, keeps items of that mode in its queue, and has not materialized all of the entries that the first one has. -/
structure Lags (mode : InsertionMode) (ahead behind : Cache) : Prop where
  sync : ahead.config.insertion = .sync
  config : behind.config = { ahead.config with insertion := mode }
  styles : behind.styles.settled = ahead.styles
  keyframes : behind.keyframes.settled = ahead.keyframes
  schedule : behind.schedule = ahead.schedule
  issued : behind.issued = ahead.issued
  modes : ∀ item ∈ behind.queue, item.mode = mode

theorem Lags.start {config : Config} (hsync : config.insertion = .sync) (mode : InsertionMode) :
    Lags mode (.ofConfig config) (.ofConfig { config with insertion := mode }) where
  sync := hsync
  config := rfl
  styles := rfl
  keyframes := rfl
  schedule := rfl
  issued := rfl
  modes _ hitem := absurd hitem List.not_mem_nil

variable {mode : InsertionMode} {ahead behind : Cache} (hlags : ahead.Lags mode behind)
  (request : Request) (now : Time)
include hlags

namespace Lags

/-! ### What both agree on -/

theorem store (kind : RuleKind) : (behind.store kind).settled = ahead.store kind := by
  cases kind
  · exact hlags.styles
  · exact hlags.keyframes
  · exact hlags.styles

theorem fingerprint : request.fingerprint behind.config = request.fingerprint ahead.config := by
  rw [hlags.config]
  rfl

theorem renderMode : behind.config.renderMode = ahead.config.renderMode := by
  rw [hlags.config]
  rfl

theorem nextIdentifier : behind.nextIdentifier request = ahead.nextIdentifier request := by
  rw [Cache.nextIdentifier, Cache.nextIdentifier, nextSeed, nextSeed, hlags.config, hlags.issued]
  rfl

theorem finishedText (identifier : Identifier) :
    Session.finishedText behind.config request identifier =
      Session.finishedText ahead.config request identifier := by
  rw [hlags.config]
  rfl

theorem find? : ahead.find? request = (behind.find? request).map Entry.settled := by
  rw [Cache.find?, Cache.find?, ← hlags.store, Store.find?_settled, hlags.fingerprint,
    hlags.config]
  split <;> rfl

theorem freshText? : behind.freshText? request = ahead.freshText? request := by
  rw [Cache.freshText?, Cache.freshText?, hlags.find?, Option.isSome_map, hlags.renderMode,
    hlags.nextIdentifier, hlags.finishedText]

theorem has : behind.has request = ahead.has request := by
  rw [Cache.has, Cache.has, ← hlags.store, Store.contains, Store.contains, Store.find?_settled,
    Option.isSome_map, hlags.fingerprint]

theorem length_evicted : (behind.evicted now).length = (ahead.evicted now).length := by
  rw [evicted, evicted, List.length_map, List.length_map, List.length_append, List.length_append,
    ← hlags.styles, ← hlags.keyframes, ← Store.settled_removed, ← Store.settled_removed,
    Store.length_settled, Store.length_settled, hlags.config]

/-! ### What keeps both in step -/

theorem advance : ahead.advance.Lags mode behind.advance :=
  ⟨hlags.sync, hlags.config, hlags.styles, hlags.keyframes, hlags.schedule,
    congrArg (· + 1) hlags.issued, hlags.modes⟩

/-- Memory and counters do not matter. -/
theorem reckon (memory memoryBehind : Memory) (counters countersBehind : Counters) :
    { ahead with memory, counters }.Lags mode
      { behind with memory := memoryBehind, counters := countersBehind } :=
  ⟨hlags.sync, hlags.config, hlags.styles, hlags.keyframes, hlags.schedule, hlags.issued,
    hlags.modes⟩

theorem enqueue (identifier : Identifier) (text : Text) :
    ahead.Lags mode (behind.enqueue request identifier text) where
  sync := hlags.sync
  config := hlags.config
  styles := hlags.styles
  keyframes := hlags.keyframes
  schedule := hlags.schedule
  issued := hlags.issued
  modes item hitem := by
    rw [Cache.enqueue, List.mem_append, List.mem_singleton] at hitem
    rcases hitem with hold | rfl
    · exact hlags.modes item hold
    · exact congrArg Config.insertion hlags.config

theorem requeued {queue : Queue} (hmodes : ∀ item ∈ queue, item.mode = mode) :
    ahead.Lags mode { behind with queue } :=
  ⟨hlags.sync, hlags.config, hlags.styles, hlags.keyframes, hlags.schedule, hlags.issued, hmodes⟩

theorem modifyStore {kind : RuleKind} {change changeBehind : Store → Store}
    (hchange : (changeBehind (behind.store kind)).settled = change (ahead.store kind)) :
    (ahead.modifyStore kind change).Lags mode (behind.modifyStore kind changeBehind) := by
  cases kind
  · exact ⟨hlags.sync, hlags.config, hchange, hlags.keyframes, hlags.schedule, hlags.issued,
      hlags.modes⟩
  · exact ⟨hlags.sync, hlags.config, hlags.styles, hchange, hlags.schedule, hlags.issued,
      hlags.modes⟩
  · exact ⟨hlags.sync, hlags.config, hchange, hlags.keyframes, hlags.schedule, hlags.issued,
      hlags.modes⟩

theorem touch : (ahead.touch request now).Lags mode (behind.touch request now) := by
  refine hlags.modifyStore ?_
  rw [Store.settled_touch, hlags.store, hlags.fingerprint]

theorem enter {entry entryBehind : Entry} (hentry : entryBehind.settled = entry) :
    (ahead.enter request entry).Lags mode (behind.enter request entryBehind) := by
  refine hlags.modifyStore ?_
  rw [Store.settled_add, hlags.store, hlags.fingerprint, hentry]

/-- A delivery from the queue changes flags only. -/
theorem concluded (item : Waiting) : ahead.Lags mode (behind.concluded item true) := by
  have hsame : ahead.modifyStore item.kind id = ahead := modifyStore_of_eq_self rfl
  have hchange : (item.conclude true (behind.store item.kind)).settled =
      id (ahead.store item.kind) := by
    rw [Waiting.conclude, if_pos rfl, Store.settled_markMaterialized, hlags.store, id]
  have hlater := hlags.modifyStore hchange
  rwa [hsame] at hlater

theorem swept : (ahead.swept now).Lags mode (behind.swept now) where
  sync := hlags.sync
  config := hlags.config
  styles := by
    show (Store.kept now _ _ behind.styles).settled = Store.kept now _ _ ahead.styles
    rw [Store.settled_kept, hlags.styles, hlags.config]
  keyframes := by
    show (Store.kept now _ _ behind.keyframes).settled = Store.kept now _ _ ahead.keyframes
    rw [Store.settled_kept, hlags.keyframes, hlags.config]
  schedule := hlags.schedule
  issued := hlags.issued
  modes := hlags.modes

theorem maintained : (ahead.maintained now).Lags mode (behind.maintained now) :=
  have hswept := hlags.swept now
  ⟨hswept.sync, hswept.config, hswept.styles, hswept.keyframes, rfl, hswept.issued, hswept.modes⟩

theorem followedUp : (ahead.followedUp now).Lags mode (behind.followedUp now) := by
  have hdebounce : behind.config.sweepDebounce = ahead.config.sweepDebounce := by
    rw [hlags.config]
  rw [Cache.followedUp, Cache.followedUp, hlags.schedule, hdebounce]
  split
  · exact ⟨hlags.sync, hlags.config, hlags.styles, hlags.keyframes, rfl, hlags.issued,
      hlags.modes⟩
  · exact hlags.maintained now

end Lags

end Cache

/-! ### Requests -/

/-- Two identifiers that were issued in step, the second perhaps with its text still in the queue. -/
inductive Session.Issued.InStep : Issued → Issued → Prop
  | rejected (identifier : Identifier) (text : Text) :
    InStep ⟨identifier, text, .rejected⟩ ⟨identifier, text, .rejected⟩
  | delivered (identifier : Identifier) (text : Text) {delivery : Delivery}
    (hsucceeded : delivery.succeeded = true) :
    InStep ⟨identifier, text, .materialized⟩ ⟨identifier, text, delivery⟩

theorem Session.Issued.InStep.resolution {issued issuedBehind : Issued}
    (hstep : issued.InStep issuedBehind) : issuedBehind.resolution = issued.resolution := by
  cases hstep with
  | rejected => rfl
  | delivered _ _ hsucceeded => rw [Issued.resolution, hsucceeded]; rfl

theorem Cache.Lags.recorded {mode : InsertionMode} {ahead behind : Cache}
    (hlags : ahead.Lags mode behind) {issued issuedBehind : Session.Issued}
    (hstep : issued.InStep issuedBehind) (request : Request) (now : Time) :
    (ahead.recorded request now issued).Lags mode (behind.recorded request now issuedBehind) := by
  have hcaching : behind.config.caching = ahead.config.caching := by
    rw [hlags.config]
  cases hstep with
  | rejected =>
    rw [Cache.recorded, Cache.recorded, if_pos rfl, if_pos rfl]
    exact hlags
  | @delivered identifier text delivery hsucceeded =>
    have hreal : delivery ≠ .rejected := by
      rintro rfl
      exact absurd hsucceeded Bool.false_ne_true
    rw [Cache.recorded, Cache.recorded, if_neg hreal, if_neg (by simp), hcaching, hsucceeded]
    by_cases hon : ahead.config.caching
    · have hentered : (ahead.enter request
          (Session.Issued.entry now ⟨identifier, text, .materialized⟩)).Lags mode
          (behind.enter request (Session.Issued.entry now ⟨identifier, text, delivery⟩)) :=
        hlags.enter request rfl
      rw [if_pos ⟨hon, rfl⟩, if_pos ⟨hon, rfl⟩]
      exact (hentered.reckon _ _ _ _).followedUp now
    · rw [if_neg fun hboth => hon hboth.1, if_neg fun hboth => hon hboth.1]
      exact hlags.reckon _ _ _ _

section Requests

open Cache (Sound)
open Session (Handover Issuance Resolved)

variable {texts : Set Text} (hdigest : Set.InjOn Hash.ofText texts) {inFlight : List Cache.Waiting}
  {cache after : Cache} {sheet sheetAfter : Sheet}
include hdigest

/-- Every delivery to a sheet goes well, and the sheet ends up with the text whether it was called or not. -/
theorem Cache.Sound.handover_sheet
    (hsound : Sound texts Set.univ {text | text ∈ sheet} inFlight cache) {text : Text}
    (htext : text ∈ texts) {repeatable delivered : Bool}
    (handover : Handover Sheet.host text repeatable cache sheet delivered after sheetAfter) :
    delivered = true ∧ sheetAfter = sheet.receive text := by
  cases handover with
  | skipped hskip =>
    refine ⟨rfl, ?_⟩
    rcases hskip with rfl | hknown
    · rfl
    · exact (Sheet.receive_of_mem (hsound.knows hdigest htext hknown)).symm
  | accepted hne _ hok =>
    have hadded : sheet.add text = sheetAfter := congrArg Prod.snd hok
    exact ⟨rfl, by rw [Sheet.receive, if_neg hne, hadded]⟩
  | refused _ _ herror => exact absurd (congrArg Prod.fst herror) (by simp [Sheet.host])

variable {mode : InsertionMode} (hlater : mode ≠ .sync) {ahead behind aheadAfter behindAfter : Cache}
  {delayed delayedAfter : Sheet} {request : Request} (hlags : ahead.Lags mode behind)
  (hsound : Sound texts Set.univ {text | text ∈ sheet} [] ahead)
  (htext : ∀ text ∈ ahead.freshText? request, text ∈ texts)
  (hsheets : sheet = delayed.receiveAll behind.queue)
include hlater hlags hsound htext hsheets

theorem Cache.Lags.issuance (hmissing : ahead.find? request = none)
    {issued issuedBehind : Session.Issued}
    (hahead : Issuance Sheet.host request ahead sheet issued aheadAfter sheetAfter)
    (hbehind : Issuance Sheet.host request behind delayed issuedBehind behindAfter delayedAfter) :
    issued.InStep issuedBehind ∧ aheadAfter.Lags mode behindAfter ∧
      sheetAfter = delayedAfter.receiveAll behindAfter.queue := by
  have hinsertion : behind.config.insertion = mode := by
    rw [hlags.config]
  have hhollows : request.isHollow behind.config.renderMode (behind.nextIdentifier request) =
      request.isHollow ahead.config.renderMode (ahead.nextIdentifier request) := by
    rw [hlags.renderMode, hlags.nextIdentifier]
  cases hahead with
  | hollow hhollow =>
    cases hbehind with
    | hollow => exact ⟨.rejected _ _, hlags.advance.reckon _ _ _ _, hsheets⟩
    | sent hfull | blank hfull | queued hfull =>
      rw [hhollows, hhollow] at hfull
      exact absurd hfull Bool.true_eq_false.mp
  | sent hfull _ handover =>
    have hfresh : Session.finishedText ahead.config request (ahead.nextIdentifier request) ∈
        texts := htext _ (by simp [Cache.freshText?, hmissing, hfull])
    obtain ⟨rfl, rfl⟩ := hsound.advance.handover_sheet hdigest hfresh handover
    obtain ⟨memory, counters, rfl⟩ := handover.frame
    cases hbehind with
    | hollow hhollow =>
      rw [hhollows, hfull] at hhollow
      exact absurd hhollow Bool.false_ne_true
    | sent _ hsync => exact absurd (hinsertion.symm.trans hsync) hlater
    | blank _ _ hblank =>
      rw [hlags.nextIdentifier, hlags.finishedText] at hblank
      rw [hlags.nextIdentifier, hblank]
      exact ⟨.delivered _ _ rfl, hlags.advance.reckon _ _ _ _, hsheets⟩
    | queued _ _ htext =>
      rw [hlags.nextIdentifier, hlags.finishedText]
      refine ⟨.delivered _ _ rfl, (hlags.advance.enqueue request _ _).reckon _ _ _ _, ?_⟩
      show _ = delayed.receiveAll (behind.queue ++ [_])
      rw [hsheets, Sheet.receiveAll_append]
      rfl
  | blank _ hasync | queued _ hasync => exact absurd hlags.sync hasync

theorem Cache.Lags.resolved {now : Time} {resolution resolutionBehind : Session.Resolution}
    (hahead : Resolved Sheet.host request now ahead sheet resolution aheadAfter sheetAfter)
    (hbehind : Resolved Sheet.host request now behind delayed resolutionBehind behindAfter
      delayedAfter) :
    resolutionBehind = resolution ∧ aheadAfter.Lags mode behindAfter ∧
      sheetAfter = delayedAfter.receiveAll behindAfter.queue := by
  have hfind := hlags.find? request
  cases hahead with
  | hit hfound =>
    cases hbehind with
    | hit hfoundBehind =>
      rw [hfound, hfoundBehind, Option.map_some, Option.some.injEq] at hfind
      subst hfind
      refine ⟨rfl, (hlags.touch request now).reckon _ _ _ _, ?_⟩
      show sheet = delayed.receiveAll (behind.touch request now).queue
      rw [Cache.touch, Cache.queue_modifyStore]
      exact hsheets
    | missed hmissing => simp [hfound, hmissing] at hfind
  | @missed issued _ _ hmissing hissue =>
    cases hbehind with
    | hit hfoundBehind => simp [hmissing, hfoundBehind] at hfind
    | @missed issuedBehind _ _ _ hissueBehind =>
      obtain ⟨hstep, hafter, hsheetsAfter⟩ := hlags.issuance hdigest hlater hsound htext hsheets
        hmissing hissue hissueBehind
      refine ⟨hstep.resolution, hafter.recorded hstep request now, ?_⟩
      rw [Cache.queue_recorded]
      exact hsheetsAfter

end Requests

end Stylesheet
