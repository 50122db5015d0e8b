import Stylesheet.Proofs.Cache.Issue
import Stylesheet.Proofs.Cache.Sweep
import Stylesheet.Proofs.Cache.Transparency
import Stylesheet.Proofs.Cache.Turnover
import Stylesheet.Sink.Sheet

/-!
# Asking again

A request that was just answered is answered by a hit when it is made again, if the entry made for it is still there. Nothing comes between the two calls but the sweep that may follow the insertion, and that one sees no entry used later than the new one. So the new entry can only go if too many others were used at the same moment and have larger fingerprints, and just then it does go.
-/

namespace Stylesheet

variable {σ : Type}

/-! ### The sweep that follows an insertion -/

namespace Cache

theorem Entry.idle_le {entry : Entry} {now : Time} (hentry : entry.lastUsedAt = now)
    (maxIdle : Nat) : entry.idle now ≤ maxIdle := by
  rw [idle, Time.since, hentry, Int.sub_self]
  exact Nat.zero_le _

namespace Store

variable {store : Store} {fingerprint : Fingerprint} {entry : Entry} {now : Time}

/-- How many entries used at a time come after one with this fingerprint that is used then too. -/
def rivals (now : Time) (fingerprint : Fingerprint) (store : Store) : Nat :=
  store.countP fun stored => stored.2.lastUsedAt = now && fingerprint.word < stored.1.word

theorem countP_precedes_add (hused : store.UsedBy now) (hentry : entry.lastUsedAt = now)
    (maxIdle : Nat) :
    ((store.add fingerprint entry).fresh now maxIdle).countP (precedes (fingerprint, entry)) =
      store.rivals now fingerprint := by
  rw [fresh, List.countP_filter, add, List.countP_append, rivals]
  have hself : [(fingerprint, entry)].countP (fun stored =>
      precedes (fingerprint, entry) stored && decide (stored.2.idle now ≤ maxIdle)) = 0 := by
    rw [List.countP_singleton, precedes_self, Bool.false_and, if_neg Bool.false_ne_true]
  rw [hself, Nat.add_zero]
  refine List.countP_congr fun stored hstored => ?_
  simp only [precedes, hentry, Bool.and_eq_true, Bool.or_eq_true, decide_eq_true_eq]
  constructor
  · rintro ⟨hlater | htie, -⟩
    · exact absurd hlater (Int.not_lt.mpr (hused stored hstored))
    · exact ⟨htie.1.symm, htie.2⟩
  · rintro ⟨heq, hlarger⟩
    exact ⟨.inr ⟨heq.symm, hlarger⟩, Entry.idle_le heq maxIdle⟩

/-- A sweep at the time of an entry keeps it unless it has too many rivals. -/
theorem mem_kept_add_iff (hused : store.UsedBy now) (hentry : entry.lastUsedAt = now)
    (maxIdle limit : Nat) :
    (fingerprint, entry) ∈ (store.add fingerprint entry).kept now maxIdle limit ↔
      store.rivals now fingerprint < limit := by
  have hadded : (fingerprint, entry) ∈ store.add fingerprint entry := mem_add.mpr (.inr rfl)
  have hidle : decide (entry.idle now ≤ maxIdle) = true :=
    decide_eq_true (Entry.idle_le hentry maxIdle)
  have hfresh : (fingerprint, entry) ∈ (store.add fingerprint entry).fresh now maxIdle :=
    List.mem_filter.mpr ⟨hadded, hidle⟩
  rw [kept, List.mem_filter, survives, Bool.and_eq_true, isRecent_iff hfresh,
    countP_precedes_add hused hentry maxIdle]
  exact ⟨fun hkept => hkept.2.2, fun hfew => ⟨hadded, hidle, hfew⟩⟩

theorem find?_add (hdistinct : store.Distinct) (hnew : store.find? fingerprint = none) :
    (store.add fingerprint entry).find? fingerprint = some entry :=
  find?_of_mem (hdistinct.add hnew) (mem_add.mpr (.inr rfl))

theorem find?_kept_add (hdistinct : store.Distinct) (hnew : store.find? fingerprint = none)
    (hused : store.UsedBy now) (hentry : entry.lastUsedAt = now) (maxIdle limit : Nat) :
    ((store.add fingerprint entry).kept now maxIdle limit).find? fingerprint =
      if store.rivals now fingerprint < limit then some entry else none := by
  have hkept : (fingerprint, entry) ∈ (store.add fingerprint entry).kept now maxIdle limit ↔ _ :=
    mem_kept_add_iff hused hentry maxIdle limit
  have hadded : Store.Distinct (store.add fingerprint entry) := hdistinct.add hnew
  split
  · rename_i hfew
    exact find?_of_mem (hadded.kept now maxIdle limit) (hkept.mpr hfew)
  · rename_i hmany
    refine Option.eq_none_iff_forall_ne_some.mpr fun other hother => hmany (hkept.mp ?_)
    have hmem := mem_of_find? hother
    have hsame := find?_of_mem hadded (mem_of_mem_kept hmem)
    rw [find?_add hdistinct hnew, Option.some.injEq] at hsame
    exact hsame ▸ hmem

theorem find?_modify (change : Entry → Entry) :
    (store.modify fingerprint change).find? fingerprint =
      (store.find? fingerprint).map change := by
  induction store with
  | nil => rfl
  | cons head rest ih =>
    obtain ⟨other, old⟩ := head
    rw [modify] at ih
    by_cases hother : other = fingerprint <;> simp [modify, find?, hother, ih]

end Store

variable {cache : Cache} {request : Request} {entry : Entry} {now : Time}

/-- Whether what follows an insertion at a time spares the entry made for a request. -/
def spares (request : Request) (now : Time) (cache : Cache) : Bool :=
  cache.schedule.withinDebounce now cache.config.sweepDebounce
    || (cache.store request.kind).rivals now (request.fingerprint cache.config) <
      cache.config.maxEntries

theorem spares_iff : cache.spares request now = true ↔
    cache.schedule.withinDebounce now cache.config.sweepDebounce = true ∨
      (cache.store request.kind).rivals now (request.fingerprint cache.config) <
        cache.config.maxEntries := by
  rw [spares, Bool.or_eq_true, decide_eq_true_eq]

theorem hits_touch (request : Request) (now : Time) :
    (cache.touch request now).countHit.counters.hits = cache.counters.hits + 1 := by
  cases hkind : request.kind <;> simp only [touch, modifyStore, hkind] <;> rfl

theorem find?_touch (hcaching : cache.config.caching = true) (request : Request) (now : Time) :
    (cache.touch request now).countHit.find? request =
      (cache.find? request).map (Entry.touch now) := by
  have hconfig : (cache.touch request now).countHit.config = cache.config :=
    config_modifyStore _ cache
  have hstore : (cache.touch request now).countHit.store request.kind =
      (cache.store request.kind).modify (request.fingerprint cache.config) (Entry.touch now) :=
    (store_congr rfl rfl _).trans (store_modifyStore_self _ _)
  rw [find?_eq (hconfig ▸ hcaching), find?_eq hcaching, hconfig, hstore, Store.find?_modify]

theorem store_followedUp (cache : Cache) (now : Time) (kind : RuleKind) :
    (cache.followedUp now).store kind =
      if cache.schedule.withinDebounce now cache.config.sweepDebounce then cache.store kind
      else (cache.store kind).kept now cache.config.maxIdle cache.config.maxEntries := by
  rw [followedUp]
  split <;> cases kind <;> rfl

/-- Once what follows the insertion of an entry is over, the entry answers its request if it was spared, and otherwise nothing does. -/
theorem find?_followedUp_enter (hdistinct : cache.Distinct) (hused : cache.UsedBy now)
    (hcaching : cache.config.caching = true) (hmissing : cache.find? request = none)
    (hentry : entry.lastUsedAt = now) :
    ((cache.enter request entry).countMiss.followedUp now).find? request =
      if cache.spares request now then some entry else none := by
  have hconfig : (cache.enter request entry).countMiss.config = cache.config :=
    config_modifyStore _ cache
  have hschedule : (cache.enter request entry).countMiss.schedule = cache.schedule :=
    schedule_modifyStore _ _
  have hstore : (cache.enter request entry).countMiss.store request.kind =
      (cache.store request.kind).add (request.fingerprint cache.config) entry :=
    (store_congr rfl rfl _).trans (store_modifyStore_self _ _)
  have hafter : ((cache.enter request entry).countMiss.followedUp now).config = cache.config := by
    obtain ⟨_, _, _, _, _, hframe⟩ := followedUp_frame now (cache.enter request entry).countMiss
    rw [hframe]
    exact hconfig
  have hkind := hdistinct.store request.kind
  rw [find?_eq hcaching] at hmissing
  rw [find?_eq (hafter ▸ hcaching), hafter, store_followedUp, hconfig, hschedule, hstore, spares]
  cases cache.schedule.withinDebounce now cache.config.sweepDebounce with
  | true => simp [Store.find?_add hkind hmissing]
  | false => simp [Store.find?_kept_add hkind hmissing (hused _) hentry]

end Cache

/-! ### The first call -/

namespace Session

variable {host : Host σ} {request : Request} {cache after : Cache} {sinks sinksAfter : σ}
  {issued : Issued}

/-- With a sink that accepts, a request that compiles to something is issued an identifier with success. -/
theorem Issuance.succeeded
    (hissue : Issuance host request cache sinks issued after sinksAfter)
    (haccepts : ∀ text state, (host.deliver cache.config.sink text state).1 = .ok ())
    (hfull : request.isHollow cache.config.renderMode (cache.nextIdentifier request) = false) :
    issued.delivery.succeeded = true := by
  cases hissue with
  | hollow hhollow => exact absurd (hfull.symm.trans hhollow) Bool.false_ne_true
  | sent _ _ handover =>
    cases handover with
    | skipped | accepted => rfl
    | refused _ _ herror =>
      have hresult := congrArg Prod.fst herror
      exact absurd (hresult.symm.trans (haccepts _ sinks)) nofun
  | blank | queued => rfl

theorem Issuance.spares_eq (hissue : Issuance host request cache sinks issued after sinksAfter)
    (now : Time) : after.spares request now = cache.spares request now := by
  obtain ⟨queue, memory, counters, number, rfl⟩ := hissue.frame
  cases hkind : request.kind <;> simp only [Cache.spares, Cache.store, hkind]

/-- After a miss the request finds the entry that was made for it, if that was spared. -/
theorem Issuance.find?_recorded {now : Time}
    (hissue : Issuance host request cache sinks issued after sinksAfter)
    (hdistinct : cache.Distinct) (hused : cache.UsedBy now)
    (hcaching : cache.config.caching = true) (hmissing : cache.find? request = none)
    (hsucceeded : issued.delivery.succeeded = true) :
    (after.recorded request now issued).find? request =
      if cache.spares request now then some (issued.entry now) else none := by
  have hturnover : Cache.Turnover now cache after := .issuance hissue
  have hstillCaching : after.config.caching = true := hissue.config ▸ hcaching
  rw [Cache.recorded_of_entered ⟨hstillCaching, hsucceeded⟩, ← hissue.spares_eq now]
  exact Cache.find?_followedUp_enter (hdistinct.turnover hturnover)
    (hused.turnover (Int.le_refl now) hturnover) hstillCaching
    ((hissue.find?_eq request).trans hmissing) rfl

end Session

/-! ### The second call -/

/-- The command gets this answer from an entry that is there: it is a hit, nothing is issued or queued, and no sink is called. -/
structure Moment.Recalls (host : Host σ) (answer : Answer) (moment : Moment σ) : Prop where
  answer : moment.answer host = answer
  hits : (moment.next host).cache.counters.hits = moment.session.cache.counters.hits + 1
  issued : (moment.next host).cache.issued = moment.session.cache.issued
  queue : (moment.next host).cache.queue = moment.session.cache.queue
  events : Command.events host [(moment.now, moment.command)] moment.session = []

/-- An answer is recalled if and only if it is that of an entry that the request finds. -/
theorem Moment.recalls_iff_find? (host : Host σ) {moment : Moment σ} {request : Request}
    (hrequest : moment.command.request? = some request) (answer : Answer) :
    moment.Recalls host answer ↔ ∃ entry, moment.session.cache.find? request = some entry ∧
      request.answer ⟨entry.identifier, true⟩ = answer := by
  constructor
  · intro hrecalls
    cases hfound : moment.session.cache.find? request with
    | some entry =>
      exact ⟨entry, rfl, (Command.answer_of_find? host hrequest hfound).1.symm.trans
        hrecalls.answer⟩
    | none =>
      have hissue : moment.issue? = some ⟨moment.session.cache, request⟩ :=
        Moment.issue?_eq_some_iff.mpr ⟨hrequest, rfl, hfound⟩
      have hcount := Command.issued_next host moment
      rw [hissue, hrecalls.issued] at hcount
      simp at hcount
  · rintro ⟨entry, hfound, rfl⟩
    obtain ⟨hanswer, hevents⟩ := Command.answer_of_find? host hrequest hfound
    have hnext : (moment.next host).cache =
        (moment.session.cache.touch request moment.now).countHit := by
      rw [Moment.next, Command.run_of_request host moment.now moment.session hrequest,
        Session.resolve, hfound]
      rfl
    refine ⟨hanswer, ?_, ?_, ?_, hevents⟩
    · rw [hnext]
      exact Cache.hits_touch request moment.now
    · rw [hnext]
      exact Cache.issued_modifyStore _ _
    · rw [hnext]
      exact Cache.queue_modifyStore _ _

namespace Command

variable (host : Host σ) (config : Config) (state : σ)

/-- With caching on and a sink that accepts, a request that compiles to something is answered from its entry when it is made again, at whatever time, if and only if it was a hit already, or no sweep followed the insertion, or few enough entries used at the very same time have larger fingerprints. -/
theorem recalls_iff {commands : List (Time × Command)} {now : Time}
    (hclock : ∀ timed ∈ commands, timed.1 ≤ now) {session : Session σ}
    (hreached : (runAll host commands (.start config state)).2 = session)
    (hcaching : session.cache.config.caching = true)
    (haccepts : ∀ text state,
      (host.deliver session.cache.config.sink text state).1 = .ok ())
    {command : Command} {request : Request} (hrequest : command.request? = some request)
    (hfull : request.isHollow session.cache.config.renderMode
      (session.cache.nextIdentifier request) = false) (later : Time) :
    (Moment.mk (command.run host now session).2 later command).Recalls host
        (command.run host now session).1 ↔
      (session.cache.find? request).isSome = true ∨
        session.cache.schedule.withinDebounce now session.cache.config.sweepDebounce = true ∨
        (session.cache.store request.kind).rivals now (request.fingerprint session.cache.config) <
          session.cache.config.maxEntries := by
  have hdistinct : session.cache.Distinct := hreached ▸ (distinct_start host config state).2
  have hused : session.cache.UsedBy now := hreached ▸ usedBy_start host config state hclock
  rw [Moment.recalls_iff_find? host hrequest, run_of_request host now session hrequest]
  cases hfound : session.cache.find? request with
  | some entry =>
    have htouched : (session.resolve host request now).2.cache.find? request =
        some (entry.touch now) := by
      rw [Session.resolve, hfound]
      exact (Cache.find?_touch hcaching request now).trans (congrArg _ hfound)
    have hanswer : (session.resolve host request now).1 = ⟨entry.identifier, true⟩ := by
      rw [Session.resolve, hfound]
      rfl
    refine iff_of_true ⟨entry.touch now, htouched, ?_⟩ (.inl rfl)
    rw [hanswer]
    rfl
  | none =>
    obtain ⟨hanswer, hcache, -⟩ := session.resolve_of_missing now host hfound
    have hissue := session.issue_issuance host request
    have hsucceeded := hissue.succeeded haccepts hfull
    have hafter := hissue.find?_recorded hdistinct hused hcaching hfound hsucceeded
    have hresolution : (session.issue host request).1.resolution =
        ⟨(session.issue host request).1.identifier, true⟩ := by
      rw [Session.Issued.resolution, hsucceeded]
    rw [hanswer, hcache, hafter, hresolution, Option.isSome_none, or_iff_right Bool.false_ne_true,
      ← Cache.spares_iff]
    split
    · rename_i hspared
      exact iff_of_true ⟨_, rfl, rfl⟩ hspared
    · rename_i hswept
      refine iff_of_false ?_ hswept
      rintro ⟨entry, hnone, -⟩
      exact absurd hnone.symm (Option.some_ne_none entry)

def blue : Command := .style [("color".toList, .text "blue".toList)] {}

/-- Its fingerprint is smaller than that of `blue`. -/
def red : Command := .style [("color".toList, .text "red".toList)] {}

/-- A cache for one entry that sweeps after every insertion, with `blue` in it since time zero. -/
def full : Session Sheet :=
  (runAll Sheet.host [(0, blue)] (.start { maxEntries := 1, sweepDebounce := 0 } [])).2

/-- The second of two calls for `red` at one time. -/
def redAgain (now : Time) : Moment Sheet := ⟨(red.run Sheet.host now full).2, now, red⟩

theorem recalls_redLater :
    (∀ timed ∈ [((0 : Time), blue)], timed.1 ≤ 5) ∧ full.cache.config.caching = true ∧
      (full.cache.store .style).length = 1 ∧
      (redAgain 5).Recalls Sheet.host (red.run Sheet.host 5 full).1 := by
  refine ⟨?clock, rfl, by decide +kernel, ?recalled⟩
  case clock => decide
  case recalled =>
    refine (recalls_iff Sheet.host { maxEntries := 1, sweepDebounce := 0 } [] ?_ rfl rfl
      (fun _ _ => rfl) rfl rfl 5).mpr ?_
    · decide
    · decide +kernel

/-- At the time of `blue` itself it is the new entry that is swept out, and the second call is issued another identifier. -/
theorem not_recalls_redTogether : ¬(redAgain 0).Recalls Sheet.host (red.run Sheet.host 0 full).1 := by
  intro hrecalls
  exact absurd hrecalls.answer (by decide +kernel)

end Command

end Stylesheet
