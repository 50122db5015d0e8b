import Stylesheet.Cache.Command
import Stylesheet.Proofs.Cache.Outcome
import Stylesheet.Proofs.Cache.Sweep
import Stylesheet.Sink.Sheet

/-!
# Sweeps that follow each other

A sweep drops what was idle for too long before it counts what is too many, but both go by one order: what was used after an entry that is not idle for too long is not idle for too long either. So the entries behind it can as well be counted in the whole store. An earlier sweep then takes nothing away that a later one would keep, and nothing that the later one counts against an entry that stays. Two sweeps come to the later one alone, in what is left, in what is forgotten and in what is counted.
-/

namespace Stylesheet

namespace Cache

theorem Entry.idle_le_of_le {entry : Entry} {earlier later : Time} (hle : earlier ≤ later) :
    entry.idle earlier ≤ entry.idle later :=
  Int.toNat_le_toNat (Int.sub_le_sub_right hle _)

namespace Store

variable {store : Store} {stored other : Fingerprint × Entry} {earlier later now : Time}

/-! ### One order for both phases -/

theorem idle_le_of_precedes (hlater : precedes stored other = true) :
    other.2.idle now ≤ stored.2.idle now := by
  have hused : stored.2.lastUsedAt ≤ other.2.lastUsedAt := by
    simp only [precedes, Bool.or_eq_true, Bool.and_eq_true, decide_eq_true_eq] at hlater
    rcases hlater with hless | ⟨htie, -⟩
    · exact hless.le
    · exact htie.le
  exact Int.toNat_le_toNat (Int.sub_le_sub_left hused _)

/-- What is used after an entry of the first phase is left by the first phase too. -/
theorem countP_precedes_fresh {maxIdle : Nat} (hidle : stored.2.idle now ≤ maxIdle) :
    (store.fresh now maxIdle).countP (precedes stored) = store.countP (precedes stored) := by
  rw [fresh, List.countP_filter]
  apply List.countP_congr
  intro other _
  simp only [Bool.and_eq_true, decide_eq_true_eq, and_iff_left_iff_imp]
  intro hlater
  exact (idle_le_of_precedes hlater).trans hidle

/-- An entry stays if it is not idle for too long and few enough entries of the store were used after it. -/
theorem kept_eq_filter (now : Time) (maxIdle limit : Nat) (store : Store) :
    store.kept now maxIdle limit = store.filter fun stored =>
      stored.2.idle now ≤ maxIdle && store.countP (precedes stored) < limit := by
  apply List.filter_congr
  intro stored hstored
  rw [survives, Bool.eq_iff_iff, Bool.and_eq_true, Bool.and_eq_true]
  refine and_congr_right fun hidle => ?_
  have hfresh : stored ∈ store.fresh now maxIdle := List.mem_filter.mpr ⟨hstored, hidle⟩
  rw [isRecent_iff hfresh, countP_precedes_fresh (of_decide_eq_true hidle), decide_eq_true_iff]

/-! ### Two sweeps of a store -/

theorem kept_kept (hle : earlier ≤ later) (maxIdle limit : Nat) (store : Store) :
    (store.kept earlier maxIdle limit).kept later maxIdle limit =
      store.kept later maxIdle limit := by
  -- What the earlier sweep leaves is not too much for the later one.
  have hfew : ∀ stored ∈ store.kept earlier maxIdle limit,
      (store.kept earlier maxIdle limit).countP (precedes stored) < limit ∧
        store.countP (precedes stored) < limit := by
    intro stored hstored
    rw [kept_eq_filter] at hstored
    have hkept := (List.mem_filter.mp hstored).2
    rw [Bool.and_eq_true, decide_eq_true_iff, decide_eq_true_iff] at hkept
    have hsublist : (store.kept earlier maxIdle limit).Sublist store := List.filter_sublist
    exact ⟨hsublist.countP_le.trans_lt hkept.2, hkept.2⟩
  calc (store.kept earlier maxIdle limit).kept later maxIdle limit
      = (store.kept earlier maxIdle limit).filter fun stored =>
          stored.2.idle later ≤ maxIdle && store.countP (precedes stored) < limit := by
        rw [kept_eq_filter later]
        apply List.filter_congr
        intro stored hstored
        rw [decide_eq_true (hfew stored hstored).1, decide_eq_true (hfew stored hstored).2]
    _ = store.kept later maxIdle limit := by
        rw [kept_eq_filter earlier, kept_eq_filter later, List.filter_filter]
        apply List.filter_congr
        intro stored _
        rw [Bool.eq_iff_iff]
        simp only [Bool.and_eq_true, decide_eq_true_eq]
        constructor
        · exact fun hboth => hboth.1
        · intro hkept
          exact ⟨hkept, (Entry.idle_le_of_le hle).trans hkept.1, hkept.2⟩

theorem kept_append_removed_perm (now : Time) (maxIdle limit : Nat) (store : Store) :
    (store.kept now maxIdle limit ++ store.removed now maxIdle limit).Perm store :=
  List.filter_append_perm _ store

/-- The two sweeps remove between them what the later one removes alone. -/
theorem removed_append_removed_perm (hle : earlier ≤ later) (maxIdle limit : Nat) (store : Store) :
    (store.removed earlier maxIdle limit ++
      (store.kept earlier maxIdle limit).removed later maxIdle limit).Perm
        (store.removed later maxIdle limit) := by
  have hfirst := kept_append_removed_perm earlier maxIdle limit store
  have hsecond := kept_append_removed_perm later maxIdle limit (store.kept earlier maxIdle limit)
  rw [kept_kept hle] at hsecond
  have hboth : (store.kept later maxIdle limit ++
      (store.removed earlier maxIdle limit ++
        (store.kept earlier maxIdle limit).removed later maxIdle limit)).Perm store := by
    refine List.Perm.trans ?_ ((hsecond.append_right _).trans hfirst)
    rw [List.append_assoc]
    exact List.perm_append_comm.append_left _
  exact (List.perm_append_left_iff _).mp
    (hboth.trans (kept_append_removed_perm later maxIdle limit store).symm)

end Store

/-! ### Two sweeps of a cache -/

variable {earlier later : Time} (cache : Cache)

theorem evicted_append_evicted_perm (hle : earlier ≤ later) :
    (cache.evicted earlier ++ (cache.swept earlier).evicted later).Perm (cache.evicted later) := by
  have hperm (store : Store) := Store.removed_append_removed_perm hle cache.config.maxIdle
    cache.config.maxEntries store
  rw [evicted, evicted, evicted, ← List.map_append]
  apply List.Perm.map
  refine List.Perm.trans ?_ ((hperm cache.styles).append (hperm cache.keyframes))
  rw [List.append_assoc, List.append_assoc]
  apply List.Perm.append_left
  rw [← List.append_assoc, ← List.append_assoc]
  exact List.perm_append_comm.append_right _

theorem Memory.forget_forget (first second : List UInt64) (memory : Memory) :
    (memory.forget first).forget second = memory.forget (first ++ second) := by
  rw [forget, forget, forget, List.filter_filter]
  apply List.filter_congr
  intro digest _
  rw [Bool.eq_iff_iff, Bool.and_eq_true, decide_eq_true_iff, decide_eq_true_iff,
    decide_eq_true_iff, List.mem_append, not_or]
  exact And.comm

theorem Memory.forget_of_perm {first second : List UInt64} (hperm : first.Perm second)
    (memory : Memory) : memory.forget first = memory.forget second := by
  apply List.filter_congr
  intro digest _
  rw [decide_eq_decide, hperm.mem_iff]

theorem swept_swept (hle : earlier ≤ later) : (cache.swept earlier).swept later =
    cache.swept later := by
  have hevicted := evicted_append_evicted_perm cache hle
  have hmemory : (cache.swept earlier).memory.forget
      (((cache.swept earlier).evicted later).map fun entry => Hash.ofText entry.text) =
      (cache.swept later).memory := by
    show (cache.memory.forget _).forget _ = cache.memory.forget _
    rw [Memory.forget_forget, ← List.map_append]
    exact Memory.forget_of_perm (hevicted.map _) _
  have hcounted : (cache.swept earlier).counters.evictions +
      ((cache.swept earlier).evicted later).length = (cache.swept later).counters.evictions := by
    show cache.counters.evictions + _ + _ = cache.counters.evictions + _
    rw [Nat.add_assoc, ← List.length_append, hevicted.length_eq]
  rw [swept, hmemory, hcounted]
  simp only [swept, Store.kept_kept hle]

end Cache

namespace Session

variable {σ : Type} {earlier later : Time}

theorem fst_evictAt (session : Session σ) (now : Time) :
    (session.evictAt now).1 = (session.cache.evicted now).length := rfl

/-- A sweep for one time and then one for a later time leave the cache as the later one alone leaves it, and return the same number together. So a sweep that is repeated removes nothing. -/
theorem evictAt_absorbs (session : Session σ) (hle : earlier ≤ later) :
    ((session.evictAt earlier).2.evictAt later).2.cache = (session.evictAt later).2.cache ∧
      (session.evictAt earlier).1 + ((session.evictAt earlier).2.evictAt later).1 =
        (session.evictAt later).1 ∧
      ((session.evictAt later).2.evictAt later).1 = 0 := by
  have hcount {first second : Time} (hle : first ≤ second) :
      (session.evictAt first).1 + ((session.evictAt first).2.evictAt second).1 =
        (session.evictAt second).1 := by
    have hlength := (Cache.evicted_append_evicted_perm session.cache hle).length_eq
    rw [List.length_append] at hlength
    rw [fst_evictAt, fst_evictAt, fst_evictAt, cache_evictAt]
    exact hlength
  refine ⟨?_, hcount hle, Nat.add_eq_left.mp (hcount le_rfl)⟩
  rw [cache_evictAt, cache_evictAt, cache_evictAt, Cache.swept_swept session.cache hle]

/-- Four named styles in a cache for two, of which the second and the third came at one time. Only the first insertion is followed by a sweep. -/
def paints : Session Sheet :=
  let paint (color : String) : Command :=
    .style [("color".toList, .text color.toList)] { name := some color.toList }
  (Command.runAll Sheet.host
    [(0, paint "red"), (20, paint "blue"), (20, paint "green"), (40, paint "gray")]
    (.start { maxEntries := 2, maxIdle := 50, sweepDebounce := 500 } [])).2

/-- The earlier sweep has two styles too many, and the later one finds all three old ones idle for too long. -/
theorem evictAt_absorbs_paints :
    (45 : Time) ≤ 75 ∧
      ((paints.evictAt 45).2.evictAt 75).2.cache = (paints.evictAt 75).2.cache ∧
      (paints.evictAt 45).1 = 2 ∧ ((paints.evictAt 45).2.evictAt 75).1 = 1 ∧
      (paints.evictAt 75).1 = 3 ∧ (paints.evictAt 75).2.cache.styles.length = 1 ∧
      (paints.evictAt 75).2.cache.memory.length = 1 := by
  have hle : (45 : Time) ≤ 75 := by decide
  obtain ⟨hcache, hcount, -⟩ := evictAt_absorbs paints hle
  have hfirst : (paints.evictAt 45).1 = 2 := by decide +kernel
  have hsecond : ((paints.evictAt 45).2.evictAt 75).1 = 1 := by decide +kernel
  rw [hfirst, hsecond] at hcount
  exact ⟨hle, hcache, hfirst, hsecond, hcount.symm, by decide +kernel, by decide +kernel⟩

end Session

end Stylesheet
