import Mathlib.Data.List.MinMax
import Mathlib.Data.Prod.Lex
import Stylesheet.Proofs.Cache.Store

/-!
# What a sweep leaves

A sweep asks of each entry on its own how many others were used after it. Entries are ordered by the time of their last use and then by their fingerprint, and as fingerprints are distinct in a store, no two entries are level. So the earliest of the entries that stay has all the others behind it, which is why there can be no more of them than the limit.
-/

namespace Stylesheet

namespace Cache

namespace Store

variable {store : Store} {limit : Nat} {stored earlier later : Fingerprint × Entry}

/-! ### The order of entries -/

/-- The time of the last use, and the fingerprint among entries used at one time. -/
def rank (stored : Fingerprint × Entry) : Time ×ₗ Nat :=
  toLex (stored.2.lastUsedAt, stored.1.word.toNat)

theorem precedes_iff : precedes earlier later = true ↔ rank earlier < rank later := by
  rw [rank, rank, Prod.Lex.toLex_lt_toLex]
  simp only [precedes, Bool.or_eq_true, Bool.and_eq_true, decide_eq_true_eq,
    UInt64.lt_iff_toNat_lt]

theorem precedes_self (stored : Fingerprint × Entry) : precedes stored stored = false := by
  simp [precedes]

theorem fingerprint_of_rank (hlevel : rank earlier = rank later) : earlier.1 = later.1 := by
  have hpairs := toLex.injective hlevel
  have hword : earlier.1.word.toNat = later.1.word.toNat := congrArg Prod.snd hpairs
  exact congrArg Fingerprint.mk (UInt64.toNat_inj.mp hword)

theorem eq_of_fingerprint (hdistinct : store.Distinct) (hearlier : earlier ∈ store)
    (hlater : later ∈ store) (hfingerprint : earlier.1 = later.1) : earlier = later := by
  have hentry := find?_of_mem hdistinct hearlier
  rw [hfingerprint, find?_of_mem hdistinct hlater, Option.some.injEq] at hentry
  exact Prod.ext hfingerprint hentry.symm

/-! ### How many entries stay -/

/-- In a store that is small enough there are not many entries to come after one of them. -/
theorem isRecent_iff (hstored : stored ∈ store) :
    isRecent limit store stored = true ↔ store.countP (precedes stored) < limit := by
  have hothers : store.countP (precedes stored) < store.length := by
    refine Nat.lt_of_le_of_ne List.countP_le_length fun hall => ?_
    have hself := List.countP_eq_length.mp hall stored hstored
    exact Bool.false_ne_true ((precedes_self stored).symm.trans hself)
  simp only [isRecent, Bool.or_eq_true, decide_eq_true_eq]
  omega

/-- One of the entries precedes all the others. -/
theorem exists_earliest (hdistinct : store.Distinct) (hnonempty : store ≠ []) :
    ∃ earliest ∈ store, store.length ≤ store.countP (precedes earliest) + 1 := by
  obtain ⟨earliest, hargmin⟩ : ∃ earliest, store.argmin rank = some earliest := by
    apply Option.ne_none_iff_exists'.mp
    intro hnone
    exact hnonempty (List.argmin_eq_none.mp hnone)
  have hmem : earliest ∈ store := List.argmin_mem hargmin
  refine ⟨earliest, hmem, ?_⟩
  have hlevel : store.countP (fun other => ¬precedes earliest other) ≤ store.count earliest := by
    apply List.countP_mono_left
    intro other hother hnot
    have hle : rank earliest ≤ rank other := List.le_of_mem_argmin hother hargmin
    have hnlt : ¬rank earliest < rank other := by
      rw [← precedes_iff]
      exact of_decide_eq_true hnot
    have hrank : rank earliest = rank other := le_antisymm hle (not_lt.mp hnlt)
    have hsame := eq_of_fingerprint hdistinct hmem hother (fingerprint_of_rank hrank)
    exact beq_iff_eq.mpr hsame.symm
  have honce : store.count earliest ≤ 1 := List.nodup_iff_count_le_one.mp hdistinct.of_map earliest
  have hsplit := List.length_eq_countP_add_countP (precedes earliest) (l := store)
  omega

theorem kept_eq (now : Time) (maxIdle limit : Nat) (store : Store) :
    store.kept now maxIdle limit =
      (store.fresh now maxIdle).filter (isRecent limit (store.fresh now maxIdle)) := by
  show store.filter _ = (store.filter _).filter _
  rw [List.filter_filter]
  apply List.filter_congr
  intro stored _
  exact Bool.and_comm _ _

/-- A sweep leaves no more entries than the limit. -/
theorem length_kept_le (hdistinct : store.Distinct) (now : Time) (maxIdle limit : Nat) :
    (store.kept now maxIdle limit).length ≤ limit := by
  by_cases hempty : store.kept now maxIdle limit = []
  · rw [hempty]
    exact Nat.zero_le limit
  have hkept : Store.Distinct (store.kept now maxIdle limit) := hdistinct.kept now maxIdle limit
  obtain ⟨earliest, hmem, hlength⟩ := exists_earliest hkept hempty
  rw [kept_eq] at hmem hlength ⊢
  obtain ⟨hfresh, hrecent⟩ := List.mem_filter.mp hmem
  have hfew := (isRecent_iff hfresh).mp hrecent
  have hwithin : ((store.fresh now maxIdle).filter
      (isRecent limit (store.fresh now maxIdle))).countP (precedes earliest) ≤
      (store.fresh now maxIdle).countP (precedes earliest) :=
    List.filter_sublist.countP_le
  omega

end Store

end Cache

end Stylesheet
