import Mathlib.Data.List.Sort
import Stylesheet.Proofs.Cache.Sweep

/-!
# Sweeping step by step

A sweep can be carried out on the spot, in two passes over the store. The first drops the entries that were idle for too long. If more are left than the limit allows, the second puts the surplus that was used first to the front of a list of candidates, in whatever order, and takes these out of the store one after another. An entry that is taken out is shown to whoever asked for the sweep, and counted.

The two passes come to the same as asking each entry on its own whether it stays. What stays are the entries used last, as many as the limit allows, and every other entry is shown once.
-/

namespace Stylesheet

namespace Cache

/-! ### Candidates -/

/-- What decides which entries are too many: the time of the last use, and the fingerprint among entries used at one time. -/
abbrev Candidate := Time × Fingerprint

namespace Candidate

def ofStored (stored : Fingerprint × Entry) : Candidate := (stored.2.lastUsedAt, stored.1)

def key (candidate : Candidate) : Time ×ₗ Nat := toLex (candidate.1, candidate.2.word.toNat)

theorem key_injective : Function.Injective key := by
  intro left right hkey
  have hpairs : (left.1, left.2.word.toNat) = (right.1, right.2.word.toNat) :=
    toLex.injective hkey
  have hword : left.2.word.toNat = right.2.word.toNat := congrArg Prod.snd hpairs
  apply Prod.ext
  · exact (Prod.mk.inj hpairs).1
  · exact congrArg Fingerprint.mk (UInt64.toNat_inj.mp hword)

end Candidate

/-- A way to rearrange candidates around an index: none of those up to the index comes after one of the others. -/
structure Selects (select : Nat → List Candidate → List Candidate) : Prop where
  perm : ∀ {index : Nat} {candidates : List Candidate}, index < candidates.length →
    (select index candidates).Perm candidates
  smallest : ∀ {index : Nat} {candidates : List Candidate}, index < candidates.length →
    ∀ early ∈ (select index candidates).take (index + 1),
    ∀ late ∈ (select index candidates).drop (index + 1), early.key ≤ late.key

/-! ### The two passes -/

/-- A store that is being swept, and what was taken out of it so far. -/
structure Sweeping where
  store : Store
  /-- In the order in which they are shown. -/
  shown : Store
  removed : Nat

namespace Sweeping

/-- The first pass keeps the entries that are not idle for too long. -/
def retain (now : Time) (maxIdle : Nat) : Store → Sweeping
  | [] => ⟨[], [], 0⟩
  | stored :: rest =>
    let later := retain now maxIdle rest
    if stored.2.idle now ≤ maxIdle then { later with store := stored :: later.store }
    else { later with shown := stored :: later.shown, removed := later.removed + 1 }

def takeOut (sweeping : Sweeping) (candidate : Candidate) : Sweeping :=
  match sweeping.store.find? candidate.2 with
  | none => sweeping
  | some entry =>
    { store := sweeping.store.filter (·.1 ≠ candidate.2)
      shown := sweeping.shown ++ [(candidate.2, entry)]
      removed := sweeping.removed + 1 }

/-- The second pass takes the surplus out. -/
def reduce (select : Nat → List Candidate → List Candidate) (limit : Nat)
    (sweeping : Sweeping) : Sweeping :=
  let candidates := sweeping.store.map Candidate.ofStored
  let surplus := min (sweeping.store.length - limit) candidates.length
  if surplus = 0 then sweeping
  else ((select (surplus - 1) candidates).take surplus).foldl takeOut sweeping

end Sweeping

def Store.sweep (select : Nat → List Candidate → List Candidate) (now : Time)
    (maxIdle limit : Nat) (store : Store) : Sweeping :=
  (Sweeping.retain now maxIdle store).reduce select limit

namespace Sweeping

variable {whole store : Store} {sweeping : Sweeping}

/-! ### Nothing is lost or shown twice -/

/-- What is left and what was shown make up the store, and what was shown was counted. -/
structure Accounts (whole : Store) (sweeping : Sweeping) : Prop where
  distinct : sweeping.store.Distinct
  whole : whole.Perm (sweeping.store ++ sweeping.shown)
  counted : sweeping.removed = sweeping.shown.length

theorem store_retain (now : Time) (maxIdle : Nat) (store : Store) :
    (retain now maxIdle store).store = store.fresh now maxIdle := by
  induction store with
  | nil => rfl
  | cons stored rest ih =>
    rw [retain]
    by_cases hfresh : stored.2.idle now ≤ maxIdle
    · have hkept : Store.fresh now maxIdle (stored :: rest) =
          stored :: Store.fresh now maxIdle rest :=
        List.filter_cons_of_pos (decide_eq_true hfresh)
      rw [if_pos hfresh, hkept, ← ih]
    · have hdropped : Store.fresh now maxIdle (stored :: rest) = Store.fresh now maxIdle rest :=
        List.filter_cons_of_neg (by simpa using hfresh)
      rw [if_neg hfresh, hdropped, ← ih]

theorem accounts_retain (now : Time) (maxIdle : Nat) (hdistinct : store.Distinct) :
    Accounts store (retain now maxIdle store) := by
  refine ⟨?_, ?_, ?_⟩
  · rw [store_retain]
    exact hdistinct.filter _
  · induction store with
    | nil => exact .nil
    | cons stored rest ih =>
      have hrest := ih (List.nodup_cons.mp hdistinct).2
      rw [retain]
      split
      · exact hrest.cons stored
      · exact (hrest.cons stored).trans List.perm_middle.symm
  · clear hdistinct
    induction store with
    | nil => rfl
    | cons stored rest ih =>
      rw [retain]
      split
      · exact ih
      · show _ + 1 = _ + 1
        rw [ih]

/-- Nothing happens if there is no entry to take out. -/
theorem store_takeOut (sweeping : Sweeping) (candidate : Candidate) :
    (sweeping.takeOut candidate).store = sweeping.store.filter (·.1 ≠ candidate.2) := by
  rw [takeOut]
  split
  · rename_i hmissing
    refine (List.filter_eq_self.mpr ?_).symm
    intro stored hstored
    apply decide_eq_true
    rintro heq
    exact Store.find?_eq_none_iff.mp hmissing (heq ▸ Store.mem_fingerprints hstored)
  · rfl

theorem Accounts.takeOut (haccounts : Accounts whole sweeping) (candidate : Candidate) :
    Accounts whole (sweeping.takeOut candidate) := by
  refine ⟨?_, ?_, ?_⟩
  · rw [store_takeOut]
    exact haccounts.distinct.filter _
  · rw [Sweeping.takeOut]
    split
    · exact haccounts.whole
    · rename_i entry hfound
      have hmem := Store.mem_of_find? hfound
      have hothers : sweeping.store.filter (·.1 ≠ candidate.2) =
          sweeping.store.erase (candidate.2, entry) := by
        rw [haccounts.distinct.of_map.erase_eq_filter]
        apply List.filter_congr
        intro stored hstored
        have hsame : stored.1 = candidate.2 ↔ stored = (candidate.2, entry) :=
          ⟨Store.eq_of_fingerprint haccounts.distinct hstored hmem, congrArg Prod.fst⟩
        rw [bne, beq_eq_decide, ← decide_not, decide_eq_decide]
        exact not_congr hsame
      rw [hothers, ← List.append_assoc]
      have hmoved := (List.perm_cons_erase hmem).append_right sweeping.shown
      exact haccounts.whole.trans (hmoved.trans (List.perm_append_singleton _ _).symm)
  · rw [Sweeping.takeOut]
    split
    · exact haccounts.counted
    · rw [haccounts.counted, List.length_append, List.length_singleton]

/-- A candidate takes no more than one entry with it. -/
theorem length_shown_foldl_le (chosen : List Candidate) (sweeping : Sweeping) :
    (chosen.foldl takeOut sweeping).shown.length ≤ sweeping.shown.length + chosen.length := by
  induction chosen generalizing sweeping with
  | nil => exact le_rfl
  | cons candidate rest ih =>
    have hfirst : (sweeping.takeOut candidate).shown.length ≤ sweeping.shown.length + 1 := by
      rw [takeOut]
      split
      · exact Nat.le_succ _
      · rw [List.length_append, List.length_singleton]
    have hrest := ih (sweeping.takeOut candidate)
    rw [List.foldl_cons, List.length_cons]
    omega

/-- Taking candidates out one after another leaves the entries with other fingerprints. -/
theorem store_foldl (chosen : List Candidate) (sweeping : Sweeping) :
    (chosen.foldl takeOut sweeping).store =
      sweeping.store.filter fun stored => stored.1 ∉ chosen.map Prod.snd := by
  induction chosen generalizing sweeping with
  | nil => simp
  | cons candidate rest ih =>
    rw [List.foldl_cons, ih, store_takeOut, List.filter_filter]
    apply List.filter_congr
    intro stored _
    rw [Bool.eq_iff_iff, Bool.and_eq_true, decide_eq_true_iff, decide_eq_true_iff,
      decide_eq_true_iff, List.map_cons, List.mem_cons, not_or]
    exact And.comm

theorem Accounts.foldl (haccounts : Accounts whole sweeping) (chosen : List Candidate) :
    Accounts whole (chosen.foldl Sweeping.takeOut sweeping) := by
  induction chosen generalizing sweeping with
  | nil => exact haccounts
  | cons candidate rest ih => exact ih (haccounts.takeOut candidate)

theorem length_shown_reduce_le (select : Nat → List Candidate → List Candidate) (limit : Nat)
    (sweeping : Sweeping) :
    (sweeping.reduce select limit).shown.length ≤
      sweeping.shown.length + (sweeping.store.length - limit) := by
  rw [reduce]
  split
  · exact Nat.le_add_right _ _
  · refine (length_shown_foldl_le _ sweeping).trans ?_
    rw [List.length_take]
    omega

theorem Accounts.reduce (haccounts : Accounts whole sweeping)
    (select : Nat → List Candidate → List Candidate) (limit : Nat) :
    Accounts whole (sweeping.reduce select limit) := by
  rw [Sweeping.reduce]
  split
  · exact haccounts
  · exact haccounts.foldl _

end Sweeping

/-! ### The surplus -/

section Surplus

variable {select : Nat → List Candidate → List Candidate} {limit : Nat} {store : Store}
  {stored : Fingerprint × Entry}

theorem nodup_candidates (hdistinct : store.Distinct) : (store.map Candidate.ofStored).Nodup := by
  apply List.Nodup.of_map Prod.snd
  rw [List.map_map]
  exact hdistinct

/-- Of candidates that are cut in two around an index, the later ones are those with few others behind them. -/
theorem countP_lt_iff_notMem_take {placed : List Candidate} (hdistinct : placed.Nodup) {count : Nat}
    (hsmallest : ∀ early ∈ placed.take count, ∀ late ∈ placed.drop count, early.key ≤ late.key)
    {candidate : Candidate} (hmem : candidate ∈ placed) :
    placed.countP (candidate.key < ·.key) < placed.length - count ↔
      candidate ∉ placed.take count := by
  have hsplit : placed.countP (candidate.key < ·.key) =
      (placed.take count).countP (candidate.key < ·.key) +
        (placed.drop count).countP (candidate.key < ·.key) := by
    rw [← List.countP_append, List.take_append_drop]
  have hlength : (placed.drop count).length = placed.length - count := List.length_drop
  by_cases hearly : candidate ∈ placed.take count
  · -- All of the later ones are behind it.
    have hbehind : (placed.drop count).countP (candidate.key < ·.key) =
        (placed.drop count).length := by
      apply List.countP_eq_length.mpr
      intro late hlate
      have hne : candidate ≠ late := by
        rintro rfl
        exact List.disjoint_take_drop hdistinct le_rfl hearly hlate
      have hle := hsmallest candidate hearly late hlate
      exact decide_eq_true (lt_of_le_of_ne hle fun hkey => hne (Candidate.key_injective hkey))
    constructor
    · omega
    · exact absurd hearly
  · -- None of the earlier ones is behind it, and of the later ones it is not behind itself.
    have hlate : candidate ∈ placed.drop count := by
      rw [← List.take_append_drop count placed] at hmem
      exact (List.mem_append.mp hmem).resolve_left hearly
    have hfront : (placed.take count).countP (candidate.key < ·.key) = 0 := by
      apply List.countP_eq_zero.mpr
      intro early hmem
      have hle := hsmallest early hmem candidate hlate
      simpa using hle
    have hothers : (placed.drop count).countP (candidate.key < ·.key) <
        (placed.drop count).length := by
      refine Nat.lt_of_le_of_ne List.countP_le_length fun hall => ?_
      have hself := List.countP_eq_length.mp hall candidate hlate
      exact lt_irrefl _ (of_decide_eq_true hself)
    constructor
    · intro _
      exact hearly
    · omega

/-- An entry is taken out as surplus just if there are too many others that were used after it. -/
theorem notMem_surplus_iff (hselect : Selects select) (hdistinct : store.Distinct)
    (hmore : limit < store.length) (hstored : stored ∈ store) :
    stored.1 ∉ ((select (store.length - limit - 1) (store.map Candidate.ofStored)).take
        (store.length - limit)).map Prod.snd ↔
      Store.isRecent limit store stored = true := by
  have hindex : store.length - limit - 1 < (store.map Candidate.ofStored).length := by
    rw [List.length_map]
    omega
  have hperm := hselect.perm hindex
  have hsmallest := hselect.smallest hindex
  have hcount : store.length - limit - 1 + 1 = store.length - limit := by omega
  rw [hcount] at hsmallest
  generalize select (store.length - limit - 1) (store.map Candidate.ofStored) = placed at *
  have hlength : placed.length = store.length := by
    rw [hperm.length_eq, List.length_map]
  have hmem : Candidate.ofStored stored ∈ placed := by
    rw [hperm.mem_iff]
    exact List.mem_map_of_mem hstored
  -- A fingerprint stands for one candidate only.
  have hfingerprint : stored.1 ∈ (placed.take (store.length - limit)).map Prod.snd ↔
      Candidate.ofStored stored ∈ placed.take (store.length - limit) := by
    constructor
    · intro htaken
      obtain ⟨candidate, hcandidate, heq⟩ := List.mem_map.mp htaken
      obtain ⟨other, hother, rfl⟩ :=
        List.mem_map.mp (hperm.mem_iff.mp (List.mem_of_mem_take hcandidate))
      rwa [Store.eq_of_fingerprint hdistinct hstored hother heq.symm]
    · exact List.mem_map_of_mem
  have hbehind : placed.countP ((Candidate.ofStored stored).key < ·.key) =
      store.countP (Store.precedes stored) := by
    rw [hperm.countP_eq, List.countP_map]
    apply List.countP_congr
    intro other _
    rw [Store.precedes_iff]
    exact decide_eq_true_iff
  rw [hfingerprint, Store.isRecent_iff hstored, ← hbehind, ← countP_lt_iff_notMem_take
    (hperm.nodup_iff.mpr (nodup_candidates hdistinct)) hsmallest hmem, hlength]
  omega

end Surplus

/-! ### What a sweep comes to -/

/-- The entries of a store that were used last, as many as there may be; they are all there if there are not too many. -/
structure Latest (limit : Nat) (store kept : Store) : Prop where
  sublist : kept.Sublist store
  length : kept.length = min limit store.length
  later : ∀ stays ∈ kept, ∀ goes ∈ store, goes ∉ kept → Store.precedes goes stays = true

namespace Store

variable {select : Nat → List Candidate → List Candidate} {now : Time} {maxIdle limit : Nat}
  {store : Store}

/-- The second pass leaves the entries that have few others behind them. -/
theorem store_reduce (hselect : Selects select) {sweeping : Sweeping}
    (hdistinct : sweeping.store.Distinct) :
    (sweeping.reduce select limit).store =
      sweeping.store.filter (isRecent limit sweeping.store) := by
  have hsurplus : min (sweeping.store.length - limit)
      (sweeping.store.map Candidate.ofStored).length = sweeping.store.length - limit := by
    rw [List.length_map]
    omega
  rw [Sweeping.reduce, hsurplus]
  split
  · rename_i hnone
    have hfew : sweeping.store.length ≤ limit := by omega
    refine (List.filter_eq_self.mpr fun stored _ => ?_).symm
    simp [isRecent, hfew]
  · rename_i hsome
    have hmore : limit < sweeping.store.length := by omega
    rw [Sweeping.store_foldl]
    apply List.filter_congr
    intro stored hstored
    rw [Bool.eq_iff_iff, decide_eq_true_iff]
    exact notMem_surplus_iff hselect hdistinct hmore hstored

theorem store_sweep (hselect : Selects select) (hdistinct : store.Distinct) (now : Time)
    (maxIdle limit : Nat) :
    (store.sweep select now maxIdle limit).store = store.kept now maxIdle limit := by
  have hfirst := Sweeping.accounts_retain now maxIdle hdistinct
  rw [sweep, store_reduce hselect hfirst.distinct, Sweeping.store_retain, kept_eq]

theorem latest_kept (hselect : Selects select) (hdistinct : store.Distinct) (now : Time)
    (maxIdle limit : Nat) :
    Latest limit (store.fresh now maxIdle) (store.kept now maxIdle limit) := by
  have hfirst := Sweeping.accounts_retain now maxIdle hdistinct
  have hfresh := Sweeping.store_retain now maxIdle store
  have hsublist : (store.kept now maxIdle limit).Sublist (store.fresh now maxIdle) := by
    rw [kept_eq]
    exact List.filter_sublist
  refine ⟨hsublist, ?_, ?_⟩
  · -- The second pass takes no more than the surplus, so enough entries are left.
    have hsecond := hfirst.reduce select limit
    have htaken := Sweeping.length_shown_reduce_le select limit (Sweeping.retain now maxIdle store)
    have hbefore := hfirst.whole.length_eq
    have hafter := hsecond.whole.length_eq
    rw [List.length_append, hfresh] at hbefore
    rw [List.length_append] at hafter
    change _ = (store.sweep select now maxIdle limit).store.length + _ at hafter
    rw [store_sweep hselect hdistinct] at hafter
    rw [hfresh] at htaken
    have hbound := length_kept_le hdistinct now maxIdle limit
    have hwithin := hsublist.length_le
    omega
  · -- Fewer entries come after one that stays than after one that goes.
    intro stays hstays goes hgoes hgone
    rw [kept_eq] at hstays hgone
    obtain ⟨hfresh, hrecent⟩ := List.mem_filter.mp hstays
    have hfew := (isRecent_iff hfresh).mp hrecent
    have hmany : ¬(store.fresh now maxIdle).countP (precedes goes) < limit := by
      intro hless
      exact hgone (List.mem_filter.mpr ⟨hgoes, (isRecent_iff hgoes).mpr hless⟩)
    by_contra hnot
    rw [precedes_iff, not_lt] at hnot
    have hmono : (store.fresh now maxIdle).countP (precedes goes) ≤
        (store.fresh now maxIdle).countP (precedes stays) := by
      apply List.countP_mono_left
      intro other _ hlater
      rw [precedes_iff] at hlater ⊢
      exact lt_of_le_of_lt hnot hlater
    omega

/-- A sweep leaves the entries used last of those not idle for too long, as they were. Each other entry, and none that stays, is shown once and counted. -/
theorem sweep_latest (hselect : Selects select) (hdistinct : store.Distinct) (now : Time)
    (maxIdle limit : Nat) :
    (store.sweep select now maxIdle limit).store = store.kept now maxIdle limit ∧
      Latest limit (store.fresh now maxIdle) (store.kept now maxIdle limit) ∧
      store.Perm (store.kept now maxIdle limit ++ (store.sweep select now maxIdle limit).shown) ∧
      (store.kept now maxIdle limit ++ (store.sweep select now maxIdle limit).shown).Nodup ∧
      (store.sweep select now maxIdle limit).shown.Perm (store.removed now maxIdle limit) ∧
      (store.sweep select now maxIdle limit).removed =
        (store.removed now maxIdle limit).length := by
  have hkept := store_sweep hselect hdistinct now maxIdle limit
  have haccounts : Sweeping.Accounts store (store.sweep select now maxIdle limit) :=
    (Sweeping.accounts_retain now maxIdle hdistinct).reduce select limit
  have hwhole := haccounts.whole
  rw [hkept] at hwhole
  have hparts : (store.kept now maxIdle limit ++ store.removed now maxIdle limit).Perm store :=
    List.filter_append_perm _ store
  have hshown : (store.sweep select now maxIdle limit).shown.Perm
      (store.removed now maxIdle limit) :=
    (List.perm_append_left_iff _).mp (hwhole.symm.trans hparts.symm)
  have honce : store.Nodup := hdistinct.of_map
  refine ⟨hkept, latest_kept hselect hdistinct now maxIdle limit, hwhole,
    hwhole.nodup_iff.mp honce, hshown, ?_⟩
  rw [haccounts.counted, hshown.length_eq]

end Store

/-- To sort all candidates is one way to select. -/
def sorting (_ : Nat) (candidates : List Candidate) : List Candidate :=
  candidates.insertionSort fun left right => left.key ≤ right.key

theorem selects_sorting : Selects sorting := by
  constructor
  · intro _ candidates _
    exact List.perm_insertionSort _ candidates
  · intro index candidates _
    have hsorted : (sorting index candidates).Pairwise fun left right => left.key ≤ right.key :=
      List.pairwise_insertionSort _ candidates
    rw [← List.take_append_drop (index + 1) (sorting index candidates)] at hsorted
    exact (List.pairwise_append.mp hsorted).2.2

namespace Store

/-- One entry was not used for long, and two of the others were used at one time. -/
def crowded : Store :=
  [(⟨3⟩, .create "css-a".toList [] 60 true), (⟨4⟩, .create "css-b".toList [] 0 true),
    (⟨1⟩, .create "css-c".toList [] 60 true), (⟨2⟩, .create "css-d".toList [] 70 true)]

theorem sweep_latest_crowded :
    Selects sorting ∧ crowded.Distinct ∧
      (crowded.sweep sorting 100 50 2).store = crowded.kept 100 50 2 ∧
      Latest 2 (crowded.fresh 100 50) (crowded.kept 100 50 2) ∧
      (crowded.sweep sorting 100 50 2).shown.Perm (crowded.removed 100 50 2) ∧
      (crowded.kept 100 50 2).map (·.1.word) = [3, 2] ∧
      (crowded.sweep sorting 100 50 2).shown.map (·.1.word) = [4, 1] := by
  have hdistinct : crowded.fingerprints.Nodup := by decide +kernel
  obtain ⟨hkept, hlatest, -, -, hshown, -⟩ := sweep_latest selects_sorting hdistinct 100 50 2
  exact ⟨selects_sorting, hdistinct, hkept, hlatest, hshown, by decide +kernel, by decide +kernel⟩

end Store

end Cache

end Stylesheet
