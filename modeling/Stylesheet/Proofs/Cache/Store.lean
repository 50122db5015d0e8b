import Mathlib.Data.List.Nodup
import Stylesheet.Cache.Basic

/-!
# Stores as maps

A store is a list of entries, and everything the cache does with it keeps the fingerprints distinct. Under that condition `find?` and membership say the same, and each operation is known by what it does to the members: an addition brings in one, a change leaves every fingerprint where it is, and a sweep or a removal only leaves out.
-/

namespace Stylesheet

/-- Whether requests of two kinds are answered from one store. -/
def RuleKind.SharesStore (left right : RuleKind) : Prop := left = .keyframes ↔ right = .keyframes

instance (left right : RuleKind) : Decidable (left.SharesStore right) :=
  inferInstanceAs (Decidable (_ ↔ _))

namespace Cache

namespace Store

variable {fingerprint : Fingerprint} {identifier : Identifier} {entry : Entry} {store : Store}

def fingerprints (store : Store) : List Fingerprint := store.map (·.1)

def Distinct (store : Store) : Prop := store.fingerprints.Nodup

/-! ### Looking up -/

theorem mem_of_find? (hfound : store.find? fingerprint = some entry) :
    (fingerprint, entry) ∈ store := by
  induction store with
  | nil => simp [find?] at hfound
  | cons head rest ih =>
    obtain ⟨other, old⟩ := head
    by_cases hother : other = fingerprint
    · simp only [find?, hother, if_true, Option.some.injEq] at hfound
      subst hfound
      simp [hother]
    · simp only [find?, hother, if_false] at hfound
      exact List.mem_cons_of_mem _ (ih hfound)

theorem find?_eq_none_iff : store.find? fingerprint = none ↔ fingerprint ∉ store.fingerprints := by
  induction store with
  | nil => simp [find?, fingerprints]
  | cons head rest ih =>
    obtain ⟨other, old⟩ := head
    by_cases hother : other = fingerprint
    · simp [find?, fingerprints, hother]
    · have hflip : fingerprint ≠ other := fun h => hother h.symm
      simp only [find?, hother, if_false, ih]
      simp [fingerprints, hflip]

theorem mem_fingerprints {stored : Fingerprint × Entry} (hmem : stored ∈ store) :
    stored.1 ∈ store.fingerprints :=
  List.mem_map_of_mem hmem

theorem find?_of_mem (hdistinct : store.Distinct) (hmem : (fingerprint, entry) ∈ store) :
    store.find? fingerprint = some entry := by
  induction store with
  | nil => simp at hmem
  | cons head rest ih =>
    obtain ⟨other, old⟩ := head
    obtain ⟨hfresh, hrest⟩ := List.nodup_cons.mp hdistinct
    rcases List.mem_cons.mp hmem with heq | hlater
    · obtain ⟨rfl, rfl⟩ := Prod.mk.inj heq
      simp [find?]
    · have hlisted : fingerprint ∈ fingerprints rest := mem_fingerprints hlater
      have hne : other ≠ fingerprint := fun heq => hfresh (heq ▸ hlisted)
      rw [find?, if_neg hne]
      exact ih hrest hlater

theorem contains_of_mem {stored : Fingerprint × Entry} (hmem : stored ∈ store) :
    store.contains stored.1 = true := by
  rw [contains, Option.isSome_iff_ne_none]
  exact fun hnone => find?_eq_none_iff.mp hnone (mem_fingerprints hmem)

theorem carries_of_mem (hdistinct : store.Distinct) {stored : Fingerprint × Entry}
    (hmem : stored ∈ store) (heq : stored.1 = fingerprint) :
    store.carries fingerprint identifier = decide (stored.2.identifier = identifier) := by
  subst heq
  rw [carries, find?_of_mem hdistinct hmem]

/-! ### Adding, changing and leaving out -/

theorem Distinct.nil : Distinct [] := List.nodup_nil

theorem Distinct.add (hdistinct : store.Distinct) (hnew : store.find? fingerprint = none) :
    (store.add fingerprint entry).Distinct := by
  have hfresh := find?_eq_none_iff.mp hnew
  rw [Distinct, Store.add, fingerprints, List.map_append, List.nodup_append]
  refine ⟨hdistinct, by simp, ?_⟩
  intro other hother added hadded
  rw [List.map_singleton, List.mem_singleton] at hadded
  subst hadded
  exact fun heq => hfresh (heq ▸ hother)

theorem Distinct.filter (hdistinct : store.Distinct) (keep : Fingerprint × Entry → Bool) :
    Distinct (store.filter keep) :=
  hdistinct.sublist (List.filter_sublist.map _)

theorem fingerprints_modify (change : Entry → Entry) :
    (store.modify fingerprint change).fingerprints = store.fingerprints := by
  rw [fingerprints, fingerprints, Store.modify, List.map_map]
  apply List.map_congr_left
  rintro ⟨other, old⟩ _
  simp only [Function.comp_apply]
  split <;> rfl

theorem Distinct.modify (hdistinct : store.Distinct) (change : Entry → Entry) :
    (store.modify fingerprint change).Distinct := by
  rw [Distinct, fingerprints_modify]
  exact hdistinct

theorem mem_add {stored : Fingerprint × Entry} :
    stored ∈ store.add fingerprint entry ↔ stored ∈ store ∨ stored = (fingerprint, entry) := by
  rw [Store.add, List.mem_append, List.mem_singleton]

theorem mem_modify {change : Entry → Entry} {stored : Fingerprint × Entry} :
    stored ∈ store.modify fingerprint change ↔
      ∃ old ∈ store, stored = if old.1 = fingerprint then (old.1, change old.2) else old := by
  rw [Store.modify, List.mem_map]
  exact ⟨fun ⟨old, hold, heq⟩ => ⟨old, hold, heq.symm⟩,
    fun ⟨old, hold, heq⟩ => ⟨old, hold, heq.symm⟩⟩

theorem Distinct.markMaterialized (hdistinct : store.Distinct) :
    (store.markMaterialized fingerprint identifier).Distinct := by
  rw [Store.markMaterialized]
  split
  · exact hdistinct.modify _
  · exact hdistinct

theorem Distinct.removeIfIssued (hdistinct : store.Distinct) :
    (store.removeIfIssued fingerprint identifier).Distinct := by
  rw [Store.removeIfIssued]
  split
  · exact hdistinct.filter _
  · exact hdistinct

theorem Distinct.kept (hdistinct : store.Distinct) (now : Time) (maxIdle limit : Nat) :
    (store.kept now maxIdle limit).Distinct :=
  hdistinct.filter _

theorem mem_of_mem_kept {now : Time} {maxIdle limit : Nat} {stored : Fingerprint × Entry}
    (hmem : stored ∈ store.kept now maxIdle limit) : stored ∈ store :=
  List.mem_of_mem_filter hmem

/-- Marking reaches an entry if it carries the identifier, and leaves all else as it is. -/
theorem mem_markMaterialized (hdistinct : store.Distinct) {stored : Fingerprint × Entry}
    (hmem : stored ∈ store.markMaterialized fingerprint identifier) :
    ∃ old ∈ store, stored = if old.1 = fingerprint ∧ old.2.identifier = identifier then
      (old.1, { old.2 with materialized := true }) else old := by
  rw [markMaterialized] at hmem
  split at hmem
  · rename_i hcarries
    obtain ⟨old, hold, rfl⟩ := mem_modify.mp hmem
    refine ⟨old, hold, ?_⟩
    by_cases heq : old.1 = fingerprint
    · have hissued := hcarries.symm.trans (carries_of_mem hdistinct hold heq)
      rw [if_pos heq, if_pos ⟨heq, of_decide_eq_true hissued.symm⟩]
    · rw [if_neg heq, if_neg fun hboth => heq hboth.1]
  · rename_i hother
    refine ⟨stored, hmem, (if_neg ?_).symm⟩
    rintro ⟨heq, hissued⟩
    exact hother ((carries_of_mem hdistinct hmem heq).trans (decide_eq_true hissued))

/-- A removal takes out exactly the entry that carries the identifier. -/
theorem mem_removeIfIssued (hdistinct : store.Distinct) {stored : Fingerprint × Entry}
    (hmem : stored ∈ store.removeIfIssued fingerprint identifier) :
    stored ∈ store ∧ ¬(stored.1 = fingerprint ∧ stored.2.identifier = identifier) := by
  rw [removeIfIssued] at hmem
  split at hmem
  · obtain ⟨hold, hne⟩ := List.mem_filter.mp hmem
    exact ⟨hold, fun hboth => of_decide_eq_true hne hboth.1⟩
  · rename_i hother
    refine ⟨hmem, ?_⟩
    rintro ⟨heq, hissued⟩
    exact hother ((carries_of_mem hdistinct hmem heq).trans (decide_eq_true hissued))

end Store

/-! ### The stores of a cache -/

variable {kind other : RuleKind} (change : Store → Store) (cache : Cache)

theorem store_modifyStore : (cache.modifyStore kind change).store other =
    if kind.SharesStore other then change (cache.store other) else cache.store other := by
  cases kind <;> cases other <;> simp [RuleKind.SharesStore, modifyStore, store]

theorem store_modifyStore_self : (cache.modifyStore kind change).store kind =
    change (cache.store kind) := by
  cases kind <;> rfl

theorem queue_modifyStore : (cache.modifyStore kind change).queue = cache.queue := by
  cases kind <;> rfl

theorem config_modifyStore : (cache.modifyStore kind change).config = cache.config := by
  cases kind <;> rfl

theorem memory_modifyStore : (cache.modifyStore kind change).memory = cache.memory := by
  cases kind <;> rfl

theorem schedule_modifyStore : (cache.modifyStore kind change).schedule = cache.schedule := by
  cases kind <;> rfl

theorem issued_modifyStore : (cache.modifyStore kind change).issued = cache.issued := by
  cases kind <;> rfl

theorem modifyStore_eq : cache.modifyStore kind change =
    { cache with
      styles := (cache.modifyStore kind change).styles
      keyframes := (cache.modifyStore kind change).keyframes } := by
  cases kind <;> rfl

variable {cache} {after : Cache}

theorem store_congr (hstyles : after.styles = cache.styles)
    (hkeyframes : after.keyframes = cache.keyframes) (kind : RuleKind) :
    after.store kind = cache.store kind := by
  cases kind
  · exact hstyles
  · exact hkeyframes
  · exact hstyles

theorem store_of_shares (hshares : kind.SharesStore other) (cache : Cache) :
    cache.store kind = cache.store other := by
  cases kind <;> cases other <;> simp_all [RuleKind.SharesStore, store]

theorem mem_store_of_mem_swept {now : Time} {stored : Fingerprint × Entry}
    (hstored : stored ∈ (cache.swept now).store kind) : stored ∈ cache.store kind := by
  cases kind <;> exact Store.mem_of_mem_kept hstored

theorem find?_eq (hcaching : cache.config.caching = true) (request : Request) :
    cache.find? request =
      (cache.store request.kind).find? (request.fingerprint cache.config) :=
  if_pos hcaching

end Cache

end Stylesheet
