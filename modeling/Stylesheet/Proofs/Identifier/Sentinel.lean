import Stylesheet.Cache.Command
import Stylesheet.Proofs.Identifier.Default
import Stylesheet.Sink.Sheet

/-!
# The identifier for rejected requests

One identifier answers every rejected request and is meant for nothing else. A custom name and a generated one are compared with it before they are used; a default identifier is not. As the parts of a default identifier can be told apart from its end, there is just one way for the default scheme to write it: under the prefix `styled` without any mark, with the digest `invali` and as the thirteenth issue, which ends in `d`.
-/

namespace Stylesheet

namespace Identifier

variable {config : Config} {options : Option StyleOptions} {seed : Seed}

/-! ### Names that are compared -/

theorem custom?_ne_invalid {identPrefix : Text} {options : StyleOptions} {identifier : Identifier}
    (hcustom : custom? identPrefix options = some identifier) : identifier ≠ invalid := by
  obtain ⟨raw, -, hraw⟩ := Option.bind_eq_some_iff.mp hcustom
  split at hraw
  · exact absurd hraw nofun
  · rename_i hunusable
    obtain rfl := Option.some.inj hraw
    intro heq
    apply hunusable
    rw [Bool.or_eq_true]
    exact .inr (decide_eq_true heq)

theorem generated?_ne_invalid {identifier : Identifier}
    (hgenerated : generated? config seed = some identifier) : identifier ≠ invalid := by
  obtain ⟨generate, -, hproduct⟩ := Option.bind_eq_some_iff.mp hgenerated
  split at hproduct
  · rename_i husable
    obtain rfl := Option.some.inj hproduct
    rw [isUsable, Bool.and_eq_true] at husable
    exact of_decide_eq_true husable.2
  · exact absurd hproduct nofun

/-! ### The default scheme -/

/-- What stands in front of the last hyphen of a default identifier. -/
def front (debug : Bool) (seed : Seed) : Text :=
  seed.identPrefix ++ kindMark seed.kind ++ labelMark debug seed.label

theorem byDefault_eq (debug : Bool) (seed : Seed) :
    byDefault debug seed = front debug seed ++ '-' :: token seed := rfl

theorem byDefault_eq_append_iff {debug : Bool} {before after : Text} (hafter : '-' ∉ after) :
    byDefault debug seed = before ++ '-' :: after ↔
      front debug seed = before ∧ token seed = after := by
  constructor
  · intro heq
    have htoken : token seed = after := by
      rw [← rtakeWhile_byDefault debug seed, heq, rtakeWhile_hyphen before hafter]
    rw [byDefault_eq, htoken] at heq
    exact ⟨List.append_cancel_right heq, htoken⟩
  · rintro ⟨rfl, rfl⟩
    exact byDefault_eq debug seed

/-- The marks of a default identifier start with a hyphen, so a front without one is a bare prefix. -/
theorem front_eq_iff {debug : Bool} {word : Text} (hword : '-' ∉ word) :
    front debug seed = word ↔
      seed.identPrefix = word ∧ seed.kind = .style ∧ labelMark debug seed.label = [] := by
  constructor
  · intro hfront
    have hmark : '-' ∉ kindMark seed.kind ∧ '-' ∉ labelMark debug seed.label := by
      rw [← hfront, front, List.mem_append, List.mem_append] at hword
      exact ⟨fun hmem => hword (.inl (.inr hmem)), fun hmem => hword (.inr hmem)⟩
    have hkind : seed.kind = .style := by
      cases hkind : seed.kind with
      | style => rfl
      | keyframes | global => exact absurd (by decide) (hkind ▸ hmark.1)
    have hlabel : labelMark debug seed.label = [] := by
      have hhyphen := hmark.2
      unfold labelMark at hhyphen ⊢
      split at hhyphen
      · rfl
      · split at hhyphen
        · exact absurd List.mem_cons_self hhyphen
        · rename_i hbare
          exact if_neg hbare
    rw [front, hkind, hlabel, kindMark, List.append_nil, List.append_nil] at hfront
    exact ⟨hfront, hkind, hlabel⟩
  · rintro ⟨rfl, hkind, hlabel⟩
    rw [front, hkind, hlabel, kindMark, List.append_nil, List.append_nil]

/-- The digest takes the first places of a token, and the rest of it counts. -/
theorem token_eq_iff {digits : Text} {n : Nat} (hdigits : digits.length = digestWidth) :
    token seed = digits ++ Numeral.inBase 36 n ↔
      digest seed.fingerprint = digits ∧ seed.sequence = n := by
  constructor
  · intro htoken
    have hlength : (digest seed.fingerprint).length = digits.length := by
      rw [length_digest, hdigits]
    obtain ⟨hdigest, hcount⟩ := List.append_inj htoken hlength
    exact ⟨hdigest, Numeral.inBase_injective (by omega) (by omega) hcount⟩
  · rintro ⟨rfl, rfl⟩
    rfl

theorem byDefault_eq_invalid_iff {debug : Bool} :
    byDefault debug seed = invalid ↔
      seed.identPrefix = "styled".toList ∧ seed.kind = .style ∧
        labelMark debug seed.label = [] ∧ digest seed.fingerprint = "invali".toList ∧
        seed.sequence = 13 := by
  have hinvalid : invalid =
      "styled".toList ++ '-' :: ("invali".toList ++ Numeral.inBase 36 13) := by
    decide +kernel
  have hafter : '-' ∉ "invali".toList ++ Numeral.inBase 36 13 := by decide +kernel
  rw [hinvalid, byDefault_eq_append_iff hafter, front_eq_iff (by decide), token_eq_iff (by decide),
    and_assoc, and_assoc]

/-! ### Choice -/

/-- A request is issued the identifier for rejected requests just if neither a custom name nor a generated one can be used and the default scheme happens to write it. -/
theorem issue_eq_invalid_iff (config : Config) (options : Option StyleOptions) (seed : Seed) :
    issue config options seed = invalid ↔
      options.bind (custom? seed.identPrefix) = none ∧ generated? config seed = none ∧
        seed.identPrefix = "styled".toList ∧ seed.kind = .style ∧
        labelMark config.debug seed.label = [] ∧ digest seed.fingerprint = "invali".toList ∧
        seed.sequence = 13 := by
  rw [issue]
  cases hcustom : options.bind (custom? seed.identPrefix) with
  | some identifier =>
    obtain ⟨given, -, hname⟩ := Option.bind_eq_some_iff.mp hcustom
    simp [custom?_ne_invalid hname]
  | none =>
    cases hgenerated : generated? config seed with
    | some identifier => simp [generated?_ne_invalid hgenerated]
    | none => simp [byDefault_eq_invalid_iff]

/-- One style again and again; the fingerprint of the request starts with the digits `invali`. -/
def thirteenTimes : List (Time × Command) :=
  List.replicate 13 (0, .style [("width".toList, .number ⟨4616346833314857654⟩)] {})

/-- Without caching each of the requests uses up a number, so the thirteenth is answered as if it were rejected, while its text goes to the sink. -/
theorem issue_eq_invalid_thirteenTimes :
    issue {} none ⟨.style, Text.sanitize "styled".toList, ⟨2456460568327518855⟩, 13, none⟩ =
        invalid ∧
      (Command.runAll Sheet.host thirteenTimes
        (.start { identPrefix := "styled".toList, caching := false } [])).1.getLast? =
          some (.identifier invalid) ∧
      (Command.runAll Sheet.host thirteenTimes
        (.start { identPrefix := "styled".toList, caching := false } [])).2.cache.counters =
          { misses := 13, deliveries := 13 } := by
  exact ⟨by decide +kernel, by decide +kernel, by decide +kernel⟩

end Identifier

end Stylesheet
