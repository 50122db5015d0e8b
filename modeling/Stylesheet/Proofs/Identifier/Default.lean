import Mathlib.Data.List.DropRight
import Stylesheet.Identifier
import Stylesheet.Proofs.Identifier.Numeral

/-!
# Default identifiers

A prefix, a label and the marks between them can hold hyphens of their own, so where one part of a default identifier ends cannot be told from its front. It can be told from its end: what follows the last hyphen is the token, the token has the digest in its first places, and what is left are the digits of the number that was counted. Thus a default identifier gives that number back, and two of them are equal only if they were made with the same one.
-/

namespace Stylesheet

namespace Identifier

/-- What stands after the last hyphen of a default identifier. -/
def token (seed : Seed) : Text := digest seed.fingerprint ++ Numeral.inBase 36 seed.sequence

/-- Reads the number of a default identifier. -/
def number (identifier : Identifier) : Nat :=
  Numeral.value 36 ((identifier.rtakeWhile (· ≠ '-')).drop digestWidth)

theorem length_digest (fingerprint : Fingerprint) : (digest fingerprint).length = digestWidth := by
  rw [digest, Numeral.padded, List.length_append, List.length_replicate, List.length_take]
  omega

theorem hyphen_notMem_digest (fingerprint : Fingerprint) : '-' ∉ digest fingerprint := by
  intro hmem
  rcases List.mem_append.mp hmem with hzero | hdigit
  · exact absurd (List.eq_of_mem_replicate hzero) (by decide)
  · exact Numeral.hyphen_notMem_inBase (by omega) (by omega) _ (List.mem_of_mem_take hdigit)

theorem hyphen_notMem_token (seed : Seed) : '-' ∉ token seed := by
  intro hmem
  rcases List.mem_append.mp hmem with hdigest | hsequence
  · exact hyphen_notMem_digest _ hdigest
  · exact Numeral.hyphen_notMem_inBase (by omega) (by omega) _ hsequence

theorem rtakeWhile_hyphen (before : Text) {after : Text} (hafter : '-' ∉ after) :
    (before ++ '-' :: after).rtakeWhile (· ≠ '-') = after := by
  have hall : ∀ c ∈ after.reverse, decide (c ≠ '-') = true := by
    intro c hmem
    refine decide_eq_true fun heq => hafter ?_
    exact heq ▸ List.mem_reverse.mp hmem
  rw [List.rtakeWhile, List.reverse_append, List.reverse_cons, List.append_assoc,
    List.takeWhile_append_of_pos hall, List.singleton_append,
    List.takeWhile_cons_of_neg (by simp), List.append_nil, List.reverse_reverse]

theorem rtakeWhile_byDefault (debug : Bool) (seed : Seed) :
    (byDefault debug seed).rtakeWhile (· ≠ '-') = token seed :=
  rtakeWhile_hyphen _ (hyphen_notMem_token seed)

/-- The number of a default identifier can be read off it, whatever its other parts hold. -/
theorem number_byDefault (debug : Bool) (seed : Seed) :
    number (byDefault debug seed) = seed.sequence := by
  rw [number, rtakeWhile_byDefault, token, List.drop_left' (length_digest _),
    Numeral.value_inBase (by omega) (by omega)]

end Identifier

end Stylesheet
