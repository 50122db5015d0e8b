import Mathlib.Logic.Function.Basic
import Stylesheet.Hash.Write

/-!
# A changed word changes the hash

A word enters the state by an addition and a multiplication with an odd constant, both of which can be undone, and so can the final rotation. From the state after a word one gets back the state before it if the word is known, and the word if that state is. So two sequences of words that differ at one place only bring the state apart there, and nothing that follows can bring it together again.
-/

namespace Stylesheet

namespace Hash

variable {left right : List Write}

/-! ### Nothing is lost on the way -/

/-- What the multiplier is undone with. -/
def inverse : UInt64 := 0x781494a55daaed0d

theorem multiplier_mul_inverse : multiplier * inverse = 1 := by decide

theorem mul_multiplier_injective : Function.Injective (· * multiplier) := by
  intro first second heq
  have hundone : first * multiplier * inverse = second * multiplier * inverse :=
    congrArg (· * inverse) heq
  rwa [UInt64.mul_assoc, UInt64.mul_assoc, multiplier_mul_inverse, UInt64.mul_one,
    UInt64.mul_one] at hundone

theorem addWord_injective (state : UInt64) : Function.Injective (addWord state) := by
  intro first second heq
  exact (UInt64.add_right_inj state).mp (mul_multiplier_injective heq)

theorem addWord_left_injective (word : UInt64) : Function.Injective (addWord · word) := by
  intro first second heq
  exact (UInt64.add_left_inj word).mp (mul_multiplier_injective heq)

theorem foldl_addWord_injective (words : List UInt64) :
    Function.Injective (words.foldl addWord ·) := by
  induction words with
  | nil => exact Function.injective_id
  | cons word rest ih => exact ih.comp (addWord_left_injective word)

theorem toBitVec_finish (state : UInt64) :
    (finish state).toBitVec = state.toBitVec.rotateLeft 26 := rfl

/-- The rotation takes each bit of the state to a place of its own. -/
theorem getLsbD_finish (state : UInt64) {place : Nat} (hplace : place < 64) :
    (finish state).toBitVec.getLsbD ((place + 26) % 64) = state.toBitVec.getLsbD place := by
  rw [toBitVec_finish, BitVec.getLsbD_rotateLeft]
  by_cases hhigh : place + 26 < 64
  · have hlow : ¬place + 26 < 26 := by omega
    simp [Nat.mod_eq_of_lt hhigh, hhigh, hlow]
  · have hwrapped : (place + 26) % 64 = place - 38 := by omega
    have hlow : place - 38 < 26 := by omega
    have hback : 38 + (place - 38) = place := by omega
    simp [hwrapped, hlow, hback]

theorem finish_injective : Function.Injective finish := by
  intro first second heq
  apply UInt64.toBitVec_inj.mp
  apply BitVec.eq_of_getLsbD_eq
  intro place hplace
  rw [← getLsbD_finish first hplace, heq, getLsbD_finish second hplace]

/-! ### One word changes -/

/-- The same writes on both sides, but for one write of one word. -/
inductive DifferInOneWord : List Write → List Write → Prop
  | here {first second : Write} {word other : UInt64} (hfirst : first.words = [word])
      (hsecond : second.words = [other]) (hne : word ≠ other) (rest : List Write) :
      DifferInOneWord (first :: rest) (second :: rest)
  | there (write : Write) {left right : List Write} (hdiffer : DifferInOneWord left right) :
      DifferInOneWord (write :: left) (write :: right)

namespace DifferInOneWord

theorem flag {on other : Bool} (hne : on ≠ other) (rest : List Write) :
    DifferInOneWord (.flag on :: rest) (.flag other :: rest) := by
  refine .here rfl rfl ?_ rest
  revert on other
  decide

theorem bits {word other : UInt64} (hne : word ≠ other) (rest : List Write) :
    DifferInOneWord (.bits word :: rest) (.bits other :: rest) :=
  .here rfl rfl hne rest

theorem prepend (hdiffer : DifferInOneWord left right) (before : List Write) :
    DifferInOneWord (before ++ left) (before ++ right) := by
  induction before with
  | nil => exact hdiffer
  | cons write rest ih => exact .there write ih

theorem append (hdiffer : DifferInOneWord left right) (after : List Write) :
    DifferInOneWord (left ++ after) (right ++ after) := by
  induction hdiffer with
  | here hfirst hsecond hne rest => exact .here hfirst hsecond hne (rest ++ after)
  | there write _ ih => exact .there write ih

theorem foldl_addWord_ne (hdiffer : DifferInOneWord left right) (state : UInt64) :
    (left.flatMap Write.words).foldl addWord state ≠
      (right.flatMap Write.words).foldl addWord state := by
  induction hdiffer generalizing state with
  | here hfirst hsecond hne rest =>
    rw [List.flatMap_cons, List.flatMap_cons, hfirst, hsecond]
    intro heq
    apply hne
    exact addWord_injective state (foldl_addWord_injective _ heq)
  | there write _ ih =>
    rw [List.flatMap_cons, List.flatMap_cons, List.foldl_append, List.foldl_append]
    exact ih _

theorem ofWrites_ne (hdiffer : DifferInOneWord left right) : ofWrites left ≠ ofWrites right := by
  intro heq
  exact hdiffer.foldl_addWord_ne 0 (finish_injective heq)

end DifferInOneWord

end Hash

end Stylesheet
