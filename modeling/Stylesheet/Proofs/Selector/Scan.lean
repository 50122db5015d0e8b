import Stylesheet.Proofs.Text.Blank
import Stylesheet.Selector

/-!
# Scans

A scan goes through a text with a state, and what is asked of the text is asked of every step: that a bracket only closes one that is open, or that no comma cuts. Blanks do not move the state, so trimming and collapsing change nothing of a scan. Neither does it matter how deep a text stands, as long as it closes only brackets of its own; this is why a selector may be put in place of a mark wherever the mark stands outside quotes.
-/

namespace Stylesheet

namespace Selector

namespace Scan

variable {state : Scan} {c : Char} {text before after : Text} {p : Scan → Char → Bool}

def run (state : Scan) (text : Text) : Scan := text.foldl step state

/-- Whether a property holds at every step of a scan. -/
def all (p : Scan → Char → Bool) : Scan → Text → Bool
  | _, [] => true
  | state, c :: rest => p state c && all p (state.step c) rest

/-! ### Properties of steps -/

/-- A closing bracket closes one that is open. -/
def closesOpen (state : Scan) (c : Char) : Bool :=
  state.quote.isSome || !(c = ')' || c = ']') || 0 < state.depth

/-- The mark for the current selector stands outside quotes. -/
def marksOutside (state : Scan) (c : Char) : Bool := c ≠ '&' || state.quote.isNone

def keepsOn (state : Scan) (c : Char) : Bool := !state.isCut c

/-- A comma cuts only where nothing is open. -/
theorem eq_of_isCut (hcut : state.isCut c = true) : state = start ∧ c = ',' := by
  obtain ⟨opened, quote⟩ := state
  simp only [isCut, Bool.and_eq_true, decide_eq_true_eq, Option.isNone_iff_eq_none] at hcut
  obtain ⟨⟨rfl, rfl⟩, rfl⟩ := hcut
  exact ⟨rfl, rfl⟩

theorem isCut_iff : state.isCut c = true ↔ c = ',' ∧ state = start := by
  refine ⟨fun hcut => (eq_of_isCut hcut).symm, ?_⟩
  rintro ⟨rfl, rfl⟩
  rfl

/-! ### Scanning one text after another -/

theorem run_append : state.run (before ++ after) = (state.run before).run after :=
  List.foldl_append

theorem all_append : all p state (before ++ after) =
    (all p state before && all p (state.run before) after) := by
  induction before generalizing state with
  | nil => rfl
  | cons c rest ih => rw [List.cons_append, all, all, ih, Bool.and_assoc]; rfl

theorem all_of_forall_mem (hp : ∀ state, ∀ c ∈ text, p state c = true) :
    all p state text = true := by
  induction text generalizing state with
  | nil => rfl
  | cons c rest ih =>
    obtain hrest := ih fun state d hd => hp state d (List.mem_cons_of_mem c hd)
    rw [all, hp state c List.mem_cons_self, hrest]
    rfl

/-! ### Blanks -/

/-- A quotation mark that is open is one of the two. -/
def Proper (state : Scan) : Prop := ∀ mark ∈ state.quote, mark = '\x22' ∨ mark = '\x27'

theorem proper_start : start.Proper := fun mark hmark =>
  absurd hmark (Option.not_mem_none mark)

theorem Proper.step (hproper : state.Proper) (c : Char) : (state.step c).Proper := by
  rw [Scan.step]
  split
  · split
    · exact proper_start
    · exact hproper
  · split
    · rename_i hquote
      intro mark hmark
      obtain rfl := Option.mem_some.mp hmark
      simpa using hquote
    · split
      · exact proper_start
      · split
        · exact proper_start
        · exact hproper

/-- A character that is neither a quotation mark nor a bracket does not move the state. -/
theorem step_of_quiet (hproper : state.Proper) (hquote : c ≠ '\x22' ∧ c ≠ '\x27')
    (hopen : c ≠ '(' ∧ c ≠ '[') (hclose : c ≠ ')' ∧ c ≠ ']') : state.step c = state := by
  rw [step]
  split
  · rename_i mark hopened
    have hmark : c ≠ mark := by
      rcases hproper mark hopened with rfl | rfl
      · exact hquote.1
      · exact hquote.2
    rw [if_neg hmark]
  · simp [hquote, hopen, hclose]

theorem ne_of_blank {d : Char} (hblank : Text.isBlank c = true)
    (hvisible : Text.isBlank d = false) : c ≠ d := by
  rintro rfl
  exact absurd hblank (by simp [hvisible])

theorem step_blank (hproper : state.Proper) (hblank : Text.isBlank c = true) :
    state.step c = state :=
  step_of_quiet hproper
    ⟨ne_of_blank hblank (by decide), ne_of_blank hblank (by decide)⟩
    ⟨ne_of_blank hblank (by decide), ne_of_blank hblank (by decide)⟩
    ⟨ne_of_blank hblank (by decide), ne_of_blank hblank (by decide)⟩

theorem run_visible (hproper : state.Proper) (text : Text) :
    state.run text.visible = state.run text := by
  induction text generalizing state with
  | nil => rfl
  | cons c rest ih =>
    cases hblank : Text.isBlank c with
    | true =>
      have hvisible : Text.visible (c :: rest) = Text.visible rest :=
        List.filter_cons_of_neg (by simp [hblank])
      rw [hvisible, ih hproper]
      show _ = (state.step c).run rest
      rw [step_blank hproper hblank]
    | false =>
      have hvisible : Text.visible (c :: rest) = c :: Text.visible rest :=
        List.filter_cons_of_pos (by simp [hblank])
      rw [hvisible]
      exact ih (hproper.step c)

/-- A property that says nothing of blanks only depends on what is visible. -/
theorem all_visible (hproper : state.Proper)
    (hblanks : ∀ state c, Text.isBlank c = true → p state c = true) (text : Text) :
    all p state text.visible = all p state text := by
  induction text generalizing state with
  | nil => rfl
  | cons c rest ih =>
    cases hblank : Text.isBlank c with
    | true =>
      have hvisible : Text.visible (c :: rest) = Text.visible rest :=
        List.filter_cons_of_neg (by simp [hblank])
      rw [hvisible, ih hproper, all, hblanks state c hblank, step_blank hproper hblank,
        Bool.true_and]
    | false =>
      have hvisible : Text.visible (c :: rest) = c :: Text.visible rest :=
        List.filter_cons_of_pos (by simp [hblank])
      rw [hvisible, all, all, ih (hproper.step c)]

/-- Texts that show the same are the same to a scan. -/
theorem run_congr {other : Text} (hproper : state.Proper) (hvisible : other.visible = text.visible) :
    state.run other = state.run text := by
  rw [← run_visible hproper other, hvisible, run_visible hproper]

theorem all_congr {other : Text} (hproper : state.Proper)
    (hblanks : ∀ state c, Text.isBlank c = true → p state c = true)
    (hvisible : other.visible = text.visible) : all p state other = all p state text := by
  rw [← all_visible hproper hblanks other, hvisible, all_visible hproper hblanks]

theorem closesOpen_blank (state : Scan) (c : Char) (hblank : Text.isBlank c = true) :
    state.closesOpen c = true := by
  have hround : c ≠ ')' := ne_of_blank hblank (by decide)
  have hsquare : c ≠ ']' := ne_of_blank hblank (by decide)
  simp [closesOpen, hround, hsquare]

theorem marksOutside_blank (state : Scan) (c : Char) (hblank : Text.isBlank c = true) :
    state.marksOutside c = true := by
  have hmark : c ≠ '&' := ne_of_blank hblank (by decide)
  simp [marksOutside, hmark]

theorem keepsOn_blank (state : Scan) (c : Char) (hblank : Text.isBlank c = true) :
    state.keepsOn c = true := by
  have hcomma : c ≠ ',' := ne_of_blank hblank (by decide)
  simp [keepsOn, isCut, hcomma]

/-! ### Deeper down -/

/-- The same place of a text that stands inside of some brackets. -/
def lift (depth : Nat) (state : Scan) : Scan := ⟨state.depth + depth, state.quote⟩

theorem lift_start (hquote : state.quote = none) : start.lift state.depth = state := by
  cases state
  simp_all [lift, start]

theorem step_lift (depth : Nat) (hcloses : state.closesOpen c = true) :
    (state.lift depth).step c = (state.step c).lift depth := by
  obtain ⟨opened, quote⟩ := state
  cases quote with
  | some mark =>
    simp only [step, lift]
    split <;> rfl
  | none =>
    simp only [step, lift]
    split
    · rfl
    split
    · have hdepth : opened + depth + 1 = opened + 1 + depth := by omega
      rw [hdepth]
    split
    · rename_i hbracket
      have hopened : 0 < opened := by
        simpa [closesOpen, hbracket] using hcloses
      have hdepth : opened + depth - 1 = opened - 1 + depth := by omega
      rw [hdepth]
    · rfl

theorem run_lift (depth : Nat) (hcloses : all closesOpen state text = true) :
    (state.lift depth).run text = (state.run text).lift depth := by
  induction text generalizing state with
  | nil => rfl
  | cons c rest ih =>
    rw [all, Bool.and_eq_true] at hcloses
    show ((state.lift depth).step c).run rest = ((state.step c).run rest).lift depth
    rw [step_lift depth hcloses.1, ih hcloses.2]

theorem all_lift (depth : Nat)
    (hdeeper : ∀ state c, p state c = true → p (lift depth state) c = true)
    (hcloses : all closesOpen state text = true) (hall : all p state text = true) :
    all p (state.lift depth) text = true := by
  induction text generalizing state with
  | nil => rfl
  | cons c rest ih =>
    rw [all, Bool.and_eq_true] at hcloses hall ⊢
    rw [step_lift depth hcloses.1]
    exact ⟨hdeeper state c hall.1, ih hcloses.2 hall.2⟩

theorem closesOpen_lift (depth : Nat) (state : Scan) (c : Char)
    (hcloses : state.closesOpen c = true) : (state.lift depth).closesOpen c = true := by
  rw [closesOpen, Bool.or_eq_true, decide_eq_true_eq] at hcloses ⊢
  rcases hcloses with hquiet | hdeep
  · exact .inl hquiet
  · exact .inr (Nat.add_pos_left hdeep depth)

theorem keepsOn_lift (depth : Nat) (state : Scan) (c : Char) (hkeeps : state.keepsOn c = true) :
    (state.lift depth).keepsOn c = true := by
  rw [keepsOn, isCut, Bool.not_eq_true', Bool.and_eq_false_iff, Bool.and_eq_false_iff] at hkeeps ⊢
  rcases hkeeps with (hcomma | hdeep) | hquoted
  · exact .inl (.inl hcomma)
  · refine .inl (.inr ?_)
    have hne : state.depth ≠ 0 := of_decide_eq_false hdeep
    exact decide_eq_false fun hzero => hne (Nat.eq_zero_of_add_eq_zero_right hzero)
  · exact .inr hquoted

/-! ### Putting a text in place of a mark -/

section Substitution

variable {replacement : Text} (hcloses : all closesOpen start replacement = true)
  (hends : start.run replacement = start)
include hcloses hends

theorem run_of_quote_none (hquote : state.quote = none) : state.run replacement = state := by
  rw [← lift_start hquote, run_lift _ hcloses, hends]

theorem run_substitute (hmarks : all marksOutside state text = true) :
    state.run (Text.substitute '&' replacement text) = state.run text := by
  induction text generalizing state with
  | nil => rfl
  | cons c rest ih =>
    rw [all, Bool.and_eq_true] at hmarks
    rw [Text.substitute, List.flatMap_cons]
    show state.run (_ ++ Text.substitute '&' replacement rest) = (state.step c).run rest
    rw [run_append, ← ih hmarks.2]
    by_cases hmark : c = '&'
    · subst hmark
      have hquote : state.quote = none := by simpa [marksOutside] using hmarks.1
      have hstep : state.step '&' = state := by simp [step, hquote]
      rw [if_pos rfl, run_of_quote_none hcloses hends hquote, hstep]
    · rw [if_neg hmark]
      rfl

theorem all_substitute (hdeeper : ∀ depth state c, p state c = true → p (lift depth state) c = true)
    (hreplacement : all p start replacement = true) (hmarks : all marksOutside state text = true)
    (hall : all p state text = true) :
    all p state (Text.substitute '&' replacement text) = true := by
  induction text generalizing state with
  | nil => rfl
  | cons c rest ih =>
    rw [all, Bool.and_eq_true] at hmarks hall
    rw [Text.substitute, List.flatMap_cons]
    show all p state (_ ++ Text.substitute '&' replacement rest) = true
    rw [all_append, Bool.and_eq_true]
    have hrest := ih hmarks.2 hall.2
    by_cases hmark : c = '&'
    · subst hmark
      have hquote : state.quote = none := by simpa [marksOutside] using hmarks.1
      have hstep : state.step '&' = state := by simp [step, hquote]
      rw [hstep] at hrest
      rw [if_pos rfl, run_of_quote_none hcloses hends hquote]
      refine ⟨?_, hrest⟩
      rw [← lift_start hquote]
      exact all_lift _ (hdeeper _) hcloses hreplacement
    · rw [if_neg hmark]
      refine ⟨?_, hrest⟩
      rw [all, hall.1]
      rfl

end Substitution

end Scan

end Selector

end Stylesheet
