import Stylesheet.Proofs.Selector.Split

/-!
# Where nothing is open

A scan keeps count of brackets and remembers a quotation mark. Here the same is said without a scan, by the ways to write a text: in a balanced text brackets stand in pairs around balanced texts and quotation marks in pairs around anything without such a mark, and a level text is one of balanced stretches with closing brackets between them that have nothing to close. `level_iff` says that these are the texts after which a scan is where it started, so a comma after one of them is a comma at which a list is cut.

The induction for the one direction is on the text from its end. Its invariant is `Opens`: a text after which some brackets are open is a level text followed, for each of them, by the bracket and a balanced text.
-/

namespace Stylesheet

namespace Selector

variable {c : Char} {depth : Nat} {text inner : Text}

def IsMark (c : Char) : Prop := c = '\x22' ∨ c = '\x27'

def IsOpening (c : Char) : Prop := c = '(' ∨ c = '['

def IsClosing (c : Char) : Prop := c = ')' ∨ c = ']'

instance : DecidablePred IsClosing := fun c => inferInstanceAs (Decidable (c = ')' ∨ c = ']'))

/-- Brackets of either kind and quotation marks stand in pairs. -/
inductive Balanced : Text → Prop
  | nil : Balanced []
  | plain {text : Text} {c : Char} (htext : Balanced text) (hmark : ¬IsMark c)
    (hopening : ¬IsOpening c) (hclosing : ¬IsClosing c) : Balanced (text ++ [c])
  | quoted {text inner : Text} {mark : Char} (htext : Balanced text) (hmark : IsMark mark)
    (hinner : mark ∉ inner) : Balanced (text ++ mark :: (inner ++ [mark]))
  | group {text inner : Text} {opening closing : Char} (htext : Balanced text)
    (hopening : IsOpening opening) (hinner : Balanced inner) (hclosing : IsClosing closing) :
    Balanced (text ++ opening :: (inner ++ [closing]))

/-- Balanced but for closing brackets that close nothing. -/
inductive Level : Text → Prop
  | balanced {text : Text} (htext : Balanced text) : Level text
  | stray {text rest : Text} {c : Char} (htext : Level text) (hclosing : IsClosing c)
    (hrest : Balanced rest) : Level (text ++ c :: rest)

/-- A level text, and then for each open bracket the bracket and a balanced text. -/
inductive Opens : Nat → Text → Prop
  | level {text : Text} (htext : Level text) : Opens 0 text
  | bracket {depth : Nat} {text inner : Text} {c : Char} (htext : Opens depth text)
    (hopening : IsOpening c) (hinner : Balanced inner) : Opens (depth + 1) (text ++ c :: inner)

/-! ### Going on with a balanced text -/

theorem Balanced.append (htext : Balanced text) (hinner : Balanced inner) :
    Balanced (text ++ inner) := by
  induction hinner with
  | nil => rwa [List.append_nil]
  | plain _ hmark hopening hclosing ih =>
    rw [← List.append_assoc]
    exact .plain ih hmark hopening hclosing
  | quoted _ hmark hquoted ih =>
    rw [← List.append_assoc]
    exact .quoted ih hmark hquoted
  | group _ hopening hgroup hclosing ih _ =>
    rw [← List.append_assoc]
    exact .group ih hopening hgroup hclosing

theorem Level.append (htext : Level text) (hinner : Balanced inner) : Level (text ++ inner) := by
  cases htext with
  | balanced htext => exact .balanced (htext.append hinner)
  | stray htext hclosing hrest =>
    rw [List.append_assoc]
    exact .stray htext hclosing (hrest.append hinner)

theorem Opens.append (htext : Opens depth text) (hinner : Balanced inner) :
    Opens depth (text ++ inner) := by
  cases htext with
  | level htext => exact .level (htext.append hinner)
  | bracket htext hopening hbracket =>
    rw [List.append_assoc]
    exact .bracket htext hopening (hbracket.append hinner)

/-- A closing bracket closes the one that was opened last, if there is any. -/
theorem Opens.close (htext : Opens depth text) (hclosing : IsClosing c) :
    Opens (depth - 1) (text ++ [c]) := by
  cases htext with
  | level htext => exact .level (.stray htext hclosing .nil)
  | @bracket depth text inner opening htext hopening hinner =>
    rw [List.append_assoc]
    exact htext.append (.group .nil hopening hinner hclosing)

/-! ### Scanning -/

namespace Scan

theorem step_mark (hmark : IsMark c) (depth : Nat) : step ⟨depth, none⟩ c = ⟨depth, some c⟩ := by
  rcases hmark with rfl | rfl <;> rfl

theorem step_opening (hopening : IsOpening c) (depth : Nat) :
    step ⟨depth, none⟩ c = ⟨depth + 1, none⟩ := by
  rcases hopening with rfl | rfl <;> rfl

theorem step_closing (hclosing : IsClosing c) (depth : Nat) :
    step ⟨depth, none⟩ c = ⟨depth - 1, none⟩ := by
  rcases hclosing with rfl | rfl <;> rfl

theorem step_plain (hmark : ¬IsMark c) (hopening : ¬IsOpening c) (hclosing : ¬IsClosing c)
    (depth : Nat) : step ⟨depth, none⟩ c = ⟨depth, none⟩ :=
  step_of_quiet (fun _ hnone => absurd hnone (Option.not_mem_none _)) (not_or.mp hmark)
    (not_or.mp hopening) (not_or.mp hclosing)

/-- Inside a quoted string only its own mark counts. -/
theorem step_quoted {mark : Char} (hother : c ≠ mark) (depth : Nat) :
    step ⟨depth, some mark⟩ c = ⟨depth, some mark⟩ := if_neg hother

theorem step_unquoted (mark : Char) (depth : Nat) :
    step ⟨depth, some mark⟩ mark = ⟨depth, none⟩ := if_pos rfl

theorem run_quoted {mark : Char} (hinner : mark ∉ inner) (depth : Nat) :
    run ⟨depth, some mark⟩ inner = ⟨depth, some mark⟩ := by
  induction inner with
  | nil => rfl
  | cons c rest ih =>
    rw [List.mem_cons, not_or] at hinner
    show run (step ⟨depth, some mark⟩ c) rest = _
    rw [step_quoted (Ne.symm hinner.1), ih hinner.2]

theorem all_quoted {p : Scan → Char → Bool} {mark : Char} (hinner : mark ∉ inner) (depth : Nat) :
    all p ⟨depth, some mark⟩ inner = inner.all (p ⟨depth, some mark⟩) := by
  induction inner with
  | nil => rfl
  | cons c rest ih =>
    rw [List.mem_cons, not_or] at hinner
    rw [all, step_quoted (Ne.symm hinner.1), ih hinner.2, List.all_cons]

theorem run_balanced (htext : Balanced text) (depth : Nat) :
    run ⟨depth, none⟩ text = ⟨depth, none⟩ := by
  induction htext generalizing depth with
  | nil => rfl
  | plain _ hmark hopening hclosing ih =>
    rw [run_append, ih]
    exact step_plain hmark hopening hclosing depth
  | @quoted text inner mark _ hmark hinner ih =>
    rw [run_append, ih]
    show run (step ⟨depth, none⟩ mark) (inner ++ [mark]) = _
    rw [step_mark hmark, run_append, run_quoted hinner]
    exact step_unquoted mark depth
  | @group text inner opening closing _ hopening _ hclosing ih ihInner =>
    rw [run_append, ih]
    show run (step ⟨depth, none⟩ opening) (inner ++ [closing]) = _
    rw [step_opening hopening, run_append, ihInner]
    exact step_closing hclosing (depth + 1)

theorem run_level (htext : Level text) : start.run text = start := by
  induction htext with
  | balanced htext => exact run_balanced htext 0
  | @stray text rest c _ hclosing hrest ih =>
    rw [run_append, ih]
    show run (step ⟨0, none⟩ c) rest = _
    rw [step_closing hclosing]
    exact run_balanced hrest 0

end Scan

/-- What a text is after which a scan stands at a state: some brackets are open, and after them a quotation mark may be. -/
def Reaches (text : Text) : Scan → Prop
  | ⟨depth, none⟩ => Opens depth text
  | ⟨depth, some mark⟩ =>
    IsMark mark ∧ ∃ before inner, text = before ++ mark :: inner ∧ mark ∉ inner ∧ Opens depth before

theorem Reaches.step {state : Scan} (htext : Reaches text state) (c : Char) :
    Reaches (text ++ [c]) (state.step c) := by
  obtain ⟨depth, quote⟩ := state
  cases quote with
  | none =>
    have hopens : Opens depth text := htext
    by_cases hmark : IsMark c
    · rw [Scan.step_mark hmark]
      exact ⟨hmark, text, [], rfl, List.not_mem_nil, hopens⟩
    by_cases hopening : IsOpening c
    · rw [Scan.step_opening hopening]
      exact .bracket hopens hopening .nil
    by_cases hclosing : IsClosing c
    · rw [Scan.step_closing hclosing]
      exact hopens.close hclosing
    · rw [Scan.step_plain hmark hopening hclosing]
      exact hopens.append (.plain .nil hmark hopening hclosing)
  | some mark =>
    obtain ⟨hmark, before, inner, rfl, hinner, hopens⟩ := htext
    rw [List.append_assoc]
    by_cases hsame : c = mark
    · subst hsame
      rw [Scan.step_unquoted]
      exact hopens.append (.quoted .nil hmark hinner)
    · rw [Scan.step_quoted hsame]
      refine ⟨hmark, before, inner ++ [c], rfl, ?_, hopens⟩
      simpa [hinner] using Ne.symm hsame

theorem reaches_run (text : Text) : Reaches text (Scan.start.run text) := by
  induction text using List.reverseRecOn with
  | nil => exact .level (.balanced .nil)
  | append_singleton text c ih =>
    rw [Scan.run_append]
    exact ih.step c

/-- After a level text, and after no other, nothing is open. -/
theorem level_iff : Level text ↔ Scan.start.run text = .start := by
  refine ⟨Scan.run_level, fun hrun => ?_⟩
  have hreaches := reaches_run text
  rw [hrun] at hreaches
  obtain ⟨htext⟩ := hreaches
  exact htext

instance : DecidablePred Level := fun _ => decidable_of_iff' _ level_iff

theorem closesOpen_of_not_isClosing (hclosing : ¬IsClosing c) (state : Scan) :
    state.closesOpen c = true := by
  have hother : c ≠ ')' ∧ c ≠ ']' := not_or.mp hclosing
  simp [Scan.closesOpen, hother]

theorem Balanced.closes (htext : Balanced text) :
    Scan.all Scan.closesOpen .start text = true := by
  induction htext with
  | nil => rfl
  | plain htext _ _ hclosing ih =>
    rw [Scan.all_append, ih, Scan.all, closesOpen_of_not_isClosing hclosing]
    rfl
  | @quoted text inner mark htext hmark hinner ih =>
    have hquiet : ¬IsClosing mark := by rcases hmark with rfl | rfl <;> decide
    have hstep : Scan.start.step mark = ⟨0, some mark⟩ := Scan.step_mark hmark 0
    rw [Scan.all_append, ih, Scan.run_level (.balanced htext), Scan.all,
      closesOpen_of_not_isClosing hquiet, hstep, Scan.all_append, Scan.all_quoted hinner,
      Scan.run_quoted hinner, Scan.all]
    simp [Scan.closesOpen, Scan.all]
  | @group text inner opening closing htext hopening hinner hclosing ih ihInner =>
    have hquiet : ¬IsClosing opening := by rcases hopening with rfl | rfl <;> decide
    have hstep : Scan.start.step opening = ⟨1, none⟩ := Scan.step_opening hopening 0
    have hdeeper : Scan.all Scan.closesOpen ⟨1, none⟩ inner = true :=
      Scan.all_lift 1 (Scan.closesOpen_lift 1) ihInner ihInner
    rw [Scan.all_append, ih, Scan.run_level (.balanced htext), Scan.all,
      closesOpen_of_not_isClosing hquiet, hstep, Scan.all_append, hdeeper,
      Scan.run_balanced hinner]
    simp [Scan.closesOpen, Scan.all]

/-- What a scan asks of a well-bracketed list is that it is balanced. -/
theorem wellBracketed_iff : WellBracketed text ↔ Balanced text := by
  refine ⟨fun htext => ?_, fun htext => ⟨htext.closes, Scan.run_balanced htext 0⟩⟩
  cases level_iff.mpr htext.ends with
  | balanced hbalanced => exact hbalanced
  | @stray text rest c hlevel hclosing _ =>
    -- Nothing is open where the bracket stands.
    have hcloses := htext.closes
    rw [Scan.all_append, Scan.run_level hlevel, Scan.all, Bool.and_eq_true,
      Bool.and_eq_true] at hcloses
    rcases hclosing with rfl | rfl
    · exact absurd hcloses.2.1 (by decide)
    · exact absurd hcloses.2.1 (by decide)

end Selector

end Stylesheet
