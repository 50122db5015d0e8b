import Stylesheet.Proofs.Selector.Level
import Stylesheet.Rule

/-!
# The commas of a list

Where a list is cut can be told for each place alone: a comma cuts if the text in front of it is level. The parts of the list are the stretches between these commas, without the blanks around them and without those that are blank altogether; the stretches and the commas are the whole list. Put together by commas again, whether or not blanks follow them, the parts are found once more, so a list may be written in either mode.
-/

namespace Stylesheet

namespace Selector

variable {state : Scan} {c : Char} {list text : Text}

/-- A comma at top level: nothing is open after what stands in front of it. -/
def IsComma (list : Text) (place : Nat) : Prop :=
  list[place]? = some ',' ∧ Level (list.take place)

instance (list : Text) (place : Nat) : Decidable (IsComma list place) :=
  inferInstanceAs (Decidable (_ ∧ _))

def commas (list : Text) : List Nat :=
  (List.range list.length).filter fun place => IsComma list place

/-- What stands between the places in a text, from `start` on. -/
def between (text : Text) (start : Nat) : List Nat → List Text
  | [] => [text.drop start]
  | place :: rest => (text.drop start).take (place - start) :: between text (place + 1) rest

/-- The first stretch may be read one character at a time. -/
theorem between_eq_modifyHead {start : Nat} (hc : text[start]? = some c) {places : List Nat}
    (hplaces : ∀ place ∈ places, start < place) :
    between text start places = (between text (start + 1) places).modifyHead (c :: ·) := by
  have hdrop : text.drop start = c :: text.drop (start + 1) :=
    (List.drop_eq_getElem?_toList_append ..).trans (by simp [hc])
  cases places with
  | nil => rw [between, between, List.modifyHead_cons, hdrop]
  | cons place rest =>
    have hlater : start < place := hplaces place List.mem_cons_self
    have hlength : place - start = place - (start + 1) + 1 := by omega
    rw [between, between, List.modifyHead_cons, hdrop, hlength, List.take_succ_cons]

/-- A place in the middle of a list is a comma just if the scan up to there is at its start. -/
theorem isComma_append_iff {before rest : Text} :
    IsComma (before ++ c :: rest) before.length ↔ (Scan.start.run before).isCut c = true := by
  rw [Scan.isCut_iff, IsComma, List.take_left, level_iff]
  simp

/-- What is still to be cut stands after what has been scanned. -/
theorem cut_append_eq_between (before rest : Text) :
    cut (Scan.start.run before) rest = between (before ++ rest) before.length
      ((List.range' before.length rest.length).filter fun place => IsComma (before ++ rest) place) := by
  induction rest generalizing before with
  | nil =>
    rw [List.length_nil, List.range'_zero, List.filter_nil, between, List.drop_left, cut]
  | cons c rest ih =>
    have hrest := ih (before ++ [c])
    rw [Scan.run_append, List.append_assoc, List.length_append, List.singleton_append] at hrest
    rw [List.length_cons, List.range'_succ, cut_cons]
    cases hcut : (Scan.start.run before).isCut c with
    | true =>
      have hcomma : IsComma (before ++ c :: rest) before.length := isComma_append_iff.mpr hcut
      obtain ⟨rfl, hstart⟩ := Scan.isCut_iff.mp hcut
      rw [if_pos rfl, List.filter_cons_of_pos (by simpa using hcomma), between, Nat.sub_self,
        List.take_zero]
      rw [hstart] at hrest ⊢
      exact congrArg ([] :: ·) hrest
    | false =>
      have hcomma : ¬IsComma (before ++ c :: rest) before.length := by
        rw [isComma_append_iff, hcut]
        exact Bool.false_ne_true
      have hc : (before ++ c :: rest)[before.length]? = some c := by simp
      rw [if_neg Bool.false_ne_true, List.filter_cons_of_neg (by simpa using hcomma),
        between_eq_modifyHead hc]
      · exact congrArg (List.modifyHead (c :: ·)) hrest
      · intro place hplace
        have hrange := (List.mem_range'_1.mp (List.mem_of_mem_filter hplace)).1
        omega

theorem cut_eq_between (list : Text) : cut .start list = between list 0 (commas list) := by
  rw [commas, List.range_eq_range']
  exact cut_append_eq_between [] list

/-- Nothing is lost by cutting but the commas. -/
theorem join_cut (state : Scan) (text : Text) : Text.join [','] (cut state text) = text := by
  induction text generalizing state with
  | nil => rfl
  | cons c rest ih =>
    rw [cut_cons]
    cases hcut : state.isCut c with
    | true =>
      obtain ⟨rfl, rfl⟩ := Scan.isCut_iff.mp hcut
      have hjoined := ih .start
      obtain ⟨first, others, hrest⟩ := List.exists_cons_of_ne_nil (cut_ne_nil .start rest)
      rw [hrest, Text.join_cons] at hjoined
      rw [if_pos rfl, hrest, Text.join_cons, List.flatMap_cons, List.append_assoc, hjoined]
      rfl
    | false =>
      have hjoined := ih (state.step c)
      obtain ⟨first, others, hrest⟩ := List.exists_cons_of_ne_nil (cut_ne_nil (state.step c) rest)
      rw [hrest, Text.join_cons] at hjoined
      rw [if_neg Bool.false_ne_true, hrest, List.modifyHead_cons, Text.join_cons, List.cons_append,
        hjoined]

/-- The parts of any list are tight and can be put together by commas, with or without spaces, and split again; they are the stretches between the commas, trimmed, and only blank stretches are left out. -/
theorem split_rejoined (list : Text) :
    split (Text.join [','] (split list)) = split list ∧
      split (joinList (split list)) = split list ∧
      (∀ mode, split (Rule.selectorText list mode) = split list) ∧
      (∀ part ∈ split list, part ≠ [] ∧ part.trim = part) ∧
      split list = ((between list 0 (commas list)).map Text.trim).filter (· ≠ []) ∧
      Text.join [','] (between list 0 (commas list)) = list := by
  have hcommas : split (Text.join [','] (split list)) = split list :=
    split_join (List.forall_mem_nil _) (joinable_split list)
  refine ⟨hcommas, split_join (List.all_eq_true.mp rfl) (joinable_split list), ?_, ?_, ?_, ?_⟩
  · intro mode
    cases mode with
    | pretty => rfl
    | minified => exact hcommas
  · intro part hpart
    have htight := tight_of_mem_split hpart
    exact ⟨htight.ne_nil, Text.trim_of_tight htight⟩
  · rw [← cut_eq_between, split]
    refine List.filter_congr fun part _ => ?_
    cases part <;> rfl
  · rw [← cut_eq_between, join_cut]

/-- Brackets that close nothing do not count, and what is left open keeps the commas after it. -/
example : commas "a) , :is(b, c),'d, \x22',, [e, f".toList = [3, 14, 21, 22] ∧
    split "a) , :is(b, c),'d, \x22',, [e, f".toList =
      ["a)".toList, ":is(b, c)".toList, "'d, \x22'".toList, "[e, f".toList] := by
  decide +kernel

end Selector

end Stylesheet
