import Mathlib.Data.List.DropRight
import Stylesheet.Text.Basic

/-!
# Blanks

Trimming and collapsing touch nothing but blanks: what is visible of a text stays. A text that neither starts nor ends with a blank is tight; trimming leaves such a text alone and makes every other one tight, if anything of it is visible.
-/

namespace Stylesheet

namespace Text

variable {c : Char} {text before between after : Text}

/-- The characters that are not blank. -/
def visible (text : Text) : Text := text.filter fun c => !isBlank c

def StartsVisible (text : Text) : Prop := ∃ c rest, text = c :: rest ∧ isBlank c = false

def EndsVisible (text : Text) : Prop := ∃ init c, text = init ++ [c] ∧ isBlank c = false

/-- No blanks at the ends, and something between them. -/
structure Tight (text : Text) : Prop where
  starts : text.StartsVisible
  ends : text.EndsVisible

/-- One word: something, and no blank in it. -/
structure IsWord (text : Text) : Prop where
  ne_nil : text ≠ []
  visible : ∀ c ∈ text, isBlank c = false

theorem isWord_iff (text : Text) : text.IsWord ↔ text ≠ [] ∧ text.any isBlank = false := by
  rw [List.any_eq_false]
  constructor
  · exact fun hword => ⟨hword.ne_nil, fun c hc => Bool.not_eq_true _ ▸ hword.visible c hc⟩
  · exact fun hword => ⟨hword.1, fun c hc => eq_false_of_ne_true (hword.2 c hc)⟩

instance : DecidablePred IsWord := fun text => decidable_of_iff' _ (isWord_iff text)

/-! ### What is visible -/

theorem visible_append : (before ++ after).visible = before.visible ++ after.visible :=
  List.filter_append ..

theorem visible_trimStart (text : Text) : text.trimStart.visible = text.visible := by
  induction text with
  | nil => rfl
  | cons c rest ih =>
    cases hblank : isBlank c with
    | true =>
      have hdrop : trimStart (c :: rest) = trimStart rest := List.dropWhile_cons_of_pos hblank
      rw [hdrop, ih, visible, visible, List.filter_cons_of_neg (by simp [hblank])]
    | false => rw [trimStart, List.dropWhile_cons_of_neg (by simp [hblank])]

theorem visible_trimEnd (text : Text) : text.trimEnd.visible = text.visible := by
  have hreverse : visible (trimStart text.reverse) = visible text.reverse := visible_trimStart _
  rw [trimEnd, visible, List.filter_reverse]
  show (visible (trimStart text.reverse)).reverse = text.visible
  rw [hreverse, visible, List.filter_reverse, List.reverse_reverse]
  rfl

theorem visible_trim (text : Text) : text.trim.visible = text.visible := by
  rw [trim, visible_trimEnd, visible_trimStart]

/-! ### Words -/

theorem pieces_ne_nil (p : Char → Bool) (text : Text) : pieces p text ≠ [] := by
  induction text with
  | nil => simp [pieces]
  | cons c rest ih =>
    rw [pieces]
    split
    · simp
    · split <;> simp

theorem pieces_cons (p : Char → Bool) (c : Char) (rest : Text) : pieces p (c :: rest) =
    if p c then [] :: pieces p rest else (pieces p rest).modifyHead (c :: ·) := by
  rw [pieces]
  split
  · rfl
  · split
    · rename_i hnil
      exact absurd hnil (pieces_ne_nil p rest)
    · rename_i hcons
      rw [hcons, List.modifyHead_cons]

theorem flatten_pieces (text : Text) : (pieces isBlank text).flatten = text.visible := by
  induction text with
  | nil => rfl
  | cons c rest ih =>
    rw [pieces_cons]
    cases hblank : isBlank c with
    | true => rw [if_pos rfl, List.flatten_cons, ih, visible, visible,
        List.filter_cons_of_neg (by simp [hblank]), List.nil_append]
    | false =>
      obtain ⟨piece, others, hpieces⟩ := List.exists_cons_of_ne_nil (pieces_ne_nil isBlank rest)
      rw [hpieces, List.flatten_cons] at ih
      rw [if_neg Bool.false_ne_true, hpieces, List.modifyHead_cons, List.flatten_cons, visible,
        List.filter_cons_of_pos (by simp [hblank]), List.cons_append, ih]
      rfl

theorem flatten_words (text : Text) : text.words.flatten = text.visible := by
  rw [words, List.flatten_filter_not_isEmpty, flatten_pieces]

theorem isWord_of_mem_words {word : Text} (hword : word ∈ text.words) : word.IsWord := by
  obtain ⟨hpiece, hne⟩ := List.mem_filter.mp hword
  refine ⟨by simpa using hne, ?_⟩
  intro c hc
  have hmem : c ∈ text.visible := by
    rw [← flatten_pieces]
    exact List.mem_flatten_of_mem hpiece hc
  simpa [visible] using (List.mem_filter.mp hmem).2

theorem IsWord.tight (hword : text.IsWord) : text.Tight := by
  refine ⟨?_, ?_⟩
  · obtain ⟨c, rest, rfl⟩ := List.exists_cons_of_ne_nil hword.ne_nil
    exact ⟨c, rest, rfl, hword.visible c List.mem_cons_self⟩
  · have htext := (List.dropLast_append_getLast hword.ne_nil).symm
    exact ⟨text.dropLast, text.getLast hword.ne_nil, htext,
      hword.visible _ (List.getLast_mem hword.ne_nil)⟩

theorem IsWord.append (hword : before.IsWord) (hafter : ∀ c ∈ after, isBlank c = false) :
    IsWord (before ++ after) :=
  ⟨List.append_ne_nil_of_left_ne_nil hword.ne_nil after,
    List.forall_mem_append.mpr ⟨hword.visible, hafter⟩⟩

theorem join_cons (separator first : Text) (rest : List Text) :
    join separator (first :: rest) = first ++ rest.flatMap (separator ++ ·) := by
  induction rest generalizing first with
  | nil => exact (List.intercalate_singleton ..).trans (List.append_nil first).symm
  | cons next rest ih =>
    have hrest : separator.intercalate (next :: rest) = _ := ih next
    rw [join, List.intercalate_cons_cons, hrest, List.flatMap_cons, List.append_assoc,
      List.append_assoc]

theorem visible_join (words : List Text) :
    (join [' '] words).visible = visible words.flatten := by
  induction words with
  | nil => rfl
  | cons word rest ih =>
    cases rest with
    | nil => rw [join, List.intercalate_singleton, List.flatten_singleton]
    | cons next rest =>
      have hspace : visible [' '] = [] := by decide
      rw [join, List.intercalate_cons_cons, List.append_assoc, visible_append, visible_append,
        hspace, List.nil_append, List.flatten_cons, visible_append]
      exact congrArg _ ih

theorem visible_collapse (text : Text) : text.collapse.visible = text.visible := by
  rw [collapse, visible_join, flatten_words, visible, visible, List.filter_filter]
  simp

/-! ### Tight texts -/

theorem StartsVisible.append (hstarts : before.StartsVisible) :
    StartsVisible (before ++ after) := by
  obtain ⟨c, rest, rfl, hvisible⟩ := hstarts
  exact ⟨c, rest ++ after, rfl, hvisible⟩

theorem EndsVisible.append (hends : after.EndsVisible) : EndsVisible (before ++ after) := by
  obtain ⟨init, c, rfl, hvisible⟩ := hends
  exact ⟨before ++ init, c, (List.append_assoc ..).symm, hvisible⟩

theorem EndsVisible.cons (hends : text.EndsVisible) (c : Char) : EndsVisible (c :: text) := by
  obtain ⟨init, last, rfl, hvisible⟩ := hends
  exact ⟨c :: init, last, rfl, hvisible⟩

theorem Tight.append (hbefore : before.Tight) (hafter : after.Tight) : Tight (before ++ after) :=
  ⟨hbefore.starts.append, hafter.ends.append⟩

theorem Tight.ne_nil (htight : text.Tight) : text ≠ [] := by
  obtain ⟨c, rest, rfl, _⟩ := htight.starts
  exact List.cons_ne_nil c rest

theorem Tight.visible_ne_nil (htight : text.Tight) : text.visible ≠ [] := by
  obtain ⟨c, rest, rfl, hvisible⟩ := htight.starts
  rw [visible, List.filter_cons_of_pos (by simp [hvisible])]
  exact List.cons_ne_nil _ _

/-- A text stays tight if a tight text comes of each visible character. -/
theorem Tight.flatMap {image : Char → Text} (htight : text.Tight)
    (himage : ∀ c, isBlank c = false → (image c).Tight) : Tight (text.flatMap image) := by
  refine ⟨?_, ?_⟩
  · obtain ⟨c, rest, rfl, hvisible⟩ := htight.starts
    rw [List.flatMap_cons]
    exact (himage c hvisible).starts.append
  · obtain ⟨init, c, rfl, hvisible⟩ := htight.ends
    rw [List.flatMap_append, List.flatMap_singleton]
    exact (himage c hvisible).ends.append

theorem trimStart_of_startsVisible (hstarts : text.StartsVisible) : text.trimStart = text := by
  obtain ⟨c, rest, rfl, hvisible⟩ := hstarts
  exact List.dropWhile_cons_of_neg (by simp [hvisible])

theorem trimEnd_of_endsVisible (hends : text.EndsVisible) : text.trimEnd = text := by
  obtain ⟨init, c, rfl, hvisible⟩ := hends
  exact List.rdropWhile_concat_neg _ _ _ (by simp [hvisible])

theorem trim_of_tight (htight : text.Tight) : text.trim = text := by
  rw [trim, trimStart_of_startsVisible htight.starts, trimEnd_of_endsVisible htight.ends]

theorem trim_of_visible (hvisible : ∀ c ∈ text, isBlank c = false) : text.trim = text := by
  by_cases hnil : text = []
  · rw [hnil]
    rfl
  · exact trim_of_tight (IsWord.tight ⟨hnil, hvisible⟩)

theorem trim_cons_blank (hblank : isBlank c = true) (text : Text) :
    trim (c :: text) = trim text := by
  rw [trim, trim, trimStart, trimStart, List.dropWhile_cons_of_pos hblank]

theorem trim_append_blanks {blanks : Text} (hblanks : ∀ c ∈ blanks, isBlank c = true) :
    trim (text ++ blanks) = trim text := by
  have hend (text : Text) : trimEnd (text ++ blanks) = trimEnd text := by
    rw [trimEnd, trimEnd, List.reverse_append, List.dropWhile_append_of_pos]
    simpa using hblanks
  rw [trim, trim, trimStart, trimStart, List.dropWhile_append]
  split
  · rename_i hempty
    rw [List.isEmpty_iff.mp hempty, List.dropWhile_eq_nil_iff.mpr hblanks]
  · exact hend _

theorem trim_blanks_append {blanks : Text} (hblanks : ∀ c ∈ blanks, isBlank c = true)
    (text : Text) : trim (blanks ++ text) = trim text := by
  rw [trim, trim, trimStart, trimStart, List.dropWhile_append_of_pos hblanks]

theorem trim_of_blank (hblank : ∀ c ∈ text, isBlank c = true) : text.trim = [] := by
  rw [trim, trimStart, List.dropWhile_eq_nil_iff.mpr hblank]
  rfl

theorem mem_of_mem_trim (hc : c ∈ text.trim) : c ∈ text :=
  (List.dropWhile_suffix isBlank).subset ((List.rdropWhile_prefix isBlank text.trimStart).subset hc)

theorem startsVisible_trimStart (hne : text.trimStart ≠ []) : text.trimStart.StartsVisible := by
  induction text with
  | nil => exact absurd rfl hne
  | cons c rest ih =>
    cases hblank : isBlank c with
    | true =>
      have hdrop : trimStart (c :: rest) = trimStart rest := List.dropWhile_cons_of_pos hblank
      rw [hdrop] at hne ⊢
      exact ih hne
    | false =>
      rw [trimStart, List.dropWhile_cons_of_neg (by simp [hblank])]
      exact ⟨c, rest, rfl, hblank⟩

theorem tight_trim (hne : text.trim ≠ []) : text.trim.Tight := by
  obtain ⟨dropped, hdropped⟩ := List.rdropWhile_prefix isBlank (l := text.trimStart)
  have hwhole : text.trim ++ dropped = text.trimStart := hdropped
  obtain ⟨c, rest, htrim⟩ := List.exists_cons_of_ne_nil hne
  refine ⟨?_, ?_⟩
  · have hstart : text.trimStart ≠ [] := by
      rw [← hwhole, htrim]
      exact List.cons_ne_nil _ _
    obtain ⟨first, others, hfirst, hvisible⟩ := startsVisible_trimStart hstart
    rw [hfirst, htrim] at hwhole
    obtain ⟨rfl, _⟩ := List.cons.inj hwhole
    exact ⟨c, rest, htrim, hvisible⟩
  · have hlast : ¬isBlank (text.trim.getLast hne) = true := List.rdropWhile_last_not isBlank _ hne
    exact ⟨text.trim.dropLast, text.trim.getLast hne, (List.dropLast_append_getLast hne).symm,
      Bool.eq_false_iff.mpr hlast⟩

theorem tight_join {words : List Text} (hwords : ∀ word ∈ words, word.Tight) (hne : words ≠ []) :
    (join [' '] words).Tight := by
  induction words with
  | nil => exact absurd rfl hne
  | cons word rest ih =>
    have hword : word.Tight := hwords word List.mem_cons_self
    cases rest with
    | nil =>
      rw [join, List.intercalate_singleton]
      exact hword
    | cons next rest =>
      have hrest : (join [' '] (next :: rest)).Tight :=
        ih (fun other hother => hwords other (List.mem_cons_of_mem _ hother))
          (List.cons_ne_nil next rest)
      rw [join, List.intercalate_cons_cons, List.append_assoc]
      exact ⟨hword.starts.append, hrest.ends.append.append⟩

theorem tight_collapse (hne : text.visible ≠ []) : text.collapse.Tight := by
  refine tight_join (fun word hword => (isWord_of_mem_words hword).tight) fun hnil => hne ?_
  rw [← flatten_words, hnil, List.flatten_nil]

theorem Tight.collapse (htight : text.Tight) : text.collapse.Tight :=
  tight_collapse htight.visible_ne_nil

/-! ### Collapsing twice -/

theorem pieces_append {p : Char → Bool} (hbefore : ∀ c ∈ before, p c = false) (rest : Text) :
    pieces p (before ++ rest) = (pieces p rest).modifyHead (before ++ ·) := by
  induction before with
  | nil => exact (List.modifyHead_id ▸ rfl)
  | cons c before ih =>
    obtain ⟨hc, hlater⟩ := List.forall_mem_cons.mp hbefore
    rw [List.cons_append, pieces_cons, hc, if_neg Bool.false_ne_true, ih hlater,
      List.modifyHead_modifyHead]
    rfl

/-- Words with a space between any two are found again. -/
theorem words_join {parts : List Text} (hparts : ∀ part ∈ parts, part.IsWord) :
    words (join [' '] parts) = parts := by
  induction parts with
  | nil => rfl
  | cons part rest ih =>
    obtain ⟨hpart, hrest⟩ := List.forall_mem_cons.mp hparts
    have hkept (others : List Text) : (part :: others).filter (fun word => !word.isEmpty) =
        part :: others.filter fun word => !word.isEmpty :=
      List.filter_cons_of_pos (by simpa using hpart.ne_nil)
    cases rest with
    | nil =>
      have hpieces : pieces isBlank part = [part] := by
        simpa [pieces] using pieces_append hpart.visible []
      rw [join, List.intercalate_singleton, words, hpieces, hkept]
      rfl
    | cons next rest =>
      have hspace : pieces isBlank (' ' :: join [' '] (next :: rest)) =
          [] :: pieces isBlank (join [' '] (next :: rest)) := by
        rw [pieces_cons]
        rfl
      have hjoin : join [' '] (part :: next :: rest) =
          part ++ ' ' :: join [' '] (next :: rest) := by
        rw [join, List.intercalate_cons_cons, List.append_assoc]
        rfl
      rw [hjoin, words, pieces_append hpart.visible, hspace, List.modifyHead_cons, List.append_nil,
        hkept]
      exact congrArg _ (ih hrest)

theorem collapse_collapse (text : Text) : text.collapse.collapse = text.collapse := by
  rw [collapse, collapse, words_join fun _ hword => isWord_of_mem_words hword]

end Text

end Stylesheet
