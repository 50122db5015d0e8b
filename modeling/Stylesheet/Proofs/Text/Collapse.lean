import Mathlib.Data.List.Chain
import Mathlib.Data.List.Infix
import Stylesheet.Proofs.Text.Blank

/-!
# Collapsed text

Collapsing can be done in one pass: the blanks in front are dropped, every visible character is written at once, and for the blanks after it a space is due, which is written with the next visible character or never. So what collapsing makes of a stretch does not depend on what stands around it, and what comes of the stretch is found in what comes of the whole.

A text in which no blank stands but single spaces is all that collapsing is for. Such a text is left alone, and whatever is collapsed becomes one.
-/

namespace Stylesheet

namespace Text

variable {c : Char} {text before after middle : Text}

/-- Collapsing only makes up spaces. -/
theorem mem_of_mem_collapse (hc : c ∈ text.collapse) (hvisible : isBlank c = false) :
    c ∈ text := by
  have hseen : c ∈ visible text.collapse := List.mem_filter.mpr ⟨hc, by simp [hvisible]⟩
  rw [visible_collapse] at hseen
  exact List.mem_of_mem_filter hseen

/-! ### In one pass -/

/-- Writes a text with single spaces for its blanks; `due` tells that a space goes in front of the next visible character. -/
def spaced : Bool → Text → Text
  | _, [] => []
  | due, c :: rest =>
    if isBlank c then spaced true rest else (if due then [' ', c] else [c]) ++ spaced false rest

theorem spaced_cons_blank (due : Bool) (hblank : isBlank c = true) (rest : Text) :
    spaced due (c :: rest) = spaced true rest := by
  rw [spaced, if_pos hblank]

theorem spaced_cons_visible (due : Bool) (hvisible : isBlank c = false) (rest : Text) :
    spaced due (c :: rest) = (if due then [' ', c] else [c]) ++ spaced false rest := by
  rw [spaced, if_neg (by simp [hvisible])]

/-- The first word goes on with what was written before, unless a space is due. -/
theorem spaced_eq_of_pieces {first : Text} {others : List Text}
    (hpieces : pieces isBlank text = first :: others) :
    spaced false text = first ++ (others.filter fun word => !word.isEmpty).flatMap (' ' :: ·) ∧
      spaced true text = text.words.flatMap (' ' :: ·) := by
  induction text generalizing first others with
  | nil =>
    obtain ⟨rfl, rfl⟩ := List.cons.inj hpieces
    exact ⟨rfl, rfl⟩
  | cons c rest ih =>
    obtain ⟨next, later, hrest⟩ := List.exists_cons_of_ne_nil (pieces_ne_nil isBlank rest)
    obtain ⟨hgoesOn, hdue⟩ := ih hrest
    rw [pieces_cons] at hpieces
    cases hblank : isBlank c with
    | true =>
      rw [hblank, if_pos rfl] at hpieces
      obtain ⟨rfl, rfl⟩ := List.cons.inj hpieces
      have hwords : words (c :: rest) = words rest := by
        rw [words, pieces_cons, hblank, if_pos rfl, List.filter_cons_of_neg (by simp), words]
      rw [spaced_cons_blank _ hblank, spaced_cons_blank _ hblank, hwords, hdue]
      exact ⟨rfl, rfl⟩
    | false =>
      rw [hblank, if_neg Bool.false_ne_true, hrest, List.modifyHead_cons] at hpieces
      obtain ⟨rfl, rfl⟩ := List.cons.inj hpieces
      have hwords : words (c :: rest) =
          (c :: next) :: later.filter fun word => !word.isEmpty := by
        rw [words, pieces_cons, hblank, if_neg Bool.false_ne_true, hrest, List.modifyHead_cons,
          List.filter_cons_of_pos (by simp)]
      rw [spaced_cons_visible _ hblank, spaced_cons_visible _ hblank, hwords, hgoesOn]
      exact ⟨rfl, rfl⟩

theorem collapse_trimStart (text : Text) : text.trimStart.collapse = text.collapse := by
  induction text with
  | nil => rfl
  | cons c rest ih =>
    cases hblank : isBlank c with
    | true =>
      have hdrop : trimStart (c :: rest) = trimStart rest := List.dropWhile_cons_of_pos hblank
      rw [hdrop, ih, collapse, collapse, words, words, pieces_cons, hblank, if_pos rfl,
        List.filter_cons_of_neg (by simp)]
    | false => rw [trimStart_of_startsVisible ⟨c, rest, rfl, hblank⟩]

theorem collapse_eq_spaced (text : Text) : text.collapse = spaced false text.trimStart := by
  rw [← collapse_trimStart]
  by_cases hnone : text.trimStart = []
  · rw [hnone]
    rfl
  · obtain ⟨c, rest, hstart, hvisible⟩ := startsVisible_trimStart hnone
    obtain ⟨first, others, hrest⟩ := List.exists_cons_of_ne_nil (pieces_ne_nil isBlank rest)
    have hpieces : pieces isBlank (c :: rest) = (c :: first) :: others := by
      rw [pieces_cons, hvisible, if_neg Bool.false_ne_true, hrest, List.modifyHead_cons]
    rw [hstart, (spaced_eq_of_pieces hpieces).1, collapse, words, hpieces,
      List.filter_cons_of_pos (by simp), join_cons]
    rfl

theorem collapse_of_startsVisible (hstarts : text.StartsVisible) :
    text.collapse = spaced false text := by
  rw [collapse_eq_spaced, trimStart_of_startsVisible hstarts]

/-! ### One more in front -/

theorem collapse_cons (hvisible : isBlank c = false) (hstarts : text.StartsVisible) :
    collapse (c :: text) = c :: text.collapse := by
  rw [collapse_of_startsVisible ⟨c, text, rfl, hvisible⟩, spaced_cons_visible _ hvisible,
    collapse_of_startsVisible hstarts]
  rfl

theorem collapse_cons_space (hvisible : isBlank c = false) (hstarts : text.StartsVisible) :
    collapse (c :: ' ' :: text) = c :: ' ' :: text.collapse := by
  rw [collapse_of_startsVisible ⟨c, ' ' :: text, rfl, hvisible⟩, spaced_cons_visible _ hvisible,
    spaced_cons_blank _ (by decide), collapse_of_startsVisible hstarts]
  obtain ⟨first, rest, rfl, hfirst⟩ := hstarts
  rw [spaced_cons_visible _ hfirst, spaced_cons_visible _ hfirst]
  rfl

/-! ### Stretches of a text -/

theorem exists_spaced_append (due : Bool) (before after : Text) :
    ∃ later, spaced due (before ++ after) = spaced due before ++ spaced later after := by
  induction before generalizing due with
  | nil => exact ⟨due, rfl⟩
  | cons c rest ih =>
    cases hblank : isBlank c with
    | true =>
      obtain ⟨later, hrest⟩ := ih true
      exact ⟨later, by rw [List.cons_append, spaced_cons_blank _ hblank, hrest,
        spaced_cons_blank _ hblank]⟩
    | false =>
      obtain ⟨later, hrest⟩ := ih false
      exact ⟨later, by rw [List.cons_append, spaced_cons_visible _ hblank, hrest,
        spaced_cons_visible _ hblank, List.append_assoc]⟩

/-- Whether a space is due only shows in front. -/
theorem collapse_suffix_spaced (due : Bool) (text : Text) : text.collapse <:+ spaced due text := by
  rw [collapse_eq_spaced]
  induction text generalizing due with
  | nil => exact List.suffix_refl _
  | cons c rest ih =>
    cases hblank : isBlank c with
    | true =>
      have hdrop : trimStart (c :: rest) = trimStart rest := List.dropWhile_cons_of_pos hblank
      rw [hdrop, spaced_cons_blank _ hblank]
      exact ih true
    | false =>
      rw [trimStart_of_startsVisible ⟨c, rest, rfl, hblank⟩, spaced_cons_visible _ hblank,
        spaced_cons_visible _ hblank]
      cases due with
      | true => exact List.suffix_cons ' ' _
      | false => exact List.suffix_refl _

theorem trimStart_append (before after : Text) :
    trimStart (before ++ after) =
      if before.trimStart = [] then after.trimStart else before.trimStart ++ after := by
  rw [trimStart, List.dropWhile_append]
  simp only [List.isEmpty_iff]
  rfl

theorem collapse_append_left (before after : Text) : before.collapse <+: (before ++ after).collapse := by
  rw [collapse_eq_spaced, collapse_eq_spaced, trimStart_append]
  split
  · rename_i hnone
    rw [hnone]
    exact List.nil_prefix
  · obtain ⟨later, happend⟩ := exists_spaced_append false before.trimStart after
    rw [happend]
    exact List.prefix_append _ _

theorem collapse_append_right (before after : Text) : after.collapse <:+ (before ++ after).collapse := by
  rw [collapse_eq_spaced (before ++ after), trimStart_append]
  split
  · rw [collapse_eq_spaced after]
  · obtain ⟨later, happend⟩ := exists_spaced_append false before.trimStart after
    rw [happend]
    exact (collapse_suffix_spaced later after).trans (List.suffix_append _ _)

/-- What comes of a stretch is found in what comes of the text. -/
theorem collapse_isInfix (hmiddle : middle <:+: text) : middle.collapse <:+: text.collapse := by
  obtain ⟨before, after, rfl⟩ := hmiddle
  exact (collapse_append_right before middle).isInfix.trans (collapse_append_left _ after).isInfix

theorem infix_trimStart (hstarts : middle.StartsVisible) (hmiddle : middle <:+: text) :
    middle <:+: text.trimStart := by
  obtain ⟨before, after, rfl⟩ := hmiddle
  rw [List.append_assoc, trimStart_append]
  split
  · rw [trimStart_of_startsVisible hstarts.append]
    exact (List.prefix_append _ _).isInfix
  · exact ⟨trimStart before, after, List.append_assoc ..⟩

theorem infix_trim (htight : middle.Tight) (hmiddle : middle <:+: text) :
    middle <:+: text.trim := by
  obtain ⟨init, last, hlast, hvisible⟩ := htight.ends
  have hreversed : StartsVisible middle.reverse := ⟨last, init.reverse, by simp [hlast], hvisible⟩
  rw [trim, trimEnd, ← List.reverse_infix, List.reverse_reverse]
  exact infix_trimStart hreversed (List.reverse_infix.mpr (infix_trimStart htight.starts hmiddle))

/-! ### Single spaces -/

/-- The only blanks are spaces, and there are no two of them side by side. -/
structure SingleSpaced (text : Text) : Prop where
  spaces : ∀ c ∈ text, isBlank c = true → c = ' '
  apart : text.IsChain fun c next => isBlank c = false ∨ isBlank next = false

theorem singleSpaced_iff :
    text.SingleSpaced ↔ text.all (fun c => !isBlank c || c == ' ') = true ∧
      text.IsChain fun c next => isBlank c = false ∨ isBlank next = false := by
  have hspaces : text.all (fun c => !isBlank c || c == ' ') = true ↔
      ∀ c ∈ text, isBlank c = true → c = ' ' := by
    simp [List.all_eq_true, ← Bool.not_eq_true, imp_iff_not_or]
  rw [hspaces]
  exact ⟨fun hspaced => ⟨hspaced.spaces, hspaced.apart⟩, fun hboth => ⟨hboth.1, hboth.2⟩⟩

instance : DecidablePred SingleSpaced := fun _ => decidable_of_iff' _ singleSpaced_iff

theorem SingleSpaced.nil : SingleSpaced [] := ⟨List.forall_mem_nil _, .nil⟩

theorem SingleSpaced.of_isInfix (htext : text.SingleSpaced) (hmiddle : middle <:+: text) :
    middle.SingleSpaced where
  spaces c hc := htext.spaces c (hmiddle.subset hc)
  apart := by
    obtain ⟨before, after, rfl⟩ := hmiddle
    exact (List.isChain_append.mp (List.isChain_append.mp htext.apart).1).2.1

theorem SingleSpaced.cons_visible (htext : text.SingleSpaced) (hvisible : isBlank c = false) :
    SingleSpaced (c :: text) where
  spaces := List.forall_mem_cons.mpr
    ⟨fun hblank => absurd hblank (by simp [hvisible]), htext.spaces⟩
  apart := by
    cases text with
    | nil => exact .singleton c
    | cons next rest => exact .cons_cons (.inl hvisible) htext.apart

theorem SingleSpaced.cons_space (htext : text.SingleSpaced) (hstarts : text.StartsVisible) :
    SingleSpaced (' ' :: text) where
  spaces := List.forall_mem_cons.mpr ⟨fun _ => rfl, htext.spaces⟩
  apart := by
    obtain ⟨next, rest, rfl, hvisible⟩ := hstarts
    exact .cons_cons (.inr hvisible) htext.apart

theorem SingleSpaced.append (hbefore : before.SingleSpaced) (hafter : after.SingleSpaced)
    (hends : before.EndsVisible) : SingleSpaced (before ++ after) where
  spaces := List.forall_mem_append.mpr ⟨hbefore.spaces, hafter.spaces⟩
  apart := by
    obtain ⟨init, last, rfl, hvisible⟩ := hends
    refine List.isChain_append.mpr ⟨hbefore.apart, hafter.apart, ?_⟩
    intro c hc next _
    obtain rfl : last = c := by simpa using hc
    exact .inl hvisible

/-- A text stays single-spaced if the blanks are left alone and a tight text with single spaces comes of each visible character. -/
theorem SingleSpaced.flatMap {image : Char → Text} (htext : text.SingleSpaced)
    (hblanks : ∀ c, isBlank c = true → image c = [c])
    (himage : ∀ c, isBlank c = false → (image c).Tight ∧ (image c).SingleSpaced) :
    SingleSpaced (text.flatMap image) := by
  induction text with
  | nil => exact .nil
  | cons c rest ih =>
    have hrest : SingleSpaced (rest.flatMap image) :=
      ih (htext.of_isInfix (List.suffix_cons c rest).isInfix)
    rw [List.flatMap_cons]
    cases hblank : isBlank c with
    | false => exact (himage c hblank).2.append hrest (himage c hblank).1.ends
    | true =>
      obtain rfl := htext.spaces c List.mem_cons_self hblank
      rw [hblanks _ hblank]
      cases rest with
      | nil => exact ⟨by simp, .singleton _⟩
      | cons next later =>
        have hnext : isBlank next = false := by
          simpa [hblank] using (List.isChain_cons_cons.mp htext.apart).1
        exact hrest.cons_space (himage next hnext).1.starts.append

theorem singleSpaced_spaced (due : Bool) (text : Text) : (spaced due text).SingleSpaced := by
  induction text generalizing due with
  | nil => exact .nil
  | cons c rest ih =>
    cases hblank : isBlank c with
    | true =>
      rw [spaced_cons_blank _ hblank]
      exact ih true
    | false =>
      rw [spaced_cons_visible _ hblank]
      have hfrom : SingleSpaced (c :: spaced false rest) := (ih false).cons_visible hblank
      cases due with
      | true => exact hfrom.cons_space ⟨c, _, rfl, hblank⟩
      | false => exact hfrom

theorem singleSpaced_collapse (text : Text) : text.collapse.SingleSpaced := by
  rw [collapse_eq_spaced]
  exact singleSpaced_spaced false _

/-- The blanks at the end are the only ones that are dropped. -/
theorem spaced_of_singleSpaced (htext : text.SingleSpaced) (hends : text.EndsVisible) :
    spaced false text = text := by
  induction text with
  | nil => rfl
  | cons c rest ih =>
    have hrest : SingleSpaced rest := htext.of_isInfix (List.suffix_cons c rest).isInfix
    obtain ⟨init, last, hlast, hvisible⟩ := hends
    cases init with
    | nil =>
      obtain ⟨rfl, rfl⟩ := List.cons.inj hlast
      rw [spaced_cons_visible _ hvisible]
      rfl
    | cons d init =>
      obtain ⟨rfl, hrestEnds⟩ := List.cons.inj hlast
      have hkept : spaced false rest = rest := ih hrest ⟨init, last, hrestEnds, hvisible⟩
      cases hblank : isBlank c with
      | false =>
        rw [spaced_cons_visible _ hblank, hkept]
        rfl
      | true =>
        obtain rfl := htext.spaces c List.mem_cons_self hblank
        obtain ⟨next, later, rfl⟩ : ∃ next later, rest = next :: later :=
          List.exists_cons_of_ne_nil (hrestEnds ▸ List.append_ne_nil_of_right_ne_nil _ (by simp))
        have hnext : isBlank next = false := by
          simpa [hblank] using (List.isChain_cons_cons.mp htext.apart).1
        rw [spaced_cons_visible _ hnext] at hkept
        rw [spaced_cons_blank _ hblank, spaced_cons_visible _ hnext]
        exact congrArg (' ' :: ·) hkept

theorem collapse_of_singleSpaced (htext : text.SingleSpaced) (htight : text.Tight) :
    text.collapse = text := by
  rw [collapse_of_startsVisible htight.starts, spaced_of_singleSpaced htext htight.ends]

end Text

end Stylesheet
