import Stylesheet.Proofs.Selector.Level
import Stylesheet.Proofs.Selector.Nesting
import Stylesheet.Proofs.Text.Collapse
import Stylesheet.Rule

/-!
# Quoted strings in keys

Lists are cut outside quotes and marks are replaced outside quotes, but blanks are collapsed wherever they stand. So a quoted string of a key gets into the selectors of its part with its blanks collapsed: one with single spaces is found there as it was. One with other blanks, a tab or two spaces side by side, is lost if the current selectors have single spaces themselves, as a class has, because then the list that comes of nesting has no other blanks at all.
-/

namespace Stylesheet

namespace Selector

variable {current key part quoted root text : Text} {parts : List Text}

/-- A quoted string of a text with its marks: no mark is open in front of it, and it ends with the next mark of its kind. -/
structure Quotes (text quoted : Text) : Prop where
  occurs : ∃ before after, text = before ++ (quoted ++ after) ∧
    (Scan.start.run before).quote = none
  encloses : ∃ mark inner, quoted = mark :: (inner ++ [mark]) ∧ IsMark mark ∧ mark ∉ inner

/-! ### Within a list -/

theorem Quotes.tight (hquotes : Quotes text quoted) : quoted.Tight := by
  obtain ⟨mark, inner, rfl, hmark, -⟩ := hquotes.encloses
  have hvisible : Text.isBlank mark = false := by rcases hmark with rfl | rfl <;> decide
  exact ⟨⟨mark, _, rfl, hvisible⟩, ⟨mark :: inner, mark, rfl, hvisible⟩⟩

/-- What is asked of the steps of a scan is asked in a quoted string with its mark open. -/
theorem all_quotation {p : Scan → Char → Bool} {state : Scan} {inner : Text} {mark : Char}
    (hquote : state.quote = none) (hmark : IsMark mark) (hinner : mark ∉ inner) :
    Scan.all p state (mark :: (inner ++ [mark])) =
      (p state mark && (inner ++ [mark]).all (p ⟨state.depth, some mark⟩)) := by
  obtain ⟨depth, quote⟩ := state
  obtain rfl : quote = none := hquote
  rw [Scan.all, Scan.step_mark hmark, Scan.all_append, Scan.all_quoted hinner,
    Scan.run_quoted hinner, List.all_append]
  rfl

/-- No comma cuts in quotes. -/
theorem Quotes.exists_part (hquotes : Quotes text quoted) : ∃ part ∈ split text, quoted <:+: part := by
  have htight := hquotes.tight
  obtain ⟨before, after, rfl, hbefore⟩ := hquotes.occurs
  have hkeeps : Scan.all Scan.keepsOn (Scan.start.run before) quoted = true := by
    obtain ⟨mark, inner, rfl, hmark, hinner⟩ := hquotes.encloses
    have hcomma : mark ≠ ',' := by rcases hmark with rfl | rfl <;> decide
    rw [all_quotation hbefore hmark hinner, Bool.and_eq_true, List.all_eq_true]
    refine ⟨?_, fun c _ => ?_⟩
    · simp [Scan.keepsOn, Scan.isCut, hcomma]
    · simp [Scan.keepsOn, Scan.isCut]
  obtain ⟨stretch, hstretch, hinfix⟩ := exists_stretch_of_keeps .start before after hkeeps
  have hinfix := Text.infix_trim htight hinfix
  refine ⟨stretch.trim, mem_split.mpr ⟨?_, stretch, hstretch, rfl⟩, hinfix⟩
  intro hnone
  rw [hnone, List.infix_nil] at hinfix
  exact htight.ne_nil hinfix

theorem Quotes.notMem_mark (hquotes : Quotes key quoted)
    (hmarks : Scan.all Scan.marksOutside .start key = true) : '&' ∉ quoted := by
  obtain ⟨before, after, rfl, hbefore⟩ := hquotes.occurs
  obtain ⟨mark, inner, rfl, hmark, hinner⟩ := hquotes.encloses
  rw [Scan.all_append, Scan.all_append, all_quotation hbefore hmark hinner, Bool.and_eq_true,
    Bool.and_eq_true, Bool.and_eq_true, List.all_eq_true] at hmarks
  intro hmem
  rcases List.mem_cons.mp hmem with rfl | hlater
  · rcases hmark with hdouble | hsingle
    · exact absurd hdouble (by decide)
    · exact absurd hsingle (by decide)
  · exact absurd (hmarks.2.1.2 '&' hlater) (by simp [Scan.marksOutside])

/-! ### Through the nesting -/

theorem infix_modify (hfree : '&' ∉ quoted) (hpart : quoted <:+: part) (root : Text) :
    quoted <:+: modify root part := by
  rw [modify]
  split
  · obtain ⟨before, after, rfl⟩ := hpart
    refine ⟨Text.substitute '&' root before, Text.substitute '&' root after, ?_⟩
    have hquoted := substitute_of_notMem hfree root
    rw [Text.substitute] at hquoted
    rw [Text.substitute, Text.substitute, Text.substitute, List.flatMap_append,
      List.flatMap_append, hquoted]
  · exact hpart.trans (List.suffix_append root part).isInfix

theorem infix_join (separator : Text) (hpart : part ∈ parts) :
    part <:+: Text.join separator parts := by
  cases parts with
  | nil => exact absurd hpart List.not_mem_nil
  | cons first rest =>
    rw [Text.join_cons]
    rcases List.mem_cons.mp hpart with rfl | hrest
    · exact (List.prefix_append _ _).isInfix
    · obtain ⟨before, after, hparts⟩ := List.append_of_mem hrest
      refine ⟨first ++ before.flatMap (separator ++ ·) ++ separator,
        after.flatMap (separator ++ ·), ?_⟩
      simp [hparts]

/-- What stands between two selectors of a list. -/
def listSeparator : RenderMode → Text
  | .pretty => separator
  | .minified => [',']

theorem selectorText_joinList (hparts : ∀ part ∈ parts, IsPart part) (mode : RenderMode) :
    Rule.selectorText (joinList parts) mode = Text.join (listSeparator mode) parts := by
  cases mode with
  | pretty => rfl
  | minified =>
    rw [Rule.selectorText, split_joinList hparts]
    rfl

/-! ### Single spaces -/

theorem singleSpaced_join (hparts : ∀ part ∈ parts, part.Tight ∧ part.SingleSpaced)
    (mode : RenderMode) : (Text.join (listSeparator mode) parts).SingleSpaced := by
  induction parts with
  | nil => exact .nil
  | cons first rest ih =>
    obtain ⟨⟨htight, hspaced⟩, hrest⟩ := List.forall_mem_cons.mp hparts
    cases rest with
    | nil =>
      rw [Text.join, List.intercalate_singleton]
      exact hspaced
    | cons next rest =>
      have hlater := ih hrest
      have hstarts : (Text.join (listSeparator mode) (next :: rest)).StartsVisible := by
        rw [Text.join_cons]
        exact (hrest next List.mem_cons_self).1.starts.append
      have hcomma : Text.SingleSpaced
          (listSeparator mode ++ Text.join (listSeparator mode) (next :: rest)) := by
        cases mode with
        | pretty => exact (hlater.cons_space hstarts).cons_visible (by decide)
        | minified => exact hlater.cons_visible (by decide)
      rw [Text.join, List.intercalate_cons_cons, List.append_assoc]
      exact hspaced.append hcomma htight.ends

theorem singleSpaced_modify (hroot : root.Tight) (hspaced : root.SingleSpaced)
    (hpart : part.SingleSpaced) : (modify root part).SingleSpaced := by
  rw [modify]
  split
  · refine hpart.flatMap ?_ ?_
    · intro c hblank
      exact if_neg (Scan.ne_of_blank hblank (by decide))
    · intro c hvisible
      split
      · exact ⟨hroot, hspaced⟩
      · exact ⟨Text.IsWord.tight ⟨List.cons_ne_nil c [], List.forall_mem_singleton.mpr hvisible⟩,
          Text.SingleSpaced.nil.cons_visible hvisible⟩
  · exact hspaced.append hpart hroot.ends

theorem singleSpaced_of_mem_modifyAll (hroots : ∀ root ∈ split current, root.SingleSpaced) :
    ∀ nested ∈ modifyAll (split current) key, nested.SingleSpaced := by
  intro nested hnested
  obtain ⟨root, hroot, hmodified⟩ := List.mem_flatMap.mp hnested
  obtain ⟨part, hpart, rfl⟩ := List.mem_map.mp hmodified
  obtain ⟨raw, -, rfl⟩ := List.mem_map.mp hpart
  exact singleSpaced_modify (tight_of_mem_split hroot) (hroots root hroot)
    (Text.singleSpaced_collapse raw)

theorem singleSpaced_of_mem_descendAll (hroots : ∀ root ∈ split current, root.SingleSpaced) :
    ∀ nested ∈ descendAll (split current) key, nested.SingleSpaced := by
  intro nested hnested
  obtain ⟨part, hpart, hdescended⟩ := List.mem_flatMap.mp hnested
  obtain ⟨root, hroot, rfl⟩ := List.mem_map.mp hdescended
  obtain ⟨raw, hraw, rfl⟩ := List.mem_map.mp hpart
  have hstarts := (tight_of_mem_split hraw).collapse.starts
  exact (hroots root hroot).append ((Text.singleSpaced_collapse raw).cons_space hstarts)
    (tight_of_mem_split hroot).ends

/-! ### What is found of a quoted string -/

theorem Quotes.exists_modified (hquotes : Quotes key quoted) (hkey : IsKey key)
    (hsome : split current ≠ []) :
    ∃ nested ∈ modifyAll (split current) key, quoted.collapse <:+: nested := by
  obtain ⟨root, hroot⟩ := List.exists_mem_of_ne_nil _ hsome
  obtain ⟨raw, hraw, hinfix⟩ := hquotes.exists_part
  have hfree : '&' ∉ quoted.collapse := fun hmem =>
    hquotes.notMem_mark hkey.marks (Text.mem_of_mem_collapse hmem (by decide))
  exact ⟨modify root raw.collapse,
    List.mem_flatMap.mpr ⟨root, hroot, List.mem_map_of_mem (List.mem_map_of_mem hraw)⟩,
    infix_modify hfree (Text.collapse_isInfix hinfix) root⟩

theorem Quotes.exists_descended (hquotes : Quotes key quoted) (hsome : split current ≠ []) :
    ∃ nested ∈ descendAll (split current) key, quoted.collapse <:+: nested := by
  obtain ⟨root, hroot⟩ := List.exists_mem_of_ne_nil _ hsome
  obtain ⟨raw, hraw, hinfix⟩ := hquotes.exists_part
  refine ⟨root ++ ' ' :: raw.collapse,
    List.mem_flatMap.mpr ⟨_, List.mem_map_of_mem hraw, List.mem_map_of_mem hroot⟩, ?_⟩
  exact (Text.collapse_isInfix hinfix).trans
    ((List.suffix_cons ' ' _).trans (List.suffix_append root _)).isInfix

/-- How a tight text gets into a list of parts, one of which has it collapsed. -/
theorem infix_selectorText (htight : quoted.Tight) (hparts : ∀ part ∈ parts, IsPart part)
    (hfound : ∃ part ∈ parts, quoted.collapse <:+: part) (mode : RenderMode) :
    quoted.collapse <:+: Rule.selectorText (joinList parts) mode ∧
      (quoted.SingleSpaced → quoted <:+: Rule.selectorText (joinList parts) mode) ∧
      ((∀ part ∈ parts, part.SingleSpaced) →
        quoted <:+: Rule.selectorText (joinList parts) mode → quoted.SingleSpaced) := by
  obtain ⟨part, hpart, hinfix⟩ := hfound
  rw [selectorText_joinList hparts]
  have hcollapsed := hinfix.trans (infix_join (listSeparator mode) hpart)
  refine ⟨hcollapsed, fun hspaced => ?_, fun hspaced hkept => ?_⟩
  · rwa [Text.collapse_of_singleSpaced hspaced htight] at hcollapsed
  · have hall : ∀ part ∈ parts, part.Tight ∧ part.SingleSpaced := fun part hpart =>
      ⟨(hparts part hpart).tight, hspaced part hpart⟩
    exact (singleSpaced_join hall mode).of_isInfix hkept

/-- A quoted string of a key is found in what comes of nesting with its blanks collapsed, in either mode; as it was it is found if it has single spaces, and under current selectors with single spaces only then. -/
theorem quoted_infix_nested (hcurrent : WellBracketed current) (hsome : split current ≠ [])
    (hkey : IsKey key) (hquotes : Quotes key quoted) (mode : RenderMode) :
    ∀ nested ∈ [resolveModifier current key, joinDescendant current key],
      quoted.collapse <:+: Rule.selectorText nested mode ∧
        (quoted.SingleSpaced → quoted <:+: Rule.selectorText nested mode) ∧
        ((∀ root ∈ split current, root.SingleSpaced) →
          quoted <:+: Rule.selectorText nested mode → quoted.SingleSpaced) := by
  have hroots : ∀ root ∈ split current, IsPart root := fun _ => isPart_of_mem_split hcurrent
  have hmodified := infix_selectorText hquotes.tight (isPart_of_mem_modifyAll hroots hkey)
    (hquotes.exists_modified hkey hsome) mode
  have hdescended := infix_selectorText hquotes.tight (isPart_of_mem_descendAll hroots hkey)
    (hquotes.exists_descended hsome) mode
  rw [List.forall_mem_cons, List.forall_mem_singleton, resolveModifier_eq hsome,
    joinDescendant_eq hsome]
  exact ⟨⟨hmodified.1, hmodified.2.1, hmodified.2.2 ∘ singleSpaced_of_mem_modifyAll⟩,
    ⟨hdescended.1, hdescended.2.1, hdescended.2.2 ∘ singleSpaced_of_mem_descendAll⟩⟩

/-- A comma and the other mark in the quotes of one part, two spaces in those of the other, and blanks to collapse outside. -/
def titleKey : Text := "&[title='x, \x22 y'],  p  > [title=\x22a  b\x22]".toList

theorem quoted_infix_nested_titleKey :
    WellBracketed ".a, .b".toList ∧ split ".a, .b".toList ≠ [] ∧ IsKey titleKey ∧
      Quotes titleKey "'x, \x22 y'".toList ∧ Quotes titleKey "\x22a  b\x22".toList ∧
      (∀ mode, ∀ nested ∈ [resolveModifier ".a, .b".toList titleKey,
          joinDescendant ".a, .b".toList titleKey],
        "'x, \x22 y'".toList <:+: Rule.selectorText nested mode ∧
          ¬"\x22a  b\x22".toList <:+: Rule.selectorText nested mode) ∧
      resolveModifier ".a, .b".toList titleKey =
        (".a[title='x, \x22 y'], .ap > [title=\x22a b\x22], "
          ++ ".b[title='x, \x22 y'], .bp > [title=\x22a b\x22]").toList := by
  have hcurrent : WellBracketed ".a, .b".toList := by decide +kernel
  have hsome : split ".a, .b".toList ≠ [] := by decide +kernel
  have hroots : ∀ root ∈ split ".a, .b".toList, Text.SingleSpaced root := by decide +kernel
  have hkey : IsKey titleKey := by decide +kernel
  have htitle : Quotes titleKey "'x, \x22 y'".toList :=
    ⟨⟨"&[title=".toList, "],  p  > [title=\x22a  b\x22]".toList, by decide +kernel,
      by decide +kernel⟩, ⟨'\x27', "x, \x22 y".toList, by decide +kernel, .inr rfl,
      by decide +kernel⟩⟩
  have hspaces : Quotes titleKey "\x22a  b\x22".toList :=
    ⟨⟨"&[title='x, \x22 y'],  p  > [title=".toList, "]".toList, by decide +kernel,
      by decide +kernel⟩, ⟨'\x22', "a  b".toList, by decide +kernel, .inl rfl,
      by decide +kernel⟩⟩
  refine ⟨hcurrent, hsome, hkey, htitle, hspaces, ?_, by decide +kernel⟩
  intro mode nested hnested
  obtain ⟨-, hkept, -⟩ := quoted_infix_nested hcurrent hsome hkey htitle mode nested hnested
  obtain ⟨-, -, honly⟩ := quoted_infix_nested hcurrent hsome hkey hspaces mode nested hnested
  exact ⟨hkept (by decide +kernel), fun hfound =>
    absurd (honly hroots hfound) (by decide +kernel)⟩

/-- Of two spaces in a quoted string one is lost. -/
theorem not_infix_twoSpaces :
    WellBracketed ".x".toList ∧ split ".x".toList ≠ [] ∧
      IsKey "&[title=\x22a  b\x22]".toList ∧
      Quotes "&[title=\x22a  b\x22]".toList "\x22a  b\x22".toList ∧
      resolveModifier ".x".toList "&[title=\x22a  b\x22]".toList =
        ".x[title=\x22a b\x22]".toList ∧
      ¬"\x22a  b\x22".toList <:+:
        resolveModifier ".x".toList "&[title=\x22a  b\x22]".toList := by
  refine ⟨by decide +kernel, by decide +kernel, by decide +kernel, ⟨?_, ?_⟩, by decide +kernel,
    by decide +kernel⟩
  · exact ⟨"&[title=".toList, "]".toList, by decide +kernel, by decide +kernel⟩
  · exact ⟨'\x22', "a  b".toList, by decide +kernel, .inl rfl, by decide +kernel⟩

end Selector

end Stylesheet
