import Mathlib.Data.List.Forall2
import Stylesheet.Proofs.Rule.Outline
import Stylesheet.Proofs.Selector.Split

/-!
# Rule text can be read back

Legible rules have names and values that do not interfere with the layout, and nothing in them is empty. Their outline can be read from their text in either mode, so no two outlines share a text.

The two modes differ in the blanks around things, in the semicolon behind the last declaration and in the selectors. Blanks are trimmed away wherever the reader looks at a text. As for the selectors, a list that is written with bare commas has the parts that it had before, also when it leaves brackets or quotes open; this is `Selector.split_join`.
-/

namespace Stylesheet

open Outline (isDelimiter)

/-! ### Legible rules -/

namespace Text

/-- No delimiter stands in the text. -/
def Plain (text : Text) : Prop := ∀ c ∈ text, isDelimiter c = false

instance (text : Text) : Decidable text.Plain :=
  List.decidableBAll (isDelimiter · = false) text

/-- A heading, name, property or value that can be told from its surroundings. -/
structure Legible (text : Text) : Prop where
  plain : text.Plain
  trimmed : text.trim = text
  ne_nil : text ≠ []

instance (text : Text) : Decidable text.Legible :=
  decidable_of_iff (text.Plain ∧ text.trim = text ∧ text ≠ [])
    ⟨fun ⟨hplain, htrimmed, hne⟩ => ⟨hplain, htrimmed, hne⟩,
      fun ⟨hplain, htrimmed, hne⟩ => ⟨hplain, htrimmed, hne⟩⟩

end Text

structure Declaration.Legible (declaration : Declaration) : Prop where
  property : declaration.property.Legible
  no_colon : ':' ∉ declaration.property
  value : declaration.value.Legible

instance (declaration : Declaration) : Decidable declaration.Legible :=
  decidable_of_iff (declaration.property.Legible ∧ ':' ∉ declaration.property
      ∧ declaration.value.Legible)
    ⟨fun ⟨hproperty, hcolon, hvalue⟩ => ⟨hproperty, hcolon, hvalue⟩,
      fun ⟨hproperty, hcolon, hvalue⟩ => ⟨hproperty, hcolon, hvalue⟩⟩

namespace Rule

/-- Declarations under a selector list or a stop label that has a part. -/
structure LegibleBlock (selector : Text) (declarations : List Declaration) : Prop where
  plain : selector.Plain
  parts : Selector.split selector ≠ []
  legible : ∀ declaration ∈ declarations, declaration.Legible
  ne_nil : declarations ≠ []

instance (selector : Text) (declarations : List Declaration) :
    Decidable (LegibleBlock selector declarations) :=
  decidable_of_iff (selector.Plain ∧ Selector.split selector ≠ []
      ∧ (∀ declaration ∈ declarations, declaration.Legible) ∧ declarations ≠ [])
    ⟨fun ⟨hplain, hparts, hlegible, hne⟩ => ⟨hplain, hparts, hlegible, hne⟩,
      fun ⟨hplain, hparts, hlegible, hne⟩ => ⟨hplain, hparts, hlegible, hne⟩⟩

inductive Legible : Rule → Prop
  | style {selector : Text} {declarations : List Declaration}
    (hblock : LegibleBlock selector declarations) : Legible (.style selector declarations)
  | atRule {heading : Text} {rules : List Rule} (hheading : heading.Legible) (hne : rules ≠ [])
    (hrules : ∀ rule ∈ rules, Legible rule) : Legible (.atRule heading rules)
  | keyframes {name : Text} {stops : List Stop} (hname : name.Legible) (hne : stops ≠ [])
    (hstops : ∀ stop ∈ stops, LegibleBlock stop.label stop.declarations) :
    Legible (.keyframes name stops)

end Rule

/-! ### Plain texts -/

namespace Text

variable {text before after blanks : Text}

theorem Plain.append (hbefore : before.Plain) (hafter : after.Plain) : Plain (before ++ after) :=
  fun c hc => (List.mem_append.mp hc).elim (hbefore c) (hafter c)

theorem plain_of_blank (hblanks : ∀ c ∈ blanks, isBlank c = true) : blanks.Plain := by
  intro c hc
  have hopening : c ≠ '\x7b' := Selector.Scan.ne_of_blank (hblanks c hc) (by decide)
  have hclosing : c ≠ '\x7d' := Selector.Scan.ne_of_blank (hblanks c hc) (by decide)
  have hsemicolon : c ≠ ';' := Selector.Scan.ne_of_blank (hblanks c hc) (by decide)
  simp [isDelimiter, hopening, hclosing, hsemicolon]

theorem mem_join {c : Char} {separator : Text} {parts : List Text}
    (hc : c ∈ join separator parts) : c ∈ separator ∨ ∃ part ∈ parts, c ∈ part := by
  cases parts with
  | nil => exact absurd hc List.not_mem_nil
  | cons first rest =>
    rw [join_cons, List.mem_append, List.mem_flatMap] at hc
    rcases hc with hfirst | ⟨part, hpart, hmem⟩
    · exact .inr ⟨first, List.mem_cons_self, hfirst⟩
    · exact (List.mem_append.mp hmem).imp_right fun hin =>
        ⟨part, List.mem_cons_of_mem _ hpart, hin⟩

end Text

/-! ### The layout of a mode -/

namespace Rule

variable (mode : RenderMode)

theorem openBrace_eq : openBrace mode = innerGap mode ++ ['\x7b'] := by cases mode <;> rfl

theorem closeBrace_eq : closeBrace mode = innerGap mode ++ ['\x7d'] := by cases mode <;> rfl

theorem blank_innerGap : ∀ c ∈ innerGap mode, Text.isBlank c = true :=
  List.all_eq_true.mp (by cases mode <;> rfl)

theorem blank_outerGap : ∀ c ∈ outerGap mode, Text.isBlank c = true :=
  List.all_eq_true.mp (by cases mode <;> rfl)

/-- A declaration without its semicolon. -/
def declarationText (declaration : Declaration) : Text :=
  innerGap mode ++ declaration.property ++ ':' :: (innerGap mode ++ declaration.value)

/-- Between two declarations there is a semicolon in either mode. -/
theorem declarationsText_cons (first next : Declaration) (rest : List Declaration) :
    declarationsText (first :: next :: rest) mode =
      declarationText mode first ++ ';' :: declarationsText (next :: rest) mode := by
  cases mode with
  | pretty => simp [declarationsText, declarationText, innerGap]
  | minified =>
    rw [declarationsText, List.map_cons, List.map_cons, Text.join, List.intercalate_cons_cons]
    simp [declarationsText, declarationText, innerGap, Text.join]

theorem innerText_eq (rules : List Rule) :
    innerText mode rules = (rules.map (text mode)).flatMap (innerGap mode ++ ·) := by
  induction rules with
  | nil => rfl
  | cons rule rest ih => rw [innerText, List.map_cons, List.flatMap_cons, ih]

/-- The reader finds the parts of a list whatever the mode and the blanks around the list. -/
theorem split_selectorText {gap : Text} (hgap : ∀ c ∈ gap, Text.isBlank c = true)
    (selector : Text) :
    Selector.split (gap ++ selectorText selector mode ++ innerGap mode) =
      Selector.split selector := by
  rw [Selector.split_padded hgap (blank_innerGap mode)]
  cases mode with
  | pretty => rfl
  | minified => exact Selector.split_join (by simp) (Selector.joinable_split selector)

theorem plain_selectorText {selector : Text} (hplain : selector.Plain) :
    (selectorText selector mode).Plain := by
  cases mode with
  | pretty => exact hplain
  | minified =>
    intro c hc
    rcases Text.mem_join hc with hcomma | ⟨part, hpart, hmem⟩
    · rw [List.mem_singleton.mp hcomma]
      decide
    · exact hplain c (Selector.mem_of_mem_split hpart hmem)

end Rule

namespace Outline

open Rule (innerGap declarationsText declarationText closeBrace)

/-! ### Runs of the reader -/

namespace Reader

theorem run?_append (before after : Text) (state : Reader) :
    state.run? (before ++ after) = (state.run? before).bind (run? after) :=
  List.foldlM_append

theorem run?_cons (c : Char) (rest : Text) (state : Reader) :
    state.run? (c :: rest) = (state.step? c).bind (run? rest) :=
  List.foldlM_cons

theorem run?_plain {text : Text} (hplain : text.Plain) (rest : Text) (state : Reader) :
    state.run? (text ++ rest) = run? rest { state with pending := state.pending ++ text } := by
  induction text generalizing state with
  | nil => rw [List.nil_append, List.append_nil]
  | cons c text ih =>
    obtain ⟨hc, htext⟩ := List.forall_mem_cons.mp hplain
    have hstep : state.step? c = some { state with pending := state.pending ++ [c] } := by
      simp only [isDelimiter, Bool.or_eq_false_iff, decide_eq_false_iff_not] at hc
      rw [step?, if_neg hc.1.1, if_neg hc.2, if_neg hc.1.2]
    rw [List.cons_append, run?_cons, hstep, Option.bind_some, ih htext, List.append_assoc]
    rfl

end Reader

/-! ### Declarations -/

theorem declaration?_padded {declaration : Declaration} (hlegible : declaration.Legible)
    {before between : Text} (hbefore : ∀ c ∈ before, Text.isBlank c = true)
    (hbetween : ∀ c ∈ between, Text.isBlank c = true) :
    declaration? (before ++ declaration.property ++ ':' :: (between ++ declaration.value)) =
      some declaration := by
  have hproperty : ∀ c ∈ before ++ declaration.property, decide (c ≠ ':') = true := by
    intro c hc
    refine decide_eq_true ?_
    rcases List.mem_append.mp hc with hblank | hname
    · exact Selector.Scan.ne_of_blank (hbefore c hblank) (by decide)
    · exact fun heq => hlegible.no_colon (heq ▸ hname)
  rw [declaration?, if_pos (by simp), List.takeWhile_append_of_pos hproperty,
    List.dropWhile_append_of_pos hproperty, List.takeWhile_cons_of_neg (by simp),
    List.dropWhile_cons_of_neg (by simp), List.append_nil, List.drop_one, List.tail_cons,
    Text.trim_blanks_append hbefore, Text.trim_blanks_append hbetween, hlegible.property.trimmed,
    hlegible.value.trimmed]

/-! ### Blocks -/

variable {mode : RenderMode}

theorem Reader.settled?_blank {state : Reader}
    (hblank : ∀ c ∈ state.pending, Text.isBlank c = true) :
    state.settled? = some { state with pending := [] } := by
  rw [settled?, Text.trim_of_blank hblank]
  rfl

theorem Reader.settled?_declaration {state : Reader} {declaration : Declaration}
    (hpending : state.pending = declarationText mode declaration)
    (hlegible : declaration.Legible) :
    state.settled? = some
      { state with pending := [], current := state.current.declare declaration } := by
  have hdeclaration : declaration? state.pending = some declaration := by
    rw [hpending]
    exact declaration?_padded hlegible (Rule.blank_innerGap mode) (Rule.blank_innerGap mode)
  have hcolon : ':' ∈ Text.visible state.pending := by
    rw [hpending]
    exact List.mem_filter.mpr ⟨by simp [declarationText], by decide⟩
  have htrim : state.pending.trim ≠ [] := by
    rw [← Text.visible_trim] at hcolon
    exact List.ne_nil_of_mem (List.mem_of_mem_filter hcolon)
  rw [settled?, if_neg (by simpa using htrim), declared?, hdeclaration]
  rfl

theorem plain_declarationText {declaration : Declaration} (hlegible : declaration.Legible) :
    (declarationText mode declaration).Plain := by
  have hgap := Text.plain_of_blank (Rule.blank_innerGap mode)
  have hcolon : Text.Plain [':'] := by decide
  exact (hgap.append hlegible.property.plain).append
    (hcolon.append (hgap.append hlegible.value.plain))

/-- The declaration in front of a semicolon. -/
theorem Reader.run?_declaration {declaration : Declaration} (hlegible : declaration.Legible)
    (rest : Text) (current : Frame) (outer : List Frame) :
    Reader.run? (declarationText mode declaration ++ ';' :: rest) ⟨[], current, outer⟩ =
      Reader.run? rest ⟨[], current.declare declaration, outer⟩ := by
  have hparsed := declaration?_padded hlegible (Rule.blank_innerGap mode)
    (Rule.blank_innerGap mode)
  rw [run?_plain (plain_declarationText hlegible), run?_cons, List.nil_append]
  show (Reader.declared? _).bind _ = _
  rw [declared?]
  show ((declaration? (declarationText mode declaration)).map _).bind _ = _
  rw [declarationText, hparsed]
  rfl

theorem Frame.close?_block {declarations : List Declaration} (hne : declarations ≠ [])
    (heading : Text) :
    Frame.close? ⟨heading, declarations, []⟩ = some (ofBlock heading declarations) := by
  obtain ⟨first, rest, rfl⟩ := List.exists_cons_of_ne_nil hne
  rfl

theorem Frame.close?_group {parts : List Outline} (hne : parts ≠ []) (heading : Text) :
    Frame.close? ⟨heading, [], parts⟩ = some (.group heading.trim parts) := by
  obtain ⟨first, rest, rfl⟩ := List.exists_cons_of_ne_nil hne
  rfl

theorem Reader.run?_closing {text : Text} (hplain : text.Plain) {current settled frame : Frame}
    {outer : List Frame}
    (hsettled : settled? ⟨text, current, frame :: outer⟩ = some ⟨[], settled, frame :: outer⟩)
    {part : Outline} (hclose : settled.close? = some part) :
    Reader.run? (text ++ ['\x7d']) ⟨[], current, frame :: outer⟩ =
      some ⟨[], frame.add part, outer⟩ := by
  have hclosed : closed? ⟨text, current, frame :: outer⟩ = some ⟨[], frame.add part, outer⟩ := by
    simp only [closed?, hsettled, Option.bind_some, hclose, Option.map_some]
  have hstep : step? ⟨text, current, frame :: outer⟩ '\x7d' = some ⟨[], frame.add part, outer⟩ :=
    hclosed
  rw [run?_plain hplain, run?_cons, List.nil_append, hstep]
  rfl

/-- The last declaration may or may not have a semicolon. -/
theorem Reader.run?_lastDeclaration {declaration : Declaration} (hlegible : declaration.Legible)
    (heading : Text) (before : List Declaration) (frame : Frame) (outer : List Frame) :
    Reader.run? (declarationsText [declaration] mode ++ closeBrace mode)
        ⟨[], ⟨heading, before, []⟩, frame :: outer⟩ =
      some ⟨[], frame.add (ofBlock heading (before ++ [declaration])), outer⟩ := by
  have hclose : Frame.close? ⟨heading, before ++ [declaration], []⟩ =
      some (ofBlock heading (before ++ [declaration])) :=
    Frame.close?_block (by simp) heading
  cases mode with
  | pretty =>
    have htext : declarationsText [declaration] .pretty ++ closeBrace .pretty =
        declarationText .pretty declaration ++ ';' :: ([' '] ++ ['\x7d']) := by
      simp [declarationsText, declarationText, innerGap, closeBrace]
    rw [htext, run?_declaration hlegible]
    exact run?_closing (by decide) (settled?_blank (Rule.blank_innerGap .pretty)) hclose
  | minified =>
    have htext : declarationsText [declaration] .minified ++ closeBrace .minified =
        declarationText .minified declaration ++ ['\x7d'] := by
      simp [declarationsText, declarationText, innerGap, closeBrace, Text.join]
    rw [htext]
    exact run?_closing (plain_declarationText hlegible) (settled?_declaration rfl hlegible) hclose

theorem Reader.run?_declarations {declarations : List Declaration}
    (hlegible : ∀ declaration ∈ declarations, declaration.Legible) (hne : declarations ≠ [])
    (heading : Text) (before : List Declaration) (frame : Frame) (outer : List Frame) :
    Reader.run? (declarationsText declarations mode ++ closeBrace mode)
        ⟨[], ⟨heading, before, []⟩, frame :: outer⟩ =
      some ⟨[], frame.add (ofBlock heading (before ++ declarations)), outer⟩ := by
  induction declarations generalizing before with
  | nil => exact absurd rfl hne
  | cons first rest ih =>
    obtain ⟨hfirst, hrest⟩ := List.forall_mem_cons.mp hlegible
    cases rest with
    | nil => exact run?_lastDeclaration hfirst heading before frame outer
    | cons next rest =>
      have hlater := ih hrest (List.cons_ne_nil next rest) (before ++ [first])
      rw [List.append_assoc] at hlater
      rw [Rule.declarationsText_cons, List.append_assoc, List.cons_append, run?_declaration hfirst]
      exact hlater

/-! ### Parts -/

/-- Behind any blanks, reading the text of a part adds the part to what was read before. -/
def Reads (text : Text) (part : Outline) : Prop :=
  ∀ gap : Text, (∀ c ∈ gap, Text.isBlank c = true) → ∀ (current : Frame) (outer : List Frame),
    Reader.run? (gap ++ text) ⟨[], current, outer⟩ = some ⟨[], current.add part, outer⟩

theorem Reader.run?_opening {heading : Text} (hplain : heading.Plain) (rest : Text)
    (current : Frame) (outer : List Frame) :
    Reader.run? (heading ++ '\x7b' :: rest) ⟨[], current, outer⟩ =
      Reader.run? rest ⟨[], { heading }, current :: outer⟩ := by
  rw [run?_plain hplain, run?_cons, List.nil_append]
  rfl

variable (mode)

theorem reads_block {selector : Text} {declarations : List Declaration}
    (hblock : Rule.LegibleBlock selector declarations) :
    Reads (Rule.blockText mode selector declarations) (ofBlock selector declarations) := by
  intro gap hgap current outer
  have hblank := Rule.blank_innerGap mode
  have hplain : Text.Plain (gap ++ Rule.selectorText selector mode ++ innerGap mode) :=
    ((Text.plain_of_blank hgap).append (Rule.plain_selectorText mode hblock.plain)).append
      (Text.plain_of_blank hblank)
  have htext : gap ++ Rule.blockText mode selector declarations =
      (gap ++ Rule.selectorText selector mode ++ innerGap mode)
        ++ '\x7b' :: (declarationsText declarations mode ++ closeBrace mode) := by
    simp [Rule.blockText, Rule.openBrace_eq]
  rw [htext, Reader.run?_opening hplain, Reader.run?_declarations hblock.legible hblock.ne_nil,
    ofBlock, Rule.split_selectorText mode hgap, List.nil_append]
  rfl

/-- Parts with a gap in front of each. -/
theorem reads_gapped {gap : Text} (hgap : ∀ c ∈ gap, Text.isBlank c = true) {texts : List Text}
    {parts : List Outline} (hreads : List.Forall₂ Reads texts parts) (current : Frame)
    (outer : List Frame) :
    Reader.run? (texts.flatMap (gap ++ ·)) ⟨[], current, outer⟩ =
      some ⟨[], { current with parts := current.parts ++ parts }, outer⟩ := by
  induction hreads generalizing current with
  | nil =>
    rw [List.append_nil]
    rfl
  | @cons text part texts parts hpart _ ih =>
    rw [List.flatMap_cons, Reader.run?_append, hpart gap hgap, Option.bind_some, ih]
    simp [Frame.add]

theorem reads_group {heading : Text} (hheading : heading.Legible) {texts : List Text}
    {parts : List Outline} (hreads : List.Forall₂ Reads texts parts) (hne : parts ≠ []) :
    Reads (heading ++ Rule.openBrace mode ++ texts.flatMap (innerGap mode ++ ·) ++ closeBrace mode)
      (.group heading parts) := by
  intro gap hgap current outer
  have hblank := Rule.blank_innerGap mode
  have hgapPlain := Text.plain_of_blank hblank
  have hplain : Text.Plain (gap ++ heading ++ innerGap mode) :=
    ((Text.plain_of_blank hgap).append hheading.plain).append hgapPlain
  have htext : gap ++ (heading ++ Rule.openBrace mode ++ texts.flatMap (innerGap mode ++ ·)
        ++ closeBrace mode) =
      (gap ++ heading ++ innerGap mode)
        ++ '\x7b' :: (texts.flatMap (innerGap mode ++ ·) ++ (innerGap mode ++ ['\x7d'])) := by
    simp [Rule.openBrace_eq, Rule.closeBrace_eq]
  have hclose : Frame.close? ⟨gap ++ heading ++ innerGap mode, [], parts⟩ =
      some (.group heading parts) := by
    rw [Frame.close?_group hne, Text.trim_append_blanks hblank, Text.trim_blanks_append hgap,
      hheading.trimmed]
  rw [htext, Reader.run?_opening hplain, Reader.run?_append, reads_gapped hblank hreads,
    Option.bind_some]
  exact Reader.run?_closing hgapPlain (Reader.settled?_blank hblank) hclose

/-! ### Rules -/

theorem forall₂_reads {α : Type} {items : List α} {text : α → Text} {part : α → Outline}
    (hreads : ∀ item ∈ items, Reads (text item) (part item)) :
    List.Forall₂ Reads (items.map text) (items.map part) := by
  rw [List.forall₂_map_left_iff, List.forall₂_map_right_iff, List.forall₂_same]
  exact hreads

theorem ofRules_eq_map (rules : List Rule) : ofRules rules = rules.map ofRule := by
  induction rules with
  | nil => rfl
  | cons rule rest ih => rw [ofRules, ih, List.map_cons]

theorem legible_keyframesHeading {name : Text} (hname : name.Legible) :
    (Rule.keyframesHeading name).Legible where
  plain := by
    have hmark : Text.Plain "@keyframes ".toList := by decide
    exact hmark.append hname.plain
  trimmed := by
    have htight : name.Tight := hname.trimmed ▸ Text.tight_trim (hname.trimmed.symm ▸ hname.ne_nil)
    exact Text.trim_of_tight ⟨⟨'@', _, rfl, by decide⟩, htight.ends.append⟩
  ne_nil := List.cons_ne_nil _ _

theorem reads_rule {rule : Rule} (hlegible : rule.Legible) :
    Reads (Rule.text mode rule) (ofRule rule) := by
  induction hlegible with
  | style hblock => exact reads_block mode hblock
  | atRule hheading hne _ ih =>
    rw [Rule.text, Rule.innerText_eq, ofRule, ofRules_eq_map]
    exact reads_group mode hheading (forall₂_reads ih) (by simpa using hne)
  | keyframes hname hne hstops =>
    rw [Rule.text, ofRule, ← List.flatMap_map]
    exact reads_group mode (legible_keyframesHeading hname)
      (forall₂_reads fun stop hstop => reads_block mode (hstops stop hstop)) (by simpa using hne)

theorem ofText?_render {rules : List Rule} (hlegible : ∀ rule ∈ rules, rule.Legible) :
    ofText? (Rule.render mode rules) = some (ofRules rules) := by
  have hrun : Reader.run? (Rule.render mode rules) ⟨[], {}, []⟩ =
      some ⟨[], ⟨[], [], ofRules rules⟩, []⟩ := by
    have hreads := forall₂_reads fun rule hrule => reads_rule mode (hlegible rule hrule)
    rw [ofRules_eq_map]
    cases rules with
    | nil => rfl
    | cons first rest =>
      obtain ⟨hfirst, hrest⟩ := List.forall₂_cons.mp hreads
      have hstart : Reader.run? (Rule.text mode first) ⟨[], {}, []⟩ = _ := hfirst [] (by simp) {} []
      rw [Rule.render, List.map_cons, Text.join_cons, Reader.run?_append, hstart,
        Option.bind_some, reads_gapped (Rule.blank_outerGap mode) hrest]
      rfl
  show (Reader.run? (Rule.render mode rules) ⟨[], {}, []⟩).bind Reader.finished? = _
  rw [hrun]
  rfl

/-- Whichever mode legible rules are written in, their outline is read from the text; so rules that share a text, in one mode or across the modes, have one outline. -/
theorem outline_render {rules : List Rule} (hlegible : ∀ rule ∈ rules, rule.Legible) :
    (∀ mode, ofText? (Rule.render mode rules) = some (ofRules rules)) ∧
      ∀ others : List Rule, (∀ rule ∈ others, rule.Legible) → ∀ mode otherMode,
        Rule.render mode rules = Rule.render otherMode others → ofRules rules = ofRules others := by
  refine ⟨fun mode => ofText?_render mode hlegible, ?_⟩
  intro others hothers mode otherMode hsame
  have hread := ofText?_render mode hlegible
  rw [hsame, ofText?_render otherMode hothers] at hread
  exact (Option.some.inj hread).symm

/-- An open bracket in a selector, a value that starts with a colon, a group within a group, and an animation. -/
def printSheet : List Rule :=
  [.style ".a , :is(.b, .c".toList
      [⟨"color".toList, ":red".toList⟩, ⟨"margin".toList, "0 1px".toList⟩],
    .atRule "@media print".toList
      [.atRule "@supports (gap: 1px)".toList [.style ".a".toList [⟨"gap".toList, "1px".toList⟩]],
        .keyframes "rise".toList [⟨"from,to".toList, [⟨"opacity".toList, "0".toList⟩]⟩]]]

theorem outline_printSheet :
    (∀ rule ∈ printSheet, rule.Legible) ∧
      (∀ mode, ofText? (Rule.render mode printSheet) = some (ofRules printSheet)) ∧
      (∀ others : List Rule, (∀ rule ∈ others, rule.Legible) → ∀ mode otherMode,
        Rule.render mode printSheet = Rule.render otherMode others →
          ofRules printSheet = ofRules others) ∧
      Rule.render .minified printSheet =
        ".a,:is(.b, .c\x7bcolor::red;margin:0 1px\x7d".toList
          ++ "@media print\x7b@supports (gap: 1px)\x7b.a\x7bgap:1px\x7d\x7d".toList
          ++ "@keyframes rise\x7bfrom,to\x7bopacity:0\x7d\x7d\x7d".toList := by
  have hlegible : ∀ rule ∈ printSheet, rule.Legible := by
    have hgap : Rule.Legible (.atRule "@supports (gap: 1px)".toList
        [.style ".a".toList [⟨"gap".toList, "1px".toList⟩]]) :=
      .atRule (by decide +kernel) (List.cons_ne_nil _ _)
        (List.forall_mem_singleton.mpr (.style (by decide +kernel)))
    have hrise : Rule.Legible
        (.keyframes "rise".toList [⟨"from,to".toList, [⟨"opacity".toList, "0".toList⟩]⟩]) :=
      .keyframes (by decide +kernel) (List.cons_ne_nil _ _) (by decide +kernel)
    exact List.forall_mem_cons.mpr ⟨.style (by decide +kernel), List.forall_mem_singleton.mpr <|
      .atRule (by decide +kernel) (List.cons_ne_nil _ _)
        (List.forall_mem_cons.mpr ⟨hgap, List.forall_mem_singleton.mpr hrise⟩)⟩
  obtain ⟨hread, hsame⟩ := outline_render hlegible
  exact ⟨hlegible, hread, hsame, by decide +kernel⟩

end Outline

end Stylesheet
