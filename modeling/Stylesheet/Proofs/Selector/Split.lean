import Stylesheet.Proofs.Selector.Scan

/-!
# Splitting and joining

Splitting a well-bracketed list leads to parts, which are well-bracketed themselves, have no top-level comma and are tight; joining parts to a list and splitting the list gives the parts back. Between the two the blanks around a part come and go, and they do not count in a scan.
-/

namespace Stylesheet

namespace Selector

/-- Outside quotes every closing bracket closes an open one, and in the end all brackets and quotes are closed. -/
structure WellBracketed (text : Text) : Prop where
  closes : Scan.all Scan.closesOpen .start text = true
  ends : Scan.start.run text = .start

/-- What a well-bracketed list can be split into. -/
structure IsPart (part : Text) : Prop extends WellBracketed part where
  keeps : Scan.all Scan.keepsOn .start part = true
  tight : part.Tight

instance (text : Text) : Decidable (WellBracketed text) :=
  decidable_of_iff (Scan.all Scan.closesOpen .start text = true ∧ Scan.start.run text = .start)
    ⟨fun hboth => ⟨hboth.1, hboth.2⟩, fun hbracketed => ⟨hbracketed.closes, hbracketed.ends⟩⟩

variable {state : Scan} {c : Char} {list key part text other : Text} {p : Scan → Char → Bool}

/-! ### Cutting -/

theorem cut_ne_nil (state : Scan) (text : Text) : cut state text ≠ [] := by
  cases text with
  | nil => simp [cut]
  | cons c rest =>
    rw [cut]
    split
    · simp
    · split <;> simp

theorem cut_cons (state : Scan) (c : Char) (rest : Text) : cut state (c :: rest) =
    if state.isCut c then [] :: cut state rest
    else (cut (state.step c) rest).modifyHead (c :: ·) := by
  rw [cut]
  split
  · rfl
  · split
    · rename_i hnil
      exact absurd hnil (cut_ne_nil _ rest)
    · rename_i hcons
      rw [hcons, List.modifyHead_cons]

theorem cut_append (hkeeps : Scan.all Scan.keepsOn state part = true) (rest : Text) :
    cut state (part ++ rest) = (cut (state.run part) rest).modifyHead (part ++ ·) := by
  induction part generalizing state with
  | nil =>
    show cut state rest = (cut state rest).modifyHead id
    rw [List.modifyHead_id, id]
  | cons c part ih =>
    rw [Scan.all, Bool.and_eq_true] at hkeeps
    have hkeep : state.isCut c = false := by simpa [Scan.keepsOn] using hkeeps.1
    rw [List.cons_append, cut_cons, hkeep, if_neg Bool.false_ne_true, ih hkeeps.2,
      List.modifyHead_modifyHead]
    rfl

theorem cut_of_keepsOn (hkeeps : Scan.all Scan.keepsOn state part = true) :
    cut state part = [part] := by
  have hcut := cut_append hkeeps []
  rwa [List.append_nil, cut, List.modifyHead_cons, List.append_nil] at hcut

/-- Blanks in front of a list are trimmed away. -/
theorem map_trim_cut_blank (hblank : Text.isBlank c = true) (text : Text) :
    (cut .start (c :: text)).map Text.trim = (cut .start text).map Text.trim := by
  have hkeep : Scan.start.isCut c = false := by
    simpa [Scan.keepsOn] using Scan.keepsOn_blank .start c hblank
  obtain ⟨first, others, hcut⟩ := List.exists_cons_of_ne_nil (cut_ne_nil .start text)
  rw [cut_cons, hkeep, if_neg Bool.false_ne_true, Scan.step_blank Scan.proper_start hblank, hcut,
    List.modifyHead_cons, List.map_cons, List.map_cons, Text.trim_cons_blank hblank]

/-- Blanks behind a list only reach its last stretch. -/
theorem cut_append_blanks (state : Scan) (text : Text) {blanks : Text}
    (hblanks : ∀ c ∈ blanks, Text.isBlank c = true) :
    ∃ init last, cut state text = init ++ [last] ∧
      cut state (text ++ blanks) = init ++ [last ++ blanks] := by
  induction text generalizing state with
  | nil =>
    refine ⟨[], [], rfl, cut_of_keepsOn ?_⟩
    exact Scan.all_of_forall_mem fun state c hc => Scan.keepsOn_blank state c (hblanks c hc)
  | cons c rest ih =>
    rw [List.cons_append, cut_cons, cut_cons]
    cases hcut : state.isCut c with
    | true =>
      obtain ⟨init, last, hplain, hpadded⟩ := ih state
      exact ⟨[] :: init, last, by rw [if_pos rfl, hplain]; rfl, by rw [if_pos rfl, hpadded]; rfl⟩
    | false =>
      obtain ⟨init, last, hplain, hpadded⟩ := ih (state.step c)
      rw [if_neg Bool.false_ne_true, if_neg Bool.false_ne_true, hplain, hpadded]
      cases init with
      | nil => exact ⟨[], c :: last, rfl, rfl⟩
      | cons first init => exact ⟨(c :: first) :: init, last, rfl, rfl⟩

theorem split_append_blanks (list : Text) {blanks : Text}
    (hblanks : ∀ c ∈ blanks, Text.isBlank c = true) : split (list ++ blanks) = split list := by
  obtain ⟨init, last, hplain, hpadded⟩ := cut_append_blanks .start list hblanks
  rw [split, split, hplain, hpadded, List.map_append, List.map_append, List.map_singleton,
    List.map_singleton, Text.trim_append_blanks hblanks]

theorem map_trim_cut_blanks_append {blanks : Text}
    (hblanks : ∀ c ∈ blanks, Text.isBlank c = true) (text : Text) :
    (cut .start (blanks ++ text)).map Text.trim = (cut .start text).map Text.trim := by
  induction blanks with
  | nil => rfl
  | cons c rest ih =>
    obtain ⟨hc, hrest⟩ := List.forall_mem_cons.mp hblanks
    rw [List.cons_append, map_trim_cut_blank hc, ih hrest]

/-- The blanks around a list do not count. -/
theorem split_padded {before after : Text} (hbefore : ∀ c ∈ before, Text.isBlank c = true)
    (hafter : ∀ c ∈ after, Text.isBlank c = true) (list : Text) :
    split (before ++ list ++ after) = split list := by
  rw [split_append_blanks _ hafter, split, map_trim_cut_blanks_append hbefore, split]

/-! ### Joining parts -/

/-- Parts that can be put together to a list: tight and without a top-level comma, where only the last one may leave something open. -/
inductive Joinable : List Text → Prop
  | nil : Joinable []
  | last {part : Text} (hkeeps : Scan.all Scan.keepsOn .start part = true)
    (htight : part.Tight) : Joinable [part]
  | comma {part : Text} {rest : List Text}
    (hkeeps : Scan.all Scan.keepsOn .start part = true) (htight : part.Tight)
    (hends : Scan.start.run part = .start) (hrest : Joinable rest) : Joinable (part :: rest)

theorem Joinable.of_isPart {parts : List Text} (hparts : ∀ part ∈ parts, IsPart part) :
    Joinable parts := by
  induction parts with
  | nil => exact .nil
  | cons part rest ih =>
    obtain ⟨hpart, hrest⟩ := List.forall_mem_cons.mp hparts
    exact .comma hpart.keeps hpart.tight hpart.ends (ih hrest)

/-- Joining does not mind what is done to the parts as long as it keeps them tight and leads the scan to where it went. -/
theorem Joinable.map {parts : List Text} (hparts : Joinable parts) {image : Text → Text}
    (hkeeps : ∀ part, Scan.all Scan.keepsOn .start part = true →
      Scan.all Scan.keepsOn .start (image part) = true)
    (htight : ∀ part : Text, part.Tight → (image part).Tight)
    (hruns : ∀ part, Scan.start.run (image part) = Scan.start.run part) :
    Joinable (parts.map image) := by
  induction hparts with
  | nil => exact .nil
  | last hpart htightPart => exact .last (hkeeps _ hpart) (htight _ htightPart)
  | comma hpart htightPart hends _ ih =>
    exact .comma (hkeeps _ hpart) (htight _ htightPart) ((hruns _).trans hends) ih

theorem Joinable.ne_nil_of_mem {parts : List Text} (hparts : Joinable parts)
    (hpart : part ∈ parts) : part ≠ [] := by
  induction hparts with
  | nil => exact absurd hpart List.not_mem_nil
  | last _ htight => exact List.mem_singleton.mp hpart ▸ htight.ne_nil
  | comma _ htight _ _ ih =>
    rcases List.mem_cons.mp hpart with rfl | hrest
    · exact htight.ne_nil
    · exact ih hrest

theorem map_trim_cut_join {blanks : Text} (hblanks : ∀ c ∈ blanks, Text.isBlank c = true)
    {parts : List Text} (hparts : Joinable parts) (hne : parts ≠ []) :
    (cut .start (Text.join (',' :: blanks) parts)).map Text.trim = parts := by
  induction hparts with
  | nil => exact absurd rfl hne
  | last hkeeps htight =>
    rw [Text.join, List.intercalate_singleton, cut_of_keepsOn hkeeps, List.map_singleton,
      Text.trim_of_tight htight]
  | @comma part rest hkeeps htight hends _ ih =>
    cases rest with
    | nil =>
      rw [Text.join, List.intercalate_singleton, cut_of_keepsOn hkeeps, List.map_singleton,
        Text.trim_of_tight htight]
    | cons next rest =>
      have hjoin : Text.join (',' :: blanks) (part :: next :: rest) =
          part ++ ',' :: (blanks ++ Text.join (',' :: blanks) (next :: rest)) := by
        rw [Text.join, List.intercalate_cons_cons, List.append_assoc]
        rfl
      have hcut : Scan.start.isCut ',' = true := rfl
      rw [hjoin, cut_append hkeeps, hends, cut_cons, hcut, if_pos rfl, List.modifyHead_cons,
        List.map_cons, List.append_nil, Text.trim_of_tight htight,
        map_trim_cut_blanks_append hblanks, ih (List.cons_ne_nil next rest)]

/-- Parts that are joined by commas can be split again, whatever blanks follow the commas. -/
theorem split_join {blanks : Text} (hblanks : ∀ c ∈ blanks, Text.isBlank c = true)
    {parts : List Text} (hparts : Joinable parts) :
    split (Text.join (',' :: blanks) parts) = parts := by
  by_cases hne : parts = []
  · subst hne
    rfl
  · rw [split, map_trim_cut_join hblanks hparts hne, List.filter_eq_self]
    intro part hpart
    simpa using hparts.ne_nil_of_mem hpart

theorem split_joinList {parts : List Text} (hparts : ∀ part ∈ parts, IsPart part) :
    split (joinList parts) = parts :=
  split_join (List.all_eq_true.mp rfl) (.of_isPart hparts)

/-! ### Splitting a list -/

/-- A stretch between two cuts, scanned from the state before it. -/
structure Stretch (p : Scan → Char → Bool) (state : Scan) (text : Text) : Prop where
  steps : Scan.all p state text = true
  keeps : Scan.all Scan.keepsOn state text = true
  ends : state.run text = .start

/-- Stretches with a cut between any two, scanned one after another; the scan ends where the last of them does. -/
inductive Stretches (p : Scan → Char → Bool) : Scan → List Text → Scan → Prop
  | last {state : Scan} {text : Text} (hsteps : Scan.all p state text = true)
    (hkeeps : Scan.all Scan.keepsOn state text = true) :
    Stretches p state [text] (state.run text)
  | comma {state final : Scan} {text : Text} {rest : List Text}
    (hstretch : Stretch p state text) (hrest : Stretches p .start rest final) :
    Stretches p state (text :: rest) final

/-- A comma only cuts where nothing is open, so every stretch ends where the next one starts. -/
theorem cut_stretches (hsteps : Scan.all p state text = true) :
    Stretches p state (cut state text) (state.run text) := by
  induction text generalizing state with
  | nil => exact .last rfl rfl
  | cons c rest ih =>
    rw [Scan.all, Bool.and_eq_true] at hsteps
    have hrest := ih hsteps.2
    rw [cut_cons]
    cases hcomma : state.isCut c with
    | true =>
      obtain ⟨rfl, rfl⟩ := Scan.eq_of_isCut hcomma
      exact .comma ⟨rfl, rfl, rfl⟩ hrest
    | false =>
      rw [if_neg Bool.false_ne_true]
      have hstep : ∀ {q : Scan → Char → Bool} {first : Text}, q state c = true →
          Scan.all q (state.step c) first = true → Scan.all q state (c :: first) = true :=
        fun hc hfirst => by rw [Scan.all, hc, hfirst]; rfl
      have hkeep : state.keepsOn c = true := by rw [Scan.keepsOn, hcomma]; rfl
      generalize hcut : cut (state.step c) rest = texts at hrest
      show Stretches p state _ ((state.step c).run rest)
      generalize (state.step c).run rest = final at hrest
      cases hrest with
      | last hfirst hkeeps => exact .last (hstep hsteps.1 hfirst) (hstep hkeep hkeeps)
      | comma hfirst hothers =>
        exact .comma ⟨hstep hsteps.1 hfirst.steps, hstep hkeep hfirst.keeps, hfirst.ends⟩ hothers

/-- What counts in a scan is what is visible. -/
theorem Stretch.congr (hblanks : ∀ state c, Text.isBlank c = true → p state c = true)
    (hstretch : Stretch p .start text) (hvisible : other.visible = text.visible) :
    Stretch p .start other where
  steps := (Scan.all_congr Scan.proper_start hblanks hvisible).trans hstretch.steps
  keeps := (Scan.all_congr Scan.proper_start Scan.keepsOn_blank hvisible).trans hstretch.keeps
  ends := (Scan.run_congr Scan.proper_start hvisible).trans hstretch.ends

theorem mem_split :
    part ∈ split list ↔ part ≠ [] ∧ ∃ stretch ∈ cut .start list, stretch.trim = part := by
  rw [split, List.mem_filter, List.mem_map]
  simp [and_comm]

theorem tight_of_mem_split (hpart : part ∈ split list) : part.Tight := by
  obtain ⟨hne, stretch, -, rfl⟩ := mem_split.mp hpart
  exact Text.tight_trim hne

theorem tight_of_mem_keyParts (hpart : part ∈ keyParts key) : part.Tight := by
  obtain ⟨raw, hraw, rfl⟩ := List.mem_map.mp hpart
  exact (tight_of_mem_split hraw).collapse

theorem Stretches.stretch_of_mem {texts : List Text} {final : Scan}
    (hstretches : Stretches p state texts final) (hstart : state = .start)
    (hfinal : final = .start) (hmem : text ∈ texts) : Stretch p .start text := by
  induction hstretches with
  | last hsteps hkeeps =>
    subst hstart
    rw [List.mem_singleton.mp hmem]
    exact ⟨hsteps, hkeeps, hfinal⟩
  | comma hstretch _ ih =>
    subst hstart
    rcases List.mem_cons.mp hmem with rfl | hrest
    · exact hstretch
    · exact ih rfl hfinal hrest

theorem mem_of_mem_cut {stretch : Text} (hstretch : stretch ∈ cut state text)
    (hc : c ∈ stretch) : c ∈ text := by
  induction text generalizing state stretch with
  | nil =>
    rw [cut, List.mem_singleton] at hstretch
    exact absurd hc (hstretch ▸ List.not_mem_nil)
  | cons d rest ih =>
    rw [cut_cons] at hstretch
    split at hstretch
    · rcases List.mem_cons.mp hstretch with rfl | hrest
      · exact absurd hc List.not_mem_nil
      · exact List.mem_cons_of_mem _ (ih hrest hc)
    · obtain ⟨first, others, hcut⟩ := List.exists_cons_of_ne_nil (cut_ne_nil (state.step d) rest)
      rw [hcut, List.modifyHead_cons] at hstretch
      rcases List.mem_cons.mp hstretch with rfl | hother
      · rcases List.mem_cons.mp hc with rfl | hfirst
        · exact List.mem_cons_self
        · exact List.mem_cons_of_mem _ (ih (hcut ▸ List.mem_cons_self) hfirst)
      · exact List.mem_cons_of_mem _ (ih (hcut ▸ List.mem_cons_of_mem _ hother) hc)

theorem mem_of_mem_split (hpart : part ∈ split list) (hc : c ∈ part) : c ∈ list := by
  obtain ⟨_, stretch, hstretch, rfl⟩ := mem_split.mp hpart
  exact mem_of_mem_cut hstretch (Text.mem_of_mem_trim hc)

/-- The parts that a list is split into are stretches without the blanks around them. -/
theorem stretch_of_mem_split (hblanks : ∀ state c, Text.isBlank c = true → p state c = true)
    (hsteps : Scan.all p .start list = true) (hends : Scan.start.run list = .start)
    (hpart : part ∈ split list) : Stretch p .start part ∧ part.Tight := by
  obtain ⟨hne, stretch, hstretch, rfl⟩ := mem_split.mp hpart
  have hwhole := (cut_stretches hsteps).stretch_of_mem rfl hends hstretch
  exact ⟨hwhole.congr hblanks (Text.visible_trim stretch), Text.tight_trim hne⟩

/-- Without their blanks and the empty ones, stretches can be put together again. -/
theorem Stretches.joinable {texts : List Text} {final : Scan}
    (hstretches : Stretches p state texts final) (hstart : state = .start) :
    Joinable ((texts.map Text.trim).filter fun part => !part.isEmpty) := by
  have hkeeps (text : Text) : Scan.all Scan.keepsOn .start text.trim =
      Scan.all Scan.keepsOn .start text :=
    Scan.all_congr Scan.proper_start Scan.keepsOn_blank (Text.visible_trim text)
  induction hstretches with
  | @last state text _ hwhole =>
    subst hstart
    by_cases hblank : text.trim = []
    · simpa [hblank] using Joinable.nil
    · simpa [hblank] using Joinable.last ((hkeeps text).trans hwhole) (Text.tight_trim hblank)
  | @comma state final text rest hstretch _ ih =>
    subst hstart
    by_cases hblank : text.trim = []
    · simpa [hblank] using ih rfl
    · have hends : Scan.start.run text.trim = .start :=
        (Scan.run_congr Scan.proper_start (Text.visible_trim text)).trans hstretch.ends
      simpa [hblank] using Joinable.comma ((hkeeps text).trans hstretch.keeps)
        (Text.tight_trim hblank) hends (ih rfl)

/-- Any list can be put together from its parts, well-bracketed or not: what is left open by one part ends with it, unless it is the last. -/
theorem joinable_split (list : Text) : Joinable (split list) := by
  have hsteps : Scan.all (fun _ _ => true) .start list = true :=
    Scan.all_of_forall_mem fun _ _ _ => rfl
  exact (cut_stretches hsteps).joinable rfl

/-- The parts of a key can be put together, well-bracketed or not. -/
theorem joinable_keyParts (key : Text) : Joinable (keyParts key) := by
  refine (joinable_split key).map ?_ ?_ ?_
  · intro part hkeeps
    exact (Scan.all_congr Scan.proper_start Scan.keepsOn_blank (Text.visible_collapse part)).trans
      hkeeps
  · exact fun part htight => htight.collapse
  · exact fun part => Scan.run_congr Scan.proper_start (Text.visible_collapse part)

theorem isPart_of_mem_split (hlist : WellBracketed list) (hpart : part ∈ split list) :
    IsPart part := by
  obtain ⟨hstretch, htight⟩ :=
    stretch_of_mem_split Scan.closesOpen_blank hlist.closes hlist.ends hpart
  exact ⟨⟨hstretch.steps, hstretch.ends⟩, hstretch.keeps, htight⟩

/-- The parts of a key, collapsed, with their marks outside quotes if those of the key are. -/
theorem isPart_of_mem_keyParts (hkey : WellBracketed key)
    (hmarks : Scan.all Scan.marksOutside .start key = true) (hpart : part ∈ keyParts key) :
    IsPart part ∧ Scan.all Scan.marksOutside .start part = true := by
  obtain ⟨raw, hraw, rfl⟩ := List.mem_map.mp hpart
  obtain ⟨hstretch, htight⟩ :=
    stretch_of_mem_split Scan.closesOpen_blank hkey.closes hkey.ends hraw
  obtain ⟨hmarked, _⟩ := stretch_of_mem_split Scan.marksOutside_blank hmarks hkey.ends hraw
  have hvisible := Text.visible_collapse raw
  have hcollapsed := hstretch.congr Scan.closesOpen_blank hvisible
  exact ⟨⟨⟨hcollapsed.steps, hcollapsed.ends⟩, hcollapsed.keeps, htight.collapse⟩,
    (hmarked.congr Scan.marksOutside_blank hvisible).steps⟩

/-! ### Lists with something in them -/

/-- What no comma cuts stays together in one stretch. -/
theorem exists_stretch_of_keeps (state : Scan) (before : Text) {middle : Text} (after : Text)
    (hkeeps : Scan.all Scan.keepsOn (state.run before) middle = true) :
    ∃ stretch ∈ cut state (before ++ (middle ++ after)), middle <:+: stretch := by
  induction before generalizing state with
  | nil =>
    obtain ⟨first, others, hafter⟩ :=
      List.exists_cons_of_ne_nil (cut_ne_nil (state.run middle) after)
    have hcut : cut state (middle ++ after) =
        (cut (state.run middle) after).modifyHead (middle ++ ·) := cut_append hkeeps after
    rw [List.nil_append, hcut, hafter, List.modifyHead_cons]
    exact ⟨middle ++ first, List.mem_cons_self, (List.prefix_append middle first).isInfix⟩
  | cons c before ih =>
    obtain ⟨stretch, hstretch, hinfix⟩ := ih (state.step c) hkeeps
    rw [List.cons_append, cut_cons]
    cases hcut : state.isCut c with
    | true =>
      obtain ⟨rfl, rfl⟩ := Scan.eq_of_isCut hcut
      exact ⟨stretch, List.mem_cons_of_mem _ hstretch, hinfix⟩
    | false =>
      obtain ⟨first, others, hcons⟩ := List.exists_cons_of_ne_nil
        (cut_ne_nil (state.step c) (before ++ (middle ++ after)))
      rw [hcons] at hstretch
      rw [if_neg Bool.false_ne_true, hcons, List.modifyHead_cons]
      rcases List.mem_cons.mp hstretch with rfl | hother
      · exact ⟨c :: stretch, List.mem_cons_self, hinfix.trans (List.suffix_cons c stretch).isInfix⟩
      · exact ⟨stretch, List.mem_cons_of_mem _ hother, hinfix⟩

theorem exists_mem_cut (state : Scan) (hc : c ∈ text) (hcomma : c ≠ ',') :
    ∃ stretch ∈ cut state text, c ∈ stretch := by
  obtain ⟨before, after, rfl⟩ := List.append_of_mem hc
  have hkeeps : Scan.all Scan.keepsOn (state.run before) [c] = true := by
    simp [Scan.all, Scan.keepsOn, Scan.isCut, hcomma]
  obtain ⟨stretch, hstretch, hinfix⟩ := exists_stretch_of_keeps state before after hkeeps
  exact ⟨stretch, hstretch, hinfix.subset List.mem_cons_self⟩

/-- A list with a visible character other than a comma has a part. -/
theorem split_ne_nil (hc : c ∈ list) (hcomma : c ≠ ',') (hvisible : Text.isBlank c = false) :
    split list ≠ [] := by
  obtain ⟨stretch, hstretch, hmem⟩ := exists_mem_cut .start hc hcomma
  have htrimmed : c ∈ stretch.trim := by
    have hseen : c ∈ stretch.visible := List.mem_filter.mpr ⟨hmem, by simp [hvisible]⟩
    rw [← Text.visible_trim] at hseen
    exact List.mem_of_mem_filter hseen
  have hpart : stretch.trim ∈ split list :=
    mem_split.mpr ⟨List.ne_nil_of_mem htrimmed, stretch, hstretch, rfl⟩
  exact List.ne_nil_of_mem hpart

/-- A character that no splitting takes away. -/
def IsSolid (c : Char) : Prop := c ≠ ',' ∧ Text.isBlank c = false

theorem Joinable.exists_isSolid {parts : List Text} (hparts : Joinable parts)
    (hpart : part ∈ parts) : ∃ c ∈ part, IsSolid c := by
  -- The scan of a part begins with nothing open, so a comma in front would have cut.
  have hfirst {part : Text} (hkeeps : Scan.all Scan.keepsOn .start part = true)
      (htight : part.Tight) : ∃ c ∈ part, IsSolid c := by
    obtain ⟨c, rest, rfl, hvisible⟩ := htight.starts
    refine ⟨c, List.mem_cons_self, ?_, hvisible⟩
    rintro rfl
    exact Bool.false_ne_true hkeeps
  induction hparts with
  | nil => exact absurd hpart List.not_mem_nil
  | last hkeeps htight => exact List.mem_singleton.mp hpart ▸ hfirst hkeeps htight
  | comma hkeeps htight _ _ ih =>
    rcases List.mem_cons.mp hpart with rfl | hrest
    · exact hfirst hkeeps htight
    · exact ih hrest

theorem exists_isSolid_of_mem_split {list : Text} (hpart : part ∈ split list) :
    ∃ c ∈ part, IsSolid c :=
  (joinable_split list).exists_isSolid hpart

end Selector

end Stylesheet
