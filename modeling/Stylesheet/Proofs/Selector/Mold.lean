import Stylesheet.Proofs.Selector.Fragment
import Stylesheet.Proofs.Selector.Nesting

/-!
# Molds

A mold is a text with gaps, and filled with an identifier it becomes a text with the identifier in every gap. All that is done to a selector on its way into a rule can be done to a mold before it is filled: a gap counts as visible and as no comma, bracket or quotation mark, and this holds of every identifier. So nothing that is decided about a selector hangs on the characters of the identifier in it.

A list with a gap never becomes one without, though some of its parts may be without: when quotation marks come together by nesting, a comma that was in quotes cuts from then on, and the gap stays on one side of it.
-/

namespace Stylesheet

open Text (IsFragment)

/-- A text with gaps for an identifier. -/
abbrev Mold := List (Option Char)

namespace Mold

variable {identifier left right : Identifier} {mold root : Mold} {state : Selector.Scan}
  {key : Text}

def fill (identifier : Identifier) (mold : Mold) : Text :=
  mold.flatMap fun piece => piece.elim identifier ([·])

def ofText (text : Text) : Mold := text.map some

@[simp]
theorem fill_append (identifier : Identifier) (mold rest : Mold) :
    fill identifier (mold ++ rest) = fill identifier mold ++ fill identifier rest :=
  List.flatMap_append

@[simp]
theorem fill_ofText (identifier : Identifier) (text : Text) :
    fill identifier (ofText text) = text := by
  induction text with
  | nil => rfl
  | cons c rest ih => exact congrArg (c :: ·) ih

theorem fill_flatMap {α : Type} (identifier : Identifier) (items : List α) (mold : α → Mold) :
    fill identifier (items.flatMap mold) = items.flatMap fun item => fill identifier (mold item) :=
  List.flatMap_assoc

theorem fill_eq_nil_iff (hidentifier : IsFragment identifier) :
    fill identifier mold = [] ↔ mold = [] := by
  cases mold with
  | nil => exact ⟨fun _ => rfl, fun _ => rfl⟩
  | cons piece rest =>
    refine ⟨fun hempty => ?_, fun hempty => absurd hempty (List.cons_ne_nil _ _)⟩
    obtain ⟨hpiece, -⟩ := List.append_eq_nil_iff.mp hempty
    cases piece with
    | none => exact absurd hpiece hidentifier.ne_nil
    | some c => exact absurd hpiece (List.cons_ne_nil _ _)

/-! ### Joining -/

def join (separator : Text) : List Mold → Mold
  | [] => []
  | first :: rest => first ++ rest.flatMap (ofText separator ++ ·)

theorem fill_join (identifier : Identifier) (separator : Text) (molds : List Mold) :
    fill identifier (join separator molds) = Text.join separator (molds.map (fill identifier)) := by
  cases molds with
  | nil => rfl
  | cons first rest =>
    rw [join, fill_append, fill_flatMap, List.map_cons, Text.join_cons, List.flatMap_map]
    simp only [fill_append, fill_ofText]

theorem mem_join {separator : Text} {molds : List Mold} (hmold : mold ∈ molds)
    (hgap : none ∈ mold) : none ∈ join separator molds := by
  cases molds with
  | nil => exact absurd hmold List.not_mem_nil
  | cons first rest =>
    rcases List.mem_cons.mp hmold with rfl | hrest
    · exact List.mem_append_left _ hgap
    · exact List.mem_append_right _
        (List.mem_flatMap.mpr ⟨mold, hrest, List.mem_append_right _ hgap⟩)

/-! ### Trimming -/

/-- A gap will be filled with something visible. -/
def isBlank (piece : Option Char) : Bool := piece.any Text.isBlank

def trim (mold : Mold) : Mold := (mold.dropWhile isBlank).rdropWhile isBlank

theorem dropWhile_fill (hidentifier : IsFragment identifier) (mold : Mold) :
    (fill identifier mold).dropWhile Text.isBlank = fill identifier (mold.dropWhile isBlank) := by
  induction mold with
  | nil => rfl
  | cons piece rest ih =>
    cases piece with
    | none =>
      obtain ⟨c, tail, rfl⟩ := List.exists_cons_of_ne_nil hidentifier.ne_nil
      have hvisible : Text.isBlank c = false :=
        Text.isBlank_of_isIdentChar (hidentifier.chars c List.mem_cons_self)
      exact List.dropWhile_cons_of_neg (by simp [hvisible])
    | some c =>
      have hfill : fill identifier (some c :: rest) = c :: fill identifier rest := rfl
      cases hblank : Text.isBlank c with
      | true => rw [hfill, List.dropWhile_cons_of_pos hblank, ih,
          List.dropWhile_cons_of_pos (by exact hblank)]
      | false => rw [hfill, List.dropWhile_cons_of_neg (by simp [hblank]),
          List.dropWhile_cons_of_neg (by simp [isBlank, hblank]), hfill]

theorem reverse_fill (identifier : Identifier) (mold : Mold) :
    (fill identifier mold).reverse = fill identifier.reverse mold.reverse := by
  rw [fill, List.reverse_flatMap, fill]
  congr 1
  funext piece
  cases piece <;> rfl

theorem isFragment_reverse (hidentifier : IsFragment identifier) :
    IsFragment identifier.reverse where
  ne_nil := List.reverse_ne_nil_iff.mpr hidentifier.ne_nil
  chars c hc := hidentifier.chars c (List.mem_reverse.mp hc)

theorem trim_fill (hidentifier : IsFragment identifier) (mold : Mold) :
    Text.trim (fill identifier mold) = fill identifier mold.trim := by
  rw [Text.trim, Text.trimStart, dropWhile_fill hidentifier, Text.trimEnd, reverse_fill,
    dropWhile_fill (isFragment_reverse hidentifier), reverse_fill, List.reverse_reverse, trim,
    List.rdropWhile]

theorem mem_dropWhile (hgap : none ∈ mold) : none ∈ mold.dropWhile isBlank := by
  rw [← List.takeWhile_append_dropWhile (p := isBlank) (l := mold), List.mem_append] at hgap
  rcases hgap with htaken | hleft
  · exact absurd (List.mem_takeWhile_imp htaken) (by decide)
  · exact hleft

theorem mem_trim (hgap : none ∈ mold) : none ∈ mold.trim :=
  List.mem_reverse.mpr (mem_dropWhile (List.mem_reverse.mpr (mem_dropWhile hgap)))

/-! ### Splitting -/

/-- Cuts like a text, without taking notice of the gaps. -/
def cut (state : Selector.Scan) : Mold → List Mold
  | [] => [[]]
  | none :: rest => (cut state rest).modifyHead (none :: ·)
  | some c :: rest =>
    if state.isCut c then [] :: cut state rest
    else (cut (state.step c) rest).modifyHead (some c :: ·)

def split (mold : Mold) : List Mold :=
  ((mold.cut .start).map trim).filter fun part => !part.isEmpty

theorem map_modifyHead_cons (identifier : Identifier) (piece : Option Char) (parts : List Mold) :
    (parts.modifyHead (piece :: ·)).map (fill identifier) =
      (parts.map (fill identifier)).modifyHead (piece.elim identifier ([·]) ++ ·) := by
  cases parts <;> rfl

/-- An identifier neither cuts nor moves the scan. -/
theorem cut_fill (hidentifier : IsFragment identifier) (hproper : state.Proper) (mold : Mold) :
    Selector.cut state (fill identifier mold) = (mold.cut state).map (fill identifier) := by
  induction mold generalizing state with
  | nil => rfl
  | cons piece rest ih =>
    cases piece with
    | none =>
      have hfill : fill identifier (none :: rest) = identifier ++ fill identifier rest := rfl
      rw [hfill, Selector.cut_append (Selector.Scan.keepsOn_of_isIdentChar hidentifier.chars),
        Selector.Scan.run_of_isIdentChar hproper hidentifier.chars, ih hproper, cut,
        map_modifyHead_cons]
      rfl
    | some c =>
      have hfill : fill identifier (some c :: rest) = c :: fill identifier rest := rfl
      rw [hfill, Selector.cut_cons, cut]
      split
      · rw [ih hproper]
        rfl
      · rw [ih (hproper.step c), map_modifyHead_cons]
        rfl

theorem split_fill (hidentifier : IsFragment identifier) (mold : Mold) :
    Selector.split (fill identifier mold) = mold.split.map (fill identifier) := by
  have htrim : Text.trim ∘ fill identifier = fill identifier ∘ trim :=
    funext fun part => trim_fill hidentifier part
  have hempty : (fun part : Text => !part.isEmpty) ∘ fill identifier =
      fun part => !part.isEmpty := by
    funext part
    have hnil : fill identifier part = [] ↔ part = [] := fill_eq_nil_iff hidentifier
    rw [Function.comp_apply, Bool.eq_iff_iff, Bool.not_eq_true', Bool.not_eq_true',
      List.isEmpty_eq_false_iff, List.isEmpty_eq_false_iff, Ne, Ne, hnil]
  rw [Selector.split, cut_fill hidentifier Selector.Scan.proper_start, List.map_map, htrim,
    ← List.map_map, List.filter_map, hempty, split]

theorem cut_ne_nil (state : Selector.Scan) (mold : Mold) : mold.cut state ≠ [] := by
  induction mold generalizing state with
  | nil => exact List.cons_ne_nil _ _
  | cons piece rest ih =>
    cases piece with
    | none => exact fun hnil => ih state (List.modifyHead_eq_nil_iff.mp hnil)
    | some c =>
      rw [cut]
      split
      · exact List.cons_ne_nil _ _
      · exact fun hnil => ih (state.step c) (List.modifyHead_eq_nil_iff.mp hnil)

theorem mem_flatten_cut (state : Selector.Scan) (hgap : none ∈ mold) :
    none ∈ (mold.cut state).flatten := by
  induction mold generalizing state with
  | nil => exact absurd hgap List.not_mem_nil
  | cons piece rest ih =>
    have hhead (parts : List Mold) (piece : Option Char) (hparts : none ∈ parts.flatten) :
        none ∈ (parts.modifyHead (piece :: ·)).flatten := by
      cases parts with
      | nil => exact hparts
      | cons first others => exact List.mem_cons_of_mem _ hparts
    cases piece with
    | none =>
      obtain ⟨first, others, hcons⟩ := List.exists_cons_of_ne_nil (cut_ne_nil state rest)
      rw [cut, hcons]
      exact List.mem_cons_self
    | some c =>
      have hrest : none ∈ rest := by simpa using hgap
      rw [cut]
      split
      · exact ih state hrest
      · exact hhead _ _ (ih (state.step c) hrest)

/-- Some part keeps a gap. -/
theorem exists_mem_split (hgap : none ∈ mold) : ∃ part ∈ mold.split, none ∈ part := by
  obtain ⟨stretch, hstretch, hmem⟩ := List.mem_flatten.mp (mem_flatten_cut .start hgap)
  have htrimmed := mem_trim hmem
  have hsome : (!List.isEmpty (Mold.trim stretch)) = true := by
    simpa using List.ne_nil_of_mem htrimmed
  exact ⟨_, List.mem_filter.mpr ⟨List.mem_map_of_mem hstretch, hsome⟩, htrimmed⟩

/-! ### Nesting -/

def modify (root : Mold) (part : Text) : Mold :=
  if part.any (· = '&') then part.flatMap fun c => if c = '&' then root else [some c]
  else root ++ ofText part

def resolveModifier (current : Mold) (key : Text) : Mold :=
  join Selector.separator <| current.split.flatMap fun root =>
    (Selector.keyParts key).map (modify root)

def joinDescendant (current : Mold) (key : Text) : Mold :=
  join Selector.separator <| (Selector.keyParts key).flatMap fun part =>
    current.split.map fun root => root ++ ofText (' ' :: part)

theorem modify_fill (identifier : Identifier) (root : Mold) (part : Text) :
    Selector.modify (fill identifier root) part = fill identifier (root.modify part) := by
  rw [Selector.modify, modify]
  split
  · rw [Text.substitute, fill_flatMap]
    congr 1
    funext c
    split <;> rfl
  · rw [fill_append, fill_ofText]

theorem mem_modify (hgap : none ∈ root) (part : Text) : none ∈ root.modify part := by
  rw [modify]
  split
  · rename_i hmark
    obtain ⟨c, hc, hsame⟩ := List.any_eq_true.mp hmark
    refine List.mem_flatMap.mpr ⟨c, hc, ?_⟩
    rwa [if_pos (of_decide_eq_true hsame)]
  · exact List.mem_append_left _ hgap

theorem split_fill_ne_nil (hidentifier : IsFragment identifier) (hgap : none ∈ mold) :
    Selector.split (fill identifier mold) ≠ [] := by
  obtain ⟨part, hpart, -⟩ := exists_mem_split hgap
  rw [split_fill hidentifier]
  exact List.ne_nil_of_mem (List.mem_map_of_mem hpart)

theorem resolveModifier_fill (hidentifier : IsFragment identifier) (hgap : none ∈ mold)
    (key : Text) : Selector.resolveModifier (fill identifier mold) key =
      fill identifier (mold.resolveModifier key) := by
  have hroots : Selector.modifierRoots (fill identifier mold) =
      mold.split.map (fill identifier) := by
    rw [Selector.modifierRoots, if_neg (by simpa using split_fill_ne_nil hidentifier hgap),
      split_fill hidentifier]
  rw [Selector.resolveModifier, Selector.joinList, hroots, resolveModifier, fill_join,
    List.flatMap_map, List.map_flatMap]
  simp only [modify_fill, List.map_map, Function.comp_def]

theorem joinDescendant_fill (hidentifier : IsFragment identifier) (hgap : none ∈ mold)
    (key : Text) : Selector.joinDescendant (fill identifier mold) key =
      fill identifier (mold.joinDescendant key) := by
  have hdescend (part : Text) : Selector.descend (Selector.split (fill identifier mold)) part =
      (mold.split.map fun root => root ++ ofText (' ' :: part)).map (fill identifier) := by
    rw [Selector.descend, if_neg (by simpa using split_fill_ne_nil hidentifier hgap),
      split_fill hidentifier, List.map_map, List.map_map]
    simp only [Function.comp_def, fill_append, fill_ofText]
  rw [Selector.joinDescendant, Selector.joinList, joinDescendant, fill_join, List.map_flatMap]
  simp only [hdescend]

theorem mem_resolveModifier (hgap : none ∈ mold) (hkey : Selector.split key ≠ []) :
    none ∈ mold.resolveModifier key := by
  obtain ⟨root, hroot, hrootGap⟩ := exists_mem_split hgap
  obtain ⟨raw, hraw⟩ := List.exists_mem_of_ne_nil _ hkey
  have hmodified : root.modify raw.collapse ∈ (Selector.keyParts key).map (modify root) :=
    List.mem_map_of_mem (List.mem_map_of_mem hraw)
  exact mem_join (List.mem_flatMap.mpr ⟨root, hroot, hmodified⟩) (mem_modify hrootGap _)

theorem mem_joinDescendant (hgap : none ∈ mold) (hkey : Selector.split key ≠ []) :
    none ∈ mold.joinDescendant key := by
  obtain ⟨root, hroot, hrootGap⟩ := exists_mem_split hgap
  obtain ⟨raw, hraw⟩ := List.exists_mem_of_ne_nil _ hkey
  have hpart : raw.collapse ∈ Selector.keyParts key := List.mem_map_of_mem hraw
  refine mem_join (List.mem_flatMap.mpr ⟨_, hpart, List.mem_map_of_mem hroot⟩) ?_
  exact List.mem_append_left _ hrootGap

/-! ### What stands between the gaps -/

/-- The texts between the gaps, one more than there are gaps. -/
def constants : Mold → List Text
  | [] => [[]]
  | none :: rest => [] :: constants rest
  | some c :: rest => (constants rest).modifyHead (c :: ·)

theorem length_constants (mold : Mold) : mold.constants.length = mold.count none + 1 := by
  induction mold with
  | nil => rfl
  | cons piece rest ih =>
    cases piece with
    | none => rw [constants, List.length_cons, ih, List.count_cons_self]
    | some c => rw [constants, List.length_modifyHead, ih, List.count_cons_of_ne (Option.some_ne_none c)]

theorem constants_ne_nil (mold : Mold) : mold.constants ≠ [] := by
  apply List.ne_nil_of_length_pos
  rw [length_constants]
  omega

theorem join_constants (identifier : Identifier) (mold : Mold) :
    Text.join identifier mold.constants = fill identifier mold := by
  induction mold with
  | nil => rfl
  | cons piece rest ih =>
    obtain ⟨first, others, hcons⟩ := List.exists_cons_of_ne_nil (constants_ne_nil rest)
    rw [hcons, Text.join_cons] at ih
    cases piece with
    | none =>
      rw [constants, hcons, Text.join_cons, List.nil_append, List.flatMap_cons, List.append_assoc,
        ih]
      rfl
    | some c =>
      rw [constants, hcons, List.modifyHead_cons, Text.join_cons, List.cons_append, ih]
      rfl

/-! ### Telling identifiers apart -/

theorem length_fill (identifier : Identifier) (mold : Mold) :
    (fill identifier mold).length =
      mold.countP Option.isSome + mold.count none * identifier.length := by
  induction mold with
  | nil => simp [fill]
  | cons piece rest ih =>
    cases piece with
    | none =>
      have hlength : (fill identifier (none :: rest)).length =
          identifier.length + (fill identifier rest).length := List.length_append
      rw [hlength, ih, List.count_cons_self, List.countP_cons_of_neg (by decide), Nat.succ_mul]
      omega
    | some c =>
      have hlength : (fill identifier (some c :: rest)).length =
          (fill identifier rest).length + 1 := rfl
      rw [hlength, ih, List.count_cons_of_ne (Option.some_ne_none c), List.countP_cons_of_pos rfl]
      omega

theorem eq_of_fill_eq_of_length_eq (hlength : left.length = right.length) (hgap : none ∈ mold)
    (hfill : fill left mold = fill right mold) : left = right := by
  induction mold with
  | nil => exact absurd hgap List.not_mem_nil
  | cons piece rest ih =>
    cases piece with
    | none => exact (List.append_inj hfill hlength).1
    | some c => exact ih (by simpa using hgap) (List.cons.inj hfill).2

/-- From a mold with a gap the identifier can be told. -/
theorem eq_of_fill_eq (hgap : none ∈ mold) (hfill : fill left mold = fill right mold) :
    left = right := by
  refine eq_of_fill_eq_of_length_eq ?_ hgap hfill
  have hsame := congrArg List.length hfill
  rw [length_fill, length_fill, Nat.add_left_cancel_iff] at hsame
  exact Nat.eq_of_mul_eq_mul_left (List.count_pos_iff.mpr hgap) hsame

end Mold

end Stylesheet
