import Mathlib.Data.Multiset.Bind
import Stylesheet.Proofs.Selector.Nesting
import Stylesheet.Proofs.Text.Collapse

/-!
# Marks written out

The mark for the current selector may be written where it is meant anyway. A modifier part without one is the part with the mark in front, and a descendant part is a modifier part with the mark and a space in front. The two kinds of keys go through the combinations in different orders, a modifier root by root and a descendant part by part, so for descendants it is the same selectors and not the same list.
-/

namespace Stylesheet

namespace Selector

variable {current key part : Text}

/-- The key as a modifier, with the mark and a space in front of each part. -/
def asModifier (key : Text) : Text := joinList ((split key).map fun part => '&' :: ' ' :: part)

def markPart (part : Text) : Text := if '&' ∈ part then part else '&' :: part

/-- The modifier with the mark in front of each part that has none. -/
def markAll (pattern : Text) : Text := joinList ((split pattern).map markPart)

/-! ### Parts with a mark in front -/

theorem split_asModifier (key : Text) :
    split (asModifier key) = (split key).map fun part => '&' :: ' ' :: part := by
  refine split_join (List.all_eq_true.mp rfl) ((joinable_split key).map ?_ ?_ fun _ => rfl)
  · exact fun _ hkeeps => hkeeps
  · exact fun part htight => ⟨⟨'&', ' ' :: part, rfl, by decide⟩, (htight.ends.cons ' ').cons '&'⟩

theorem split_markAll (pattern : Text) : split (markAll pattern) = (split pattern).map markPart := by
  refine split_join (List.all_eq_true.mp rfl) ((joinable_split pattern).map ?_ ?_ ?_)
  · intro part hkeeps
    rw [markPart]
    split <;> exact hkeeps
  · intro part htight
    rw [markPart]
    split
    · exact htight
    · exact ⟨⟨'&', part, rfl, by decide⟩, htight.ends.cons '&'⟩
  · intro part
    rw [markPart]
    split <;> rfl

theorem modify_mark (hfree : '&' ∉ part) (root : Text) :
    modify root ('&' :: part) = root ++ part := by
  rw [modify, if_pos (by simp), Text.substitute, List.flatMap_cons, if_pos rfl]
  exact congrArg (root ++ ·) (substitute_of_notMem hfree root)

theorem modify_of_notMem (hfree : '&' ∉ part) (root : Text) : modify root part = root ++ part := by
  rw [modify, if_neg]
  simpa using hfree

theorem keyParts_asModifier (key : Text) :
    keyParts (asModifier key) = (keyParts key).map fun part => '&' :: ' ' :: part := by
  rw [keyParts, split_asModifier, keyParts, List.map_map, List.map_map]
  refine List.map_congr_left fun part hpart => ?_
  exact Text.collapse_cons_space (by decide) (tight_of_mem_split hpart).starts

theorem modify_markPart (htight : part.Tight) (root : Text) :
    modify root (markPart part).collapse = modify root part.collapse := by
  rw [markPart]
  split
  · rfl
  · rename_i hfree
    have hcollapsed : '&' ∉ part.collapse := fun hmem =>
      hfree (Text.mem_of_mem_collapse hmem (by decide))
    rw [Text.collapse_cons (by decide) htight.starts, modify_mark hcollapsed,
      modify_of_notMem hcollapsed]

/-! ### Both ways through the combinations -/

theorem modifyAll_asModifier (hfree : '&' ∉ key) (roots : List Text) :
    modifyAll roots (asModifier key) =
      roots.flatMap fun root => (keyParts key).map fun part => root ++ ' ' :: part := by
  have hmodified (root part : Text) (hpart : part ∈ keyParts key) :
      modify root ('&' :: ' ' :: part) = root ++ ' ' :: part := by
    obtain ⟨raw, hraw, rfl⟩ := List.mem_map.mp hpart
    refine modify_mark ?_ root
    intro hmem
    rcases List.mem_cons.mp hmem with hspace | hcollapsed
    · exact absurd hspace (by decide)
    · exact hfree (mem_of_mem_split hraw (Text.mem_of_mem_collapse hcollapsed (by decide)))
  rw [modifyAll, keyParts_asModifier]
  simp only [List.map_map]
  congr 1
  funext root
  exact List.map_congr_left fun part hpart => hmodified root part hpart

/-- Going through two lists in either order makes the same combinations. -/
theorem perm_flatMap_map {α β γ : Type} (lefts : List α) (rights : List β) (combine : α → β → γ) :
    (lefts.flatMap fun left => rights.map (combine left)).Perm
      (rights.flatMap fun right => lefts.map fun left => combine left right) := by
  have hswap : (lefts : Multiset α).bind (fun left => (rights : Multiset β).map (combine left)) =
      (rights : Multiset β).bind fun right => (lefts : Multiset α).map fun left =>
        combine left right := Multiset.bind_map_comm _ _
  simpa only [Multiset.map_coe, Multiset.coe_bind, Multiset.coe_eq_coe] using hswap

theorem resolveModifier_markAll (current pattern : Text) :
    resolveModifier current (markAll pattern) = resolveModifier current pattern := by
  have hparts (root : Text) : (keyParts (markAll pattern)).map (modify root) =
      (keyParts pattern).map (modify root) := by
    rw [keyParts, split_markAll, keyParts, List.map_map, List.map_map, List.map_map]
    exact List.map_congr_left fun part hpart => modify_markPart (tight_of_mem_split hpart) root
  rw [resolveModifier, resolveModifier]
  simp only [hparts]

/-- A descendant key makes the selectors that it makes as a modifier, with the mark and a space in front of each part; and nothing changes if the mark is put in front of the parts of a modifier that have none. -/
theorem agrees_writtenOut (hcurrent : WellBracketed current) (hsome : split current ≠ [])
    (hkey : WellBracketed key) (hfree : '&' ∉ key) :
    (split (joinDescendant current key)).Perm (split (resolveModifier current (asModifier key))) ∧
      ∀ pattern, resolveModifier current (markAll pattern) = resolveModifier current pattern := by
  refine ⟨?_, resolveModifier_markAll current⟩
  have hmarks : Scan.all Scan.marksOutside .start key = true := by
    refine Scan.all_of_forall_mem fun state c hc => ?_
    have hother : c ≠ '&' := fun hmark => hfree (hmark ▸ hc)
    simp [Scan.marksOutside, hother]
  have hiskey : IsKey key := ⟨hkey, hmarks⟩
  have hsame : (descendAll (split current) key).Perm
      (modifyAll (split current) (asModifier key)) := by
    rw [modifyAll_asModifier hfree]
    exact perm_flatMap_map _ _ fun part root => root ++ ' ' :: part
  -- As the same selectors, those of the modifier are parts, too.
  have hparts : ∀ part ∈ modifyAll (split current) (asModifier key), IsPart part := by
    intro part hpart
    exact isPart_of_mem_descendAll (fun _ => isPart_of_mem_split hcurrent) hiskey part
      (hsame.mem_iff.mpr hpart)
  rw [split_joinDescendant hcurrent hsome hiskey, resolveModifier_eq hsome, split_joinList hparts]
  exact hsame

/-- Commas in brackets and in quotes, blanks to collapse, and marks that the current list brings along. -/
theorem agrees_writtenOut_links :
    WellBracketed "a:is(b, c) , &".toList ∧ split "a:is(b, c) , &".toList ≠ [] ∧
      WellBracketed "li  > a , [title='x, y']".toList ∧ '&' ∉ "li  > a , [title='x, y']".toList ∧
      (split (joinDescendant "a:is(b, c) , &".toList "li  > a , [title='x, y']".toList)).Perm
        (split (resolveModifier "a:is(b, c) , &".toList
          (asModifier "li  > a , [title='x, y']".toList))) ∧
      resolveModifier "a:is(b, c) , &".toList (markAll ":hover, b  &".toList) =
        resolveModifier "a:is(b, c) , &".toList ":hover, b  &".toList ∧
      joinDescendant "a:is(b, c) , &".toList "li  > a , [title='x, y']".toList =
        "a:is(b, c) li > a, & li > a, a:is(b, c) [title='x, y'], & [title='x, y']".toList ∧
      asModifier "li  > a , [title='x, y']".toList = "& li  > a, & [title='x, y']".toList ∧
      markAll ":hover, b  &".toList = "&:hover, b  &".toList := by
  have hcurrent : WellBracketed "a:is(b, c) , &".toList := by decide +kernel
  have hsome : split "a:is(b, c) , &".toList ≠ [] := by decide +kernel
  have hkey : WellBracketed "li  > a , [title='x, y']".toList := by decide +kernel
  have hfree : '&' ∉ "li  > a , [title='x, y']".toList := by decide +kernel
  obtain ⟨hperm, hmarked⟩ := agrees_writtenOut hcurrent hsome hkey hfree
  exact ⟨hcurrent, hsome, hkey, hfree, hperm, hmarked _, by decide +kernel, by decide +kernel,
    by decide +kernel⟩

end Selector

end Stylesheet
