import Stylesheet.Proofs.Selector.Split
import Stylesheet.Style.Entry

/-!
# Nesting selector lists

Nesting works on lists as texts: the current list and the key are split, combined and joined again, and the next level splits the outcome once more. `nest` says on parts what is meant. The two agree because a part combined with a part is a part, wherever a mark stands that the current part takes the place of.
-/

namespace Stylesheet

namespace Selector

variable {c : Char} {key current root part text : Text} {roots : List Text}

/-- The parts of a list nested under a key; an at-rule leaves them as they are. -/
def nest (roots : List Text) (key : Text) : List Text :=
  match KeyKind.of key with
  | .atRule => roots
  | .modifier => roots.flatMap fun root => (keyParts key).map fun part => modify root part
  | .plain => (keyParts key).flatMap fun part => roots.map fun root => root ++ ' ' :: part

/-- A well-bracketed key with its marks outside quotes. -/
structure IsKey (key : Text) : Prop extends WellBracketed key where
  marks : Scan.all Scan.marksOutside .start key = true

instance (key : Text) : Decidable (IsKey key) :=
  decidable_of_iff (WellBracketed key ∧ Scan.all Scan.marksOutside .start key = true)
    ⟨fun hboth => ⟨hboth.1, hboth.2⟩, fun hkey => ⟨hkey.toWellBracketed, hkey.marks⟩⟩

/-! ### Combining parts -/

theorem substitute_of_notMem {mark : Char} (hmark : mark ∉ text) (replacement : Text) :
    Text.substitute mark replacement text = text := by
  induction text with
  | nil => rfl
  | cons c rest ih =>
    rw [List.mem_cons, not_or] at hmark
    rw [Text.substitute, List.flatMap_cons, if_neg (Ne.symm hmark.1)]
    exact congrArg (c :: ·) (ih hmark.2)

theorem tight_substitute (mark : Char) (hroot : root.Tight) (htext : text.Tight) :
    (Text.substitute mark root text).Tight := by
  refine htext.flatMap fun c hvisible => ?_
  split
  · exact hroot
  · exact Text.IsWord.tight ⟨List.cons_ne_nil c [], List.forall_mem_singleton.mpr hvisible⟩

theorem IsPart.append (hroot : IsPart root) (hpart : IsPart part) : IsPart (root ++ part) where
  closes := by
    rw [Scan.all_append, hroot.closes, hroot.ends, hpart.closes]
    rfl
  ends := by rw [Scan.run_append, hroot.ends, hpart.ends]
  keeps := by
    rw [Scan.all_append, hroot.keeps, hroot.ends, hpart.keeps]
    rfl
  tight := hroot.tight.append hpart.tight

theorem IsPart.append_space (hroot : IsPart root) (hpart : IsPart part) :
    IsPart (root ++ ' ' :: part) := by
  have hstep : Scan.start.step ' ' = .start := rfl
  refine ⟨⟨?_, ?_⟩, ?_, ?_⟩
  · rw [Scan.all_append, hroot.closes, hroot.ends, Scan.all, hstep, hpart.closes]
    rfl
  · rw [Scan.run_append, hroot.ends]
    exact hpart.ends
  · rw [Scan.all_append, hroot.keeps, hroot.ends, Scan.all, hstep, hpart.keeps]
    rfl
  · exact ⟨hroot.tight.starts.append, (hpart.tight.ends.cons ' ').append⟩

theorem IsPart.modify (hroot : IsPart root) (hpart : IsPart part)
    (hmarks : Scan.all Scan.marksOutside .start part = true) : IsPart (modify root part) := by
  rw [Selector.modify]
  split
  · exact
      { closes := Scan.all_substitute hroot.closes hroot.ends Scan.closesOpen_lift hroot.closes
          hmarks hpart.closes
        ends := (Scan.run_substitute hroot.closes hroot.ends hmarks).trans hpart.ends
        keeps := Scan.all_substitute hroot.closes hroot.ends Scan.keepsOn_lift hroot.keeps
          hmarks hpart.keeps
        tight := tight_substitute '&' hroot.tight hpart.tight }
  · exact hroot.append hpart

/-- Every part of a key applied to every root, root by root. -/
def modifyAll (roots : List Text) (key : Text) : List Text :=
  roots.flatMap fun root => (keyParts key).map fun part => modify root part

/-- Every part of a key under every root, part by part. -/
def descendAll (roots : List Text) (key : Text) : List Text :=
  (keyParts key).flatMap fun part => roots.map fun root => root ++ ' ' :: part

theorem isPart_of_mem_modifyAll (hroots : ∀ root ∈ roots, IsPart root) (hkey : IsKey key) :
    ∀ part ∈ modifyAll roots key, IsPart part := by
  intro nested hnested
  obtain ⟨root, hroot, hmodified⟩ := List.mem_flatMap.mp hnested
  obtain ⟨part, hpart, rfl⟩ := List.mem_map.mp hmodified
  obtain ⟨hispart, hmarks⟩ := isPart_of_mem_keyParts hkey.toWellBracketed hkey.marks hpart
  exact (hroots root hroot).modify hispart hmarks

theorem isPart_of_mem_descendAll (hroots : ∀ root ∈ roots, IsPart root) (hkey : IsKey key) :
    ∀ part ∈ descendAll roots key, IsPart part := by
  intro nested hnested
  obtain ⟨part, hpart, hdescended⟩ := List.mem_flatMap.mp hnested
  obtain ⟨root, hroot, rfl⟩ := List.mem_map.mp hdescended
  obtain ⟨hispart, _⟩ := isPart_of_mem_keyParts hkey.toWellBracketed hkey.marks hpart
  exact (hroots root hroot).append_space hispart

/-! ### Lists with selectors in them -/

theorem resolveModifier_eq (hcurrent : split current ≠ []) (key : Text) :
    resolveModifier current key = joinList (modifyAll (split current) key) := by
  rw [resolveModifier, modifierRoots, if_neg (hcurrent ∘ List.isEmpty_iff.mp)]
  rfl

theorem joinDescendant_eq (hcurrent : split current ≠ []) (key : Text) :
    joinDescendant current key = joinList (descendAll (split current) key) := by
  have hdescend (part : Text) : descend (split current) part =
      (split current).map fun root => root ++ ' ' :: part := by
    rw [descend, if_neg (hcurrent ∘ List.isEmpty_iff.mp)]
  rw [joinDescendant]
  simp only [hdescend]
  rfl

theorem split_joinDescendant (hcurrent : WellBracketed current) (hsome : split current ≠ [])
    (hkey : IsKey key) :
    split (joinDescendant current key) = descendAll (split current) key := by
  rw [joinDescendant_eq hsome]
  exact split_joinList (isPart_of_mem_descendAll (fun _ => isPart_of_mem_split hcurrent) hkey)

/-! ### Keys with parts -/

/-- A modifier has a part: what makes it one is neither blank nor a comma. -/
theorem split_ne_nil_of_modifier (hkind : KeyKind.of key = .modifier) : split key ≠ [] := by
  have hmodifier : isModifierKey key = true := by
    rw [KeyKind.of] at hkind
    split at hkind
    · exact absurd hkind (by decide)
    · split at hkind
      · assumption
      · exact absurd hkind (by decide)
  have hmem {c : Char} (hhead : key.trimStart.head? = some c) : c ∈ key :=
    (List.dropWhile_suffix _).subset (List.mem_of_head? hhead)
  rw [isModifierKey, Bool.or_eq_true, Bool.or_eq_true, decide_eq_true_eq, decide_eq_true_eq,
    List.any_eq_true] at hmodifier
  rcases hmodifier with (hcolon | hbracket) | ⟨c, hc, hmark⟩
  · exact split_ne_nil (hmem hcolon) (by decide) (by decide)
  · exact split_ne_nil (hmem hbracket) (by decide) (by decide)
  · obtain rfl := of_decide_eq_true hmark
    exact split_ne_nil hc (by decide) (by decide)

theorem nest_ne_nil (hroots : roots ≠ []) (hkey : split key ≠ []) : nest roots key ≠ [] := by
  obtain ⟨root, hroot⟩ := List.exists_mem_of_ne_nil roots hroots
  obtain ⟨raw, hraw⟩ := List.exists_mem_of_ne_nil (split key) hkey
  have hpart : raw.collapse ∈ keyParts key := List.mem_map_of_mem hraw
  rw [nest]
  split
  · exact hroots
  · exact List.ne_nil_of_mem (List.mem_flatMap.mpr ⟨root, hroot, List.mem_map_of_mem hpart⟩)
  · exact List.ne_nil_of_mem (List.mem_flatMap.mpr ⟨_, hpart, List.mem_map_of_mem hroot⟩)

/-! ### Lists that keep a selector -/

theorem mem_joinList {parts : List Text} (hpart : part ∈ parts) (hc : c ∈ part) :
    c ∈ joinList parts := by
  cases parts with
  | nil => exact absurd hpart List.not_mem_nil
  | cons first rest =>
    rw [joinList, Text.join_cons, List.mem_append, List.mem_flatMap]
    rcases List.mem_cons.mp hpart with rfl | hrest
    · exact .inl hc
    · exact .inr ⟨part, hrest, List.mem_append_right _ hc⟩

/-- The mark is what the root takes the place of, and without a mark the root goes in front. -/
theorem mem_modify (hc : c ∈ root) (part : Text) : c ∈ modify root part := by
  rw [modify]
  split
  · rename_i hmark
    obtain ⟨mark, hmem, hsame⟩ := List.any_eq_true.mp hmark
    refine List.mem_flatMap.mpr ⟨mark, hmem, ?_⟩
    rwa [if_pos (of_decide_eq_true hsame)]
  · exact List.mem_append_left _ hc

theorem split_resolveModifier_ne_nil (hcurrent : split current ≠ []) (hkey : split key ≠ []) :
    split (resolveModifier current key) ≠ [] := by
  obtain ⟨root, hroot⟩ := List.exists_mem_of_ne_nil _ hcurrent
  obtain ⟨raw, hraw⟩ := List.exists_mem_of_ne_nil _ hkey
  obtain ⟨c, hc, hsolid⟩ := exists_isSolid_of_mem_split hroot
  have hmodified : modify root raw.collapse ∈ modifyAll (split current) key :=
    List.mem_flatMap.mpr ⟨root, hroot, List.mem_map_of_mem (List.mem_map_of_mem hraw)⟩
  rw [resolveModifier_eq hcurrent]
  exact split_ne_nil (mem_joinList hmodified (mem_modify hc _)) hsolid.1 hsolid.2

theorem split_joinDescendant_ne_nil (hcurrent : split current ≠ []) (hkey : split key ≠ []) :
    split (joinDescendant current key) ≠ [] := by
  obtain ⟨root, hroot⟩ := List.exists_mem_of_ne_nil _ hcurrent
  obtain ⟨raw, hraw⟩ := List.exists_mem_of_ne_nil _ hkey
  obtain ⟨c, hc, hsolid⟩ := exists_isSolid_of_mem_split hroot
  have hdescended : root ++ ' ' :: raw.collapse ∈ descendAll (split current) key :=
    List.mem_flatMap.mpr ⟨raw.collapse, List.mem_map_of_mem hraw, List.mem_map_of_mem hroot⟩
  rw [joinDescendant_eq hcurrent]
  exact split_ne_nil (mem_joinList hdescended (List.mem_append_left _ hc)) hsolid.1 hsolid.2

/-! ### Lists as texts -/

/-- A list is split into these parts, and there are some. -/
structure Denotes (list : Text) (parts : List Text) : Prop where
  split_eq : split list = parts
  isPart : ∀ part ∈ parts, IsPart part
  parts_ne_nil : parts ≠ []

theorem denotes_split (hroot : WellBracketed root) (hne : split root ≠ []) :
    Denotes root (split root) :=
  ⟨rfl, fun _ hpart => isPart_of_mem_split hroot hpart, hne⟩

theorem Denotes.joinList {parts : List Text} (hparts : ∀ part ∈ parts, IsPart part)
    (hne : parts ≠ []) : Denotes (joinList parts) parts :=
  ⟨split_joinList hparts, hparts, hne⟩

theorem Denotes.split_ne_nil (hcurrent : Denotes current roots) : split current ≠ [] :=
  hcurrent.split_eq ▸ hcurrent.parts_ne_nil

theorem Denotes.resolveModifier (hcurrent : Denotes current roots) (hkey : IsKey key)
    (hkind : KeyKind.of key = .modifier) :
    Denotes (resolveModifier current key) (nest roots key) := by
  have hnest : nest roots key = modifyAll roots key := by
    rw [nest, hkind]
    rfl
  have hsome := nest_ne_nil hcurrent.parts_ne_nil (split_ne_nil_of_modifier hkind)
  rw [resolveModifier_eq hcurrent.split_ne_nil, hcurrent.split_eq]
  rw [hnest] at hsome ⊢
  exact .joinList (isPart_of_mem_modifyAll hcurrent.isPart hkey) hsome

theorem Denotes.joinDescendant (hcurrent : Denotes current roots) (hkey : IsKey key)
    (hkind : KeyKind.of key = .plain) (hparts : split key ≠ []) :
    Denotes (joinDescendant current key) (nest roots key) := by
  have hnest : nest roots key = descendAll roots key := by
    rw [nest, hkind]
    rfl
  have hsome := nest_ne_nil hcurrent.parts_ne_nil hparts
  rw [joinDescendant_eq hcurrent.split_ne_nil, hcurrent.split_eq]
  rw [hnest] at hsome ⊢
  exact .joinList (isPart_of_mem_descendAll hcurrent.isPart hkey) hsome

theorem Denotes.ne_nil {list : Text} {parts : List Text} (hdenotes : Denotes list parts) :
    list ≠ [] := by
  rintro rfl
  exact hdenotes.parts_ne_nil hdenotes.split_eq.symm

/-- Nothing comes of a descendant key without parts. -/
theorem joinDescendant_of_split_eq_nil (current : Text) (hparts : split key = []) :
    joinDescendant current key = [] := by
  rw [Selector.joinDescendant, keyParts, hparts]
  rfl

end Selector

end Stylesheet
