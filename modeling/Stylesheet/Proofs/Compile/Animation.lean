import Mathlib.Data.List.Forall2
import Stylesheet.Compile.Keyframes
import Stylesheet.Proofs.Compile.WellFormed

/-!
# Animations

A stop and a description come to the same declarations: those that a description shows at the top when all but its plain entries is taken away, whatever selector it is compiled against. A stop is kept if it has such declarations and a label with a part in it, and its label is split into the parts that were there before, collapsed. What is left of an animation is one rule with the kept stops in their order, or nothing at all.
-/

namespace Stylesheet

namespace Description

/-- The entries that are properties, without any nested description. -/
def plainEntries (description : Description) : Description :=
  description.filter fun (key, value) => KeyKind.of key = .plain ∧ value.nested?.isNone

theorem plainDeclarations_plainEntries (description : Description) :
    description.plainEntries.plainDeclarations = description.plainDeclarations := by
  induction description with
  | nil => rfl
  | cons entry rest ih =>
    obtain ⟨key, value⟩ := entry
    by_cases hplain : KeyKind.of key = .plain ∧ value.nested?.isNone
    · have hfilter : plainEntries ((key, value) :: rest) = (key, value) :: plainEntries rest :=
        List.filter_cons_of_pos (decide_eq_true hplain)
      rw [hfilter]
      exact congrArg (_ ++ ·) ih
    · have hfilter : plainEntries ((key, value) :: rest) = plainEntries rest :=
        List.filter_cons_of_neg (by simpa using hplain)
      have hentry : plainDeclarations ((key, value) :: rest) = [] ++ plainDeclarations rest :=
        congrArg (· ++ plainDeclarations rest) (if_neg hplain)
      rw [hfilter, hentry, ih, List.nil_append]

end Description

namespace Stops

/-- The stops with a label and with declarations of their own. -/
def kept (stops : Stops) : Stops :=
  stops.filter fun (label, body) => Selector.split label ≠ [] ∧ body.plainDeclarations ≠ []

end Stops

namespace Compile

/-! ### Plain entries -/

theorem nestedRules_of_not_nested (root : Text) {description : Description}
    (hplain : ∀ entry ∈ description, entry.2.nested? = none) :
    nestedRules root description = [] := by
  induction description with
  | nil => rfl
  | cons entry rest ih =>
    obtain ⟨hentry, hrest⟩ := List.forall_mem_cons.mp hplain
    rw [nestedRules, rulesUnder_of_not_nested hentry, ih hrest, List.append_nil]

theorem rules_plainEntries (root : Text) (body : Description) :
    rules root body.plainEntries = ownRule root body := by
  have hplain : ∀ entry ∈ body.plainEntries, entry.2.nested? = none := fun entry hentry =>
    Option.isNone_iff_eq_none.mp (of_decide_eq_true (List.mem_filter.mp hentry).2).2
  rw [rules, nestedRules_of_not_nested root hplain, List.append_nil, ownRule, ownRule,
    ← Description.plainDeclarations_eq, ← Description.plainDeclarations_eq,
    Description.plainDeclarations_plainEntries]

/-! ### Stops -/

/-- What a label and a body come to. -/
structure IsStopOf (source : Text × Description) (stop : Stop) : Prop where
  split_label : Selector.split stop.label = (Selector.split source.1).map Text.collapse
  rules_eq : ∀ mode root,
    (style mode root source.2.plainEntries).rules = [.style root stop.declarations]

theorem split_stopLabel (label : Text) :
    Selector.split (stopLabel label) = Selector.keyParts label :=
  Selector.split_join (List.all_eq_true.mp rfl) (Selector.joinable_keyParts label)

theorem stopLabel_eq_nil_iff (label : Text) : stopLabel label = [] ↔ Selector.split label = [] := by
  refine ⟨fun hnone => ?_, fun hnone => ?_⟩
  · have hparts := split_stopLabel label
    rw [hnone] at hparts
    exact List.map_eq_nil_iff.mp hparts.symm
  · rw [stopLabel, Selector.keyParts, hnone]
    rfl

theorem stop?_eq (label : Text) (body : Description) : stop? label body =
    if Selector.split label ≠ [] ∧ body.plainDeclarations ≠ [] then
      some ⟨stopLabel label, body.plainDeclarations⟩
    else none := by
  simp only [stop?, ← Description.plainDeclarations_eq, Bool.or_eq_true, List.isEmpty_iff,
    stopLabel_eq_nil_iff, ne_eq, ← not_or, ite_not]

theorem keptStops_eq (stops : Stops) : keptStops stops =
    stops.kept.map fun source => ⟨stopLabel source.1, source.2.plainDeclarations⟩ := by
  rw [keptStops, Stops.kept, ← List.filterMap_eq_map', List.filterMap_filter]
  refine List.filterMap_congr fun source _ => ?_
  simp only [stop?_eq, decide_eq_true_eq]

theorem isStopOf_of_mem_kept {stops : Stops} {label : Text} {body : Description}
    (hkept : (label, body) ∈ stops.kept) :
    IsStopOf (label, body) ⟨stopLabel label, body.plainDeclarations⟩ where
  split_label := split_stopLabel label
  rules_eq mode root := by
    have hsome : body.plainDeclarations ≠ [] := (of_decide_eq_true (List.mem_filter.mp hkept).2).2
    show rules root body.plainEntries = _
    rw [rules_plainEntries, ownRule, ← Description.plainDeclarations_eq,
      if_neg (hsome ∘ List.isEmpty_iff.mp)]

/-- Nothing comes of an animation, or one rule with a stop for each that is kept: the label with its parts collapsed, and the declarations of the one block that the body comes to as a description. -/
theorem keyframes_agrees (mode : RenderMode) (name : Text) (stops : Stops) :
    (stops.kept = [] ∧ keyframes mode name stops = ⟨[], [], 0, false⟩) ∨
      (stops.kept ≠ [] ∧ (keyframes mode name stops).text ≠ [] ∧
        ∃ out, (keyframes mode name stops).rules = [.keyframes name out] ∧
          List.Forall₂ IsStopOf stops.kept out ∧
          (keyframes mode name stops).count =
            (out.map fun stop => stop.declarations.length).sum) := by
  rw [keyframes, keyframesRules]
  by_cases hkept : stops.kept = []
  · refine .inl ⟨hkept, ?_⟩
    rw [keptStops_eq, hkept]
    rfl
  · have hsome : keptStops stops ≠ [] := by
      rw [keptStops_eq]
      exact hkept ∘ List.map_eq_nil_iff.mp
    rw [if_neg (hsome ∘ List.isEmpty_iff.mp)]
    refine .inr ⟨hkept, ?_, keptStops stops, rfl, ?_, ?_⟩
    · exact (Rule.render_eq_nil_iff mode).not.mpr (List.cons_ne_nil _ _)
    · rw [keptStops_eq, List.forall₂_map_right_iff, List.forall₂_same]
      exact fun _ => isStopOf_of_mem_kept
    · show Rule.countAll [.keyframes name (keptStops stops)] = _
      rw [Rule.countAll, Rule.count, Rule.countAll, Nat.add_zero, List.length_flatMap]

end Compile

end Stylesheet
