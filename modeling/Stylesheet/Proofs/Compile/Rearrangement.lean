import Mathlib.Logic.Relation
import Stylesheet.Proofs.Compile.Entries

/-!
# What may be left out and moved

A description may be put down in more than one way. An entry that contributes nothing can be left out, and an entry without a nested description can stand before or behind one with it, here and at any depth. What it compiles to under a list is the same, rules, text, count and all.

One such change keeps the declarations of the description and the rules of what is nested in it under every list, and that is all the description is compiled from. Under every list, because a body that is changed deep inside is reached under a list of its own.
-/

namespace Stylesheet

theorem Value.textsOfItems_append (property : Text) (before after : List Value) :
    textsOfItems property (before ++ after) =
      textsOfItems property before ++ textsOfItems property after := by
  induction before with
  | nil => rfl
  | cons item rest ih =>
    rw [List.cons_append, textsOfItems, textsOfItems, ih, List.append_assoc]

namespace Compile

variable {key : Text} {value : Value} {body : Description}

/-! ### Entries that contribute -/

/-- Whether a description compiles to any rules, under whatever list. -/
def Yields (description : Description) : Prop := ∀ selector, rules selector description ≠ []

theorem yields_iff (selector : Text) : Yields body ↔ rules selector body ≠ [] := by
  refine ⟨fun hyields => hyields selector, fun hsome other hnone => hsome ?_⟩
  exact (alike_rules other selector body).eq_nil_iff.mp hnone

/-- Whether an entry leaves anything in the rules. -/
def Contributes : Entry → Prop
  | .declaration property value => Declaration.normalize property value ≠ []
  | .modifier _ body | .atRule _ body => Yields body
  | .descendant key body => Selector.split key ≠ [] ∧ Yields body
  | .ignored _ _ => False

instance : Decidable (Yields body) := decidable_of_iff' _ (yields_iff [])

instance : DecidablePred Contributes
  | .declaration property value =>
    inferInstanceAs (Decidable (Declaration.normalize property value ≠ []))
  | .modifier _ body | .atRule _ body => inferInstanceAs (Decidable (Yields body))
  | .descendant key body => inferInstanceAs (Decidable (Selector.split key ≠ [] ∧ Yields body))
  | .ignored _ _ => inferInstanceAs (Decidable False)

theorem contributes_nested_iff (selector : Text) :
    Contributes (Entry.classify key (.nested body)) ↔
      rulesUnder selector key (.nested body) ≠ [] := by
  have hyields : Contributes (Entry.classify key (.nested body)) ↔
      ¬(KeyKind.of key = .plain ∧ Selector.split key = []) ∧ Yields body := by
    unfold Entry.classify
    cases KeyKind.of key <;> simp [Contributes]
  rw [hyields, ← below?_eq_none_iff selector, rulesUnder_nested]
  cases below? selector key with
  | none => simp
  | some inner => simp [guarded_eq_nil_iff, yields_iff inner]

/-- An entry contributes just if it has declarations or, under whatever list, rules. -/
theorem contributes_iff (selector : Text) : Contributes (Entry.classify key value) ↔
    entryDeclarations (Entry.classify key value) ≠ [] ∨ rulesUnder selector key value ≠ [] := by
  cases hvalue : value.nested? with
  | none =>
    rw [rulesUnder_of_not_nested hvalue, classify_of_not_nested hvalue]
    cases KeyKind.of key <;> simp [Contributes, entryDeclarations]
  | some body =>
    cases value with
    | nested body =>
      rw [contributes_nested_iff selector, entryDeclarations_nested]
      simp
    | _ => exact absurd hvalue.symm (Option.some_ne_none _)

/-! ### One change -/

mutual

/-- One change of a description: an entry is left out that contributes nothing, an entry without a nested description is moved past one with it, either way, or the value of an entry is changed in its place. -/
inductive Adjusts : Description → Description → Prop
  | leaveOut (before after : Description) {key : Text} {value : Value}
    (hsilent : ¬Contributes (Entry.classify key value)) :
    Adjusts (before ++ (key, value) :: after) (before ++ after)
  | later (before after : Description) (key other : Text) {value : Value} (body : Description)
    (hvalue : value.nested? = none) :
    Adjusts (before ++ (key, value) :: (other, .nested body) :: after)
      (before ++ (other, .nested body) :: (key, value) :: after)
  | sooner (before after : Description) (key other : Text) {value : Value} (body : Description)
    (hvalue : value.nested? = none) :
    Adjusts (before ++ (other, .nested body) :: (key, value) :: after)
      (before ++ (key, value) :: (other, .nested body) :: after)
  | within (before after : Description) (key : Text) {value other : Value}
    (hinside : AdjustsInside value other) :
    Adjusts (before ++ (key, value) :: after) (before ++ (key, other) :: after)

/-- One change of a description somewhere inside a value. -/
inductive AdjustsInside : Value → Value → Prop
  | nested {body other : Description} (hbody : Adjusts body other) :
    AdjustsInside (.nested body) (.nested other)
  | item (before after : List Value) {value other : Value} (hinside : AdjustsInside value other) :
    AdjustsInside (.list (before ++ value :: after)) (.list (before ++ other :: after))

end

/-- What a description is compiled from is the same for two of them. -/
structure Interchangeable (left right : Description) : Prop where
  own : ownDeclarations left = ownDeclarations right
  nested : ∀ selector, nestedRules selector left = nestedRules selector right

namespace Interchangeable

variable {left middle right : Description}

theorem refl (description : Description) : Interchangeable description description :=
  ⟨rfl, fun _ => rfl⟩

theorem symm (hsame : Interchangeable left right) : Interchangeable right left :=
  ⟨hsame.own.symm, fun selector => (hsame.nested selector).symm⟩

theorem trans (hfirst : Interchangeable left middle) (hsecond : Interchangeable middle right) :
    Interchangeable left right :=
  ⟨hfirst.own.trans hsecond.own, fun selector =>
    (hfirst.nested selector).trans (hsecond.nested selector)⟩

theorem rules_eq (hsame : Interchangeable left right) (selector : Text) :
    rules selector left = rules selector right := by
  rw [rules, rules, ownRule, ownRule, hsame.own, hsame.nested selector]

theorem style_eq (hsame : Interchangeable left right) (mode : RenderMode) (selector : Text) :
    style mode selector left = style mode selector right := by
  rw [style, style, hsame.rules_eq selector, hsame.nested selector]

/-- It is enough to look at the entries that differ. -/
theorem around (hsame : Interchangeable left right) (before after : Description) :
    Interchangeable (before ++ (left ++ after)) (before ++ (right ++ after)) := by
  constructor
  · simp only [ownDeclarations_append, hsame.own]
  · intro selector
    simp only [nestedRules_append, hsame.nested selector]

end Interchangeable

variable {left right : Description}

/-- Nothing is compiled from an entry that does not contribute, so nothing is missed without it. -/
theorem interchangeable_leaveOut (hsilent : ¬Contributes (Entry.classify key value)) :
    Interchangeable [(key, value)] [] := by
  have hnone (selector : Text) : entryDeclarations (Entry.classify key value) = [] ∧
      rulesUnder selector key value = [] := by
    rw [contributes_iff selector, not_or, not_not, not_not] at hsilent
    exact hsilent
  constructor
  · rw [ownDeclarations_cons, (hnone []).1]
    rfl
  · intro selector
    simp only [nestedRules, (hnone selector).2, List.append_nil]

/-- The one entry only has declarations and the other only rules. -/
theorem interchangeable_swap (hvalue : value.nested? = none) (other : Text) (body : Description) :
    Interchangeable [(key, value), (other, .nested body)]
      [(other, .nested body), (key, value)] := by
  constructor
  · simp only [ownDeclarations_cons, entryDeclarations_nested, List.nil_append]
  · intro selector
    simp only [nestedRules, rulesUnder_of_not_nested hvalue, List.nil_append, List.append_nil]

theorem Interchangeable.nest (hsame : Interchangeable left right) (key : Text) :
    Interchangeable [(key, .nested left)] [(key, .nested right)] := by
  constructor
  · simp only [ownDeclarations_cons, entryDeclarations_nested]
  · intro selector
    simp only [nestedRules, rulesUnder_nested, hsame.rules_eq]

/-- A description in a list is misplaced, and no text comes of it before or after the change. -/
theorem AdjustsInside.texts_eq {value other : Value} (hinside : AdjustsInside value other)
    (property : Text) : value.texts property = other.texts property := by
  match hinside with
  | .nested _ => rfl
  | .item before after hitem =>
    rw [Value.texts, Value.texts, Value.textsOfItems_append, Value.textsOfItems_append,
      Value.textsOfItems, Value.textsOfItems, hitem.texts_eq property]

theorem interchangeable_of_texts_eq {items others : List Value}
    (htexts : ∀ property, (Value.list items).texts property = (Value.list others).texts property) :
    Interchangeable [(key, .list items)] [(key, .list others)] := by
  constructor
  · rw [ownDeclarations_cons, ownDeclarations_cons, entryDeclarations_classify,
      entryDeclarations_classify, Declaration.normalize, Declaration.normalize, htexts]
  · exact fun _ => rfl

mutual

theorem Adjusts.interchangeable : ∀ {left right : Description}, Adjusts left right →
    Interchangeable left right
  | _, _, .leaveOut before after hsilent => (interchangeable_leaveOut hsilent).around before after
  | _, _, .later before after _ other body hvalue =>
    (interchangeable_swap hvalue other body).around before after
  | _, _, .sooner before after _ other body hvalue =>
    (interchangeable_swap hvalue other body).symm.around before after
  | _, _, .within before after key hinside => (hinside.interchangeable key).around before after

theorem AdjustsInside.interchangeable : ∀ {value other : Value}, AdjustsInside value other →
    ∀ key : Text, Interchangeable [(key, value)] [(key, other)]
  | _, _, .nested hbody, key => hbody.interchangeable.nest key
  | _, _, .item before after hitem, _ =>
    interchangeable_of_texts_eq (AdjustsInside.item before after hitem).texts_eq

end

theorem Interchangeable.of_adjusts (hadjusts : Relation.ReflTransGen Adjusts left right) :
    Interchangeable left right := by
  induction hadjusts with
  | refl => exact .refl left
  | tail _ hlast ih => exact ih.trans hlast.interchangeable

/-- Entries that contribute nothing are left out and entries without a nested description are moved past those with one, at any depth and any number of times, and it still compiles to the same. -/
theorem style_of_adjusts (mode : RenderMode) (root : Text)
    (hadjusts : Relation.ReflTransGen Adjusts left right) :
    style mode root left = style mode root right :=
  (Interchangeable.of_adjusts hadjusts).style_eq mode root

def untidy : Description :=
  [("&:hover".toList, .nested [("@media print".toList, .nested []),
      ("opacity".toList, .text "0.5".toList),
      ("color".toList, .list [.text "".toList, .number ⟨0x7ff0000000000000⟩])]),
    (" , ".toList, .nested [("color".toList, .text "red".toList)]),
    ("padding".toList, .text "0".toList)]

def tidy : Description :=
  [("padding".toList, .text "0".toList),
    ("&:hover".toList, .nested [("opacity".toList, .text "0.5".toList)])]

theorem style_untidy :
    Relation.ReflTransGen Adjusts untidy tidy ∧
      style .pretty ".x".toList untidy = style .pretty ".x".toList tidy ∧
      (style .pretty ".x".toList untidy).text =
        ".x \x7b padding: 0; \x7d\n.x:hover \x7b opacity: 0.5; \x7d".toList := by
  have hchain : Relation.ReflTransGen Adjusts untidy tidy := by
    refine .head (.within [] _ _ (.nested (.leaveOut [] _ (by decide +kernel)))) ?_
    refine .head (.within [] _ _ (.nested (.leaveOut [_] [] (by decide +kernel)))) ?_
    refine .head (.leaveOut [_] _ (by decide +kernel)) ?_
    exact .single (.sooner [] [] _ _ _ rfl)
  exact ⟨hchain, style_of_adjusts .pretty ".x".toList hchain, by decide +kernel⟩

end Compile

end Stylesheet
