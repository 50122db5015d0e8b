import Stylesheet.Proofs.Compile.Entries

/-!
# Compiling in one walk

The rules can also be gathered in a single walk through a description. The walk collects declarations and rules entry by entry and leaves a mark, one for the whole walk, as soon as anything nested was written: at an at-rule that wraps something, and at every nested description that makes the list of rules longer.

The mark may be left at any depth, but nothing is written deep inside without making every list around it longer. So at the end the mark says no more than that some rule comes from a nested description.
-/

namespace Stylesheet

namespace Compile

/-- What a walk has gathered of one description, and the mark. -/
structure Walk where
  declarations : List Declaration
  nested : List Rule
  marked : Bool

namespace Walk

def start (marked : Bool) : Walk := ⟨[], [], marked⟩

/-- The rules of the description once all its entries are gathered. -/
def out (selector : Text) (walk : Walk) : List Rule :=
  if walk.declarations.isEmpty then walk.nested
  else .style selector walk.declarations :: walk.nested

def declare (declarations : List Declaration) (walk : Walk) : Walk :=
  { walk with declarations := walk.declarations ++ declarations }

/-- Adds the rules of a nested description at the end, and looks whether there are any. -/
def splice (selector : Text) (walk inner : Walk) : Walk :=
  let nested := walk.nested ++ inner.out selector
  { walk with nested, marked := inner.marked || walk.nested.length < nested.length }

/-- Adds an at-rule around the rules of a nested description, if there are any. -/
def enclose (heading selector : Text) (walk inner : Walk) : Walk :=
  if (inner.out selector).isEmpty then { walk with marked := inner.marked }
  else
    { walk with
      nested := walk.nested ++ [.atRule heading.collapse (inner.out selector)]
      marked := true }

mutual

def entries (selector : Text) : List (Text × Value) → Walk → Walk
  | [], walk => walk
  | (key, value) :: rest, walk => entries selector rest (entry selector key value walk)

def entry (selector key : Text) : Value → Walk → Walk
  | .nested body, walk =>
    match KeyKind.of key with
    | .atRule => walk.enclose key selector (entries selector body (.start walk.marked))
    | .modifier =>
      let inner := Selector.resolveModifier selector key
      walk.splice inner (entries inner body (.start walk.marked))
    | .plain =>
      let inner := Selector.joinDescendant selector key
      if inner.isEmpty then walk
      else walk.splice inner (entries inner body (.start walk.marked))
  | value, walk => walk.declare (entryDeclarations (Entry.classify key value))

end

end Walk

/-- What one walk from a selector comes to. -/
def walked (mode : RenderMode) (selector : Text) (description : Description) : Compiled :=
  let walk := Walk.entries selector description (.start false)
  .ofRules mode (walk.out selector) walk.marked

namespace Walk

variable {selector : Text} {walk : Walk} {body : Description}

/-! ### What a walk adds -/

/-- What a description adds to a walk through it. -/
def add (selector : Text) (description : Description) (walk : Walk) : Walk where
  declarations := walk.declarations ++ ownDeclarations description
  nested := walk.nested ++ nestedRules selector description
  marked := walk.marked || !(nestedRules selector description).isEmpty

/-- What the rules under a key add to it. -/
def addRules (rules : List Rule) (walk : Walk) : Walk :=
  { walk with nested := walk.nested ++ rules, marked := walk.marked || !rules.isEmpty }

theorem addRules_nil (walk : Walk) : walk.addRules [] = walk := by
  simp [addRules]

theorem add_nil (selector : Text) (walk : Walk) : walk.add selector [] = walk := by
  simp [add, ownDeclarations, Entry.ofDescription, nestedRules]

theorem add_cons (selector key : Text) (value : Value) (rest : Description) (walk : Walk) :
    walk.add selector ((key, value) :: rest) =
      ((walk.declare (entryDeclarations (Entry.classify key value))).addRules
        (rulesUnder selector key value)).add selector rest := by
  have hmark (first later : List Rule) :
      (!(first ++ later).isEmpty) = (!first.isEmpty || !later.isEmpty) := by
    cases first <;> rfl
  simp only [add, addRules, declare, ownDeclarations_cons, nestedRules, List.append_assoc,
    Bool.or_assoc, hmark]

theorem out_add_start (selector : Text) (body : Description) (marked : Bool) :
    ((start marked).add selector body).out selector = rules selector body := by
  rw [out, rules, ownRule]
  show (if (ownDeclarations body).isEmpty then _ else _) = _
  split <;> rfl

/-- A body that comes to nothing has nothing nested in it that could leave a mark. -/
theorem marked_add_start (hnone : rules selector body = []) (marked : Bool) :
    ((start marked).add selector body).marked = marked := by
  have hnested : nestedRules selector body = [] := (List.append_eq_nil_iff.mp hnone).2
  simp [add, start, hnested]

theorem splice_add (selector : Text) (body : Description) (walk : Walk) :
    walk.splice selector ((start walk.marked).add selector body) =
      walk.addRules (rules selector body) := by
  rw [splice, out_add_start, addRules]
  by_cases hnone : rules selector body = []
  · simp [hnone, marked_add_start hnone]
  · have hlonger : walk.nested.length < (walk.nested ++ rules selector body).length := by
      have hpositive := List.length_pos_iff.mpr hnone
      rw [List.length_append]
      omega
    rw [decide_eq_true hlonger, Bool.or_true, List.isEmpty_eq_false_iff.mpr hnone, Bool.not_false,
      Bool.or_true]

theorem enclose_add (heading selector : Text) (body : Description) (walk : Walk) :
    walk.enclose heading selector ((start walk.marked).add selector body) =
      walk.addRules (wrap heading (rules selector body)) := by
  rw [enclose, out_add_start, addRules, wrap]
  by_cases hnone : rules selector body = []
  · simp [hnone, marked_add_start hnone]
  · simp [hnone]

mutual

theorem entry_eq : ∀ (value : Value) (key selector : Text) (walk : Walk),
    entry selector key value walk =
      (walk.declare (entryDeclarations (Entry.classify key value))).addRules
        (rulesUnder selector key value)
  | .nested body, key, selector, walk => by
    have hentries (inner : Text) : entries inner body (start walk.marked) =
        (start walk.marked).add inner body := entries_eq body inner _
    have hdeclared : walk.declare (entryDeclarations (Entry.classify key (.nested body))) =
        walk := by
      rw [entryDeclarations_nested, declare, List.append_nil]
    rw [hdeclared]
    cases hkind : KeyKind.of key with
    | atRule =>
      simp only [entry, rulesUnder, hkind, hentries]
      exact enclose_add key selector body walk
    | modifier =>
      simp only [entry, rulesUnder, hkind, hentries]
      exact splice_add _ body walk
    | plain =>
      simp only [entry, rulesUnder, hkind, hentries]
      split
      · exact walk.addRules_nil.symm
      · exact splice_add _ body walk
  | .absent, _, _, _ => (addRules_nil _).symm
  | .flag _, _, _, _ => (addRules_nil _).symm
  | .number _, _, _, _ => (addRules_nil _).symm
  | .text _, _, _, _ => (addRules_nil _).symm
  | .list _, _, _, _ => (addRules_nil _).symm

theorem entries_eq : ∀ (description : List (Text × Value)) (selector : Text) (walk : Walk),
    entries selector description walk = walk.add selector description
  | [], selector, walk => (walk.add_nil selector).symm
  | (key, value) :: rest, selector, walk => by
    rw [entries, entry_eq value key selector walk, entries_eq rest selector, add_cons]

end

end Walk

/-- One walk comes to the rules of the description, and its mark tells whether any of them is nested. -/
theorem walked_eq_style (mode : RenderMode) (selector : Text) (description : Description) :
    walked mode selector description = style mode selector description := by
  have hmarked : ((Walk.start false).add selector description).marked =
      !(nestedRules selector description).isEmpty := Bool.false_or _
  rw [walked, Walk.entries_eq, Walk.out_add_start, hmarked]
  rfl

end Compile

end Stylesheet
