import Stylesheet.Proofs.Cache.Transparency

/-!
# Writes determine requests

Everything that goes into a fingerprint goes in as a sequence of writes, and only the hash of that sequence can lose anything. The sequence itself loses nothing: each value begins with its alternative and each list and map with its length, so no piece can be mistaken for a part of its neighbours. That holds even if the sorts of the writes are forgotten and only numbers are told from texts, which leaves less than any hasher gets to see.
-/

namespace Stylesheet

open Hash (Write)

namespace Hash

/-- What a write holds, a number or a text, whatever its sort. -/
def Write.content : Write → Nat ⊕ Text
  | .tag index => .inl index
  | .flag on => .inl on.toNat
  | .bits word => .inl word.toNat
  | .size count => .inl count
  | .text value => .inr value

def contents (writes : List Write) : List (Nat ⊕ Text) := writes.map Write.content

@[simp] theorem contents_nil : contents [] = [] := rfl

@[simp] theorem contents_cons (write : Write) (writes : List Write) :
    contents (write :: writes) = write.content :: contents writes := rfl

@[simp] theorem contents_append (first second : List Write) :
    contents (first ++ second) = contents first ++ contents second :=
  List.map_append

theorem flag_of_content {left right : Bool}
    (heq : (Write.flag left).content = (Write.flag right).content) : left = right := by
  cases left <;> cases right <;> simp_all [Write.content]

theorem optionWrites_cancel {left right : Option Text} {after others : List (Nat ⊕ Text)}
    (heq : contents (optionWrites left) ++ after = contents (optionWrites right) ++ others) :
    left = right ∧ after = others := by
  cases left <;> cases right <;> simp_all [optionWrites, Write.content]

end Hash

open Hash (contents contents_cons contents_nil contents_append)

/-! ### The same values, the same writes -/

namespace Value

mutual

theorem writes_of_same : ∀ left right : Value, same left right = true →
    left.writes = right.writes
  | .absent, .absent, _ => rfl
  | .flag _, .flag _, hsame => by rw [of_decide_eq_true hsame]
  | .number _, .number _, hsame => by rw [writes, writes, of_decide_eq_true hsame]
  | .text _, .text _, hsame => by rw [of_decide_eq_true hsame]
  | .list left, .list right, hsame => by
    obtain ⟨hlength, hwrites⟩ := itemWrites_of_same left right hsame
    rw [writes, writes, hlength, hwrites]
  | .nested left, .nested right, hsame => by
    obtain ⟨hlength, hwrites⟩ := entryWrites_of_same left right hsame
    rw [writes, writes, hlength, hwrites]

theorem itemWrites_of_same : ∀ left right : List Value, sameItems left right = true →
    left.length = right.length ∧ itemWrites left = itemWrites right
  | [], [], _ => ⟨rfl, rfl⟩
  | left :: lefts, right :: rights, hsame => by
    rw [sameItems, Bool.and_eq_true] at hsame
    obtain ⟨hlength, hwrites⟩ := itemWrites_of_same lefts rights hsame.2
    rw [itemWrites, itemWrites, writes_of_same left right hsame.1, hwrites]
    exact ⟨congrArg (· + 1) hlength, rfl⟩

theorem entryWrites_of_same : ∀ left right : List (Text × Value),
    sameEntries left right = true →
      left.length = right.length ∧ entryWrites left = entryWrites right
  | [], [], _ => ⟨rfl, rfl⟩
  | (key, left) :: lefts, (other, right) :: rights, hsame => by
    rw [sameEntries, Bool.and_eq_true, Bool.and_eq_true] at hsame
    obtain ⟨⟨hkey, hvalue⟩, hrest⟩ := hsame
    obtain ⟨hlength, hwrites⟩ := entryWrites_of_same lefts rights hrest
    rw [entryWrites, entryWrites, of_decide_eq_true hkey, writes_of_same left right hvalue,
      hwrites]
    exact ⟨congrArg (· + 1) hlength, rfl⟩

end

/-! ### The same writes, the same values -/

mutual

/-- The writes of a value can be told from whatever follows them. -/
theorem writes_cancel : ∀ (left right : Value) {after others : List (Nat ⊕ Text)},
    contents left.writes ++ after = contents right.writes ++ others →
      same left right = true ∧ after = others
  | .absent, right, _, _, heq => by
    cases right <;> simp_all [writes, same, Write.content]
  | .flag on, right, _, _, heq => by
    cases right with
    | flag other =>
      obtain ⟨hflag, hrest⟩ := List.cons.inj (List.cons.inj heq).2
      exact ⟨decide_eq_true (Hash.flag_of_content hflag), hrest⟩
    | _ => simp [writes, Write.content] at heq
  | .number value, right, _, _, heq => by
    cases right with
    | number other =>
      simp only [writes, contents_cons, contents_nil, Write.content, List.cons_append,
        List.nil_append, List.cons.injEq, true_and, Sum.inl.injEq, UInt64.toNat_inj] at heq
      exact ⟨decide_eq_true (congrArg Binary64.mk heq.1), heq.2⟩
    | _ => simp [writes, Write.content] at heq
  | .text value, right, _, _, heq => by
    cases right <;> simp_all [writes, same, Write.content]
  | .list items, right, _, _, heq => by
    cases right with
    | list others =>
      simp only [writes, contents_cons, List.cons_append, List.cons.injEq, Write.content,
        true_and, Sum.inl.injEq] at heq
      exact itemWrites_cancel items others heq.1 heq.2
    | _ => simp [writes, Write.content] at heq
  | .nested body, right, _, _, heq => by
    cases right with
    | nested other =>
      simp only [writes, contents_cons, List.cons_append, List.cons.injEq, Write.content,
        true_and, Sum.inl.injEq] at heq
      exact entryWrites_cancel body other heq.1 heq.2
    | _ => simp [writes, Write.content] at heq

theorem itemWrites_cancel : ∀ (left right : List Value) {after others : List (Nat ⊕ Text)},
    left.length = right.length →
    contents (itemWrites left) ++ after = contents (itemWrites right) ++ others →
      sameItems left right = true ∧ after = others
  | [], [], _, _, _, heq => ⟨rfl, heq⟩
  | left :: lefts, right :: rights, _, _, hlength, heq => by
    rw [itemWrites, itemWrites, contents_append, contents_append, List.append_assoc,
      List.append_assoc] at heq
    obtain ⟨hitem, hrest⟩ := writes_cancel left right heq
    obtain ⟨hitems, hafter⟩ := itemWrites_cancel lefts rights (Nat.succ.inj hlength) hrest
    exact ⟨by rw [sameItems, hitem, hitems, Bool.and_true], hafter⟩

theorem entryWrites_cancel : ∀ (left right : List (Text × Value))
    {after others : List (Nat ⊕ Text)}, left.length = right.length →
    contents (entryWrites left) ++ after = contents (entryWrites right) ++ others →
      sameEntries left right = true ∧ after = others
  | [], [], _, _, _, heq => ⟨rfl, heq⟩
  | (key, left) :: lefts, (other, right) :: rights, _, _, hlength, heq => by
    rw [entryWrites, entryWrites, contents_cons, contents_cons, contents_append, contents_append,
      List.cons_append, List.cons_append, List.append_assoc, List.append_assoc] at heq
    obtain ⟨hkey, hvalues⟩ := List.cons.inj heq
    obtain ⟨hvalue, hrest⟩ := writes_cancel left right hvalues
    obtain ⟨hentries, hafter⟩ := entryWrites_cancel lefts rights (Nat.succ.inj hlength) hrest
    obtain rfl := Sum.inr.inj hkey
    exact ⟨by simp [sameEntries, hvalue, hentries], hafter⟩

end

end Value

/-! ### Descriptions and stops -/

theorem Description.writes_of_same {left right : Description} (hsame : left.same right = true) :
    left.writes = right.writes := by
  obtain ⟨hlength, hwrites⟩ := Value.entryWrites_of_same left right hsame
  rw [writes, writes, hlength, hwrites]

theorem Description.writes_cancel {left right : Description} {after others : List (Nat ⊕ Text)}
    (heq : contents left.writes ++ after = contents right.writes ++ others) :
    left.same right = true ∧ after = others := by
  obtain ⟨hlength, hrest⟩ := List.cons.inj heq
  exact Value.entryWrites_cancel left right (Sum.inl.inj hlength) hrest

namespace Stops

/-- The writes of the stops after their number. -/
def bodyWrites (stops : Stops) : List Write :=
  stops.flatMap fun (label, body) => .text label :: Description.writes body

theorem bodyWrites_cons (label : Text) (body : Description) (stops : Stops) :
    bodyWrites ((label, body) :: stops) =
      .text label :: (Description.writes body ++ bodyWrites stops) := rfl

theorem bodyWrites_of_same : ∀ left right : Stops, left.same right = true →
    left.length = right.length ∧ bodyWrites left = bodyWrites right
  | [], [], _ => ⟨rfl, rfl⟩
  | (label, left) :: lefts, (other, right) :: rights, hsame => by
    rw [same, Bool.and_eq_true, Bool.and_eq_true] at hsame
    obtain ⟨⟨hlabel, hbody⟩, hrest⟩ := hsame
    obtain ⟨hlength, hwrites⟩ := bodyWrites_of_same lefts rights hrest
    rw [bodyWrites_cons, bodyWrites_cons, of_decide_eq_true hlabel,
      Description.writes_of_same hbody, hwrites]
    exact ⟨congrArg (· + 1) hlength, rfl⟩

theorem bodyWrites_cancel : ∀ (left right : Stops) {after others : List (Nat ⊕ Text)},
    left.length = right.length →
    contents left.bodyWrites ++ after = contents right.bodyWrites ++ others →
      left.same right = true ∧ after = others
  | [], [], _, _, _, heq => ⟨rfl, heq⟩
  | (label, left) :: lefts, (other, right) :: rights, _, _, hlength, heq => by
    rw [bodyWrites_cons, bodyWrites_cons, contents_cons, contents_cons,
      contents_append, contents_append, List.cons_append, List.cons_append,
      List.append_assoc, List.append_assoc] at heq
    obtain ⟨hlabel, hbodies⟩ := List.cons.inj heq
    obtain ⟨hbody, hrest⟩ := Description.writes_cancel hbodies
    obtain ⟨hstops, hafter⟩ := bodyWrites_cancel lefts rights (Nat.succ.inj hlength) hrest
    obtain rfl := Sum.inr.inj hlabel
    exact ⟨by simp [same, hbody, hstops], hafter⟩

end Stops

/-! ### Requests -/

namespace Request

theorem contentWrites_of_same {left right : Request} (hsame : left.same right = true) :
    left.kind = right.kind ∧ left.contentWrites = right.contentWrites := by
  cases left <;> cases right <;> simp only [same, Bool.and_eq_true, Bool.false_eq_true] at hsame
  case style.style =>
    rw [contentWrites, contentWrites, Description.writes_of_same hsame.1,
      of_decide_eq_true hsame.2]
    exact ⟨rfl, rfl⟩
  case keyframes.keyframes left right =>
    obtain ⟨hlength, hwrites⟩ := Stops.bodyWrites_of_same left right hsame
    refine ⟨rfl, ?_⟩
    rw [contentWrites, contentWrites]
    exact congrArg₂ (fun count writes => Write.size count :: writes) hlength hwrites
  case global.global =>
    rw [contentWrites, contentWrites, of_decide_eq_true hsame.1,
      Description.writes_of_same hsame.2]
    exact ⟨rfl, rfl⟩

/-- For one kind of request the content can be read off its writes. -/
theorem same_of_contentWrites {left right : Request} (hkind : left.kind = right.kind)
    (heq : contents left.contentWrites = contents right.contentWrites) :
    left.same right = true := by
  cases left <;> cases right <;> simp only [kind, reduceCtorEq] at hkind
  case style.style description options other others =>
    rw [contentWrites, contentWrites, contents_append, contents_append] at heq
    obtain ⟨hdescription, hoptions⟩ := Description.writes_cancel heq
    simp only [StyleOptions.writes, contents_append, List.append_assoc] at hoptions
    obtain ⟨hname, hrest⟩ := Hash.optionWrites_cancel hoptions
    obtain ⟨hlabel, hflag⟩ := Hash.optionWrites_cancel hrest
    have hprefixName := Hash.flag_of_content (List.cons.inj hflag).1
    have hsame : options = others := by
      cases options
      cases others
      simp_all only
    rw [same, hdescription, hsame, decide_eq_true rfl, Bool.and_true]
  case keyframes.keyframes left right =>
    obtain ⟨hlength, hrest⟩ := List.cons.inj heq
    exact (Stops.bodyWrites_cancel left right (Sum.inl.inj hlength)
      (congrArg (· ++ []) hrest)).1
  case global.global selector left other right =>
    obtain ⟨hselector, hrest⟩ := List.cons.inj heq
    obtain rfl := Sum.inr.inj hselector
    have hdescription : left.same right = true :=
      (Description.writes_cancel (congrArg (· ++ []) hrest)).1
    rw [same, hdescription, decide_eq_true rfl, Bool.and_true]

theorem kind_of_tag {left right : RuleKind} (htag : left.tag = right.tag) : left = right := by
  cases left <;> cases right <;> first | rfl | exact absurd htag (by decide)

end Request

namespace Query

/-- What the fingerprint of the request is the hash of. -/
def writes (query : Query) : List Write := query.request.writes query.config

theorem contents_writes (query : Query) : contents query.writes =
    .inl query.request.kind.tag :: .inr query.config.identPrefix ::
      .inl query.config.minify.toNat :: .inl query.config.debug.toNat ::
        contents query.request.contentWrites := rfl

theorem same_of_contents {left right : Query}
    (heq : contents left.writes = contents right.writes) : left.Same right := by
  rw [contents_writes, contents_writes] at heq
  obtain ⟨htag, heq⟩ := List.cons.inj heq
  obtain ⟨hident, heq⟩ := List.cons.inj heq
  obtain ⟨hminify, heq⟩ := List.cons.inj heq
  obtain ⟨hdebug, hcontent⟩ := List.cons.inj heq
  have hkind := Request.kind_of_tag (Sum.inl.inj htag)
  exact ⟨Sum.inr.inj hident, Hash.flag_of_content hminify, Hash.flag_of_content hdebug,
    Request.same_of_contentWrites hkind hcontent⟩

theorem Same.writes_eq {left right : Query} (hsame : left.Same right) :
    left.writes = right.writes := by
  obtain ⟨hkind, hcontent⟩ := Request.contentWrites_of_same hsame.request
  rw [writes, writes, Request.writes, Request.writes, hsame.identPrefix, hsame.minify,
    hsame.debug, hkind, hcontent]

/-- Two requests, each under a configuration of its own, have the same writes if and only if they are the same request under the same prefix, render mode and debug setting, and leaving out the sorts of the writes makes no difference. Two numbers in them are the same just if they have the same bits, if both are zeros, or if both are NaNs with the same quiet form. -/
theorem writes_eq_iff (left right : Query) :
    (left.writes = right.writes ↔ left.Same right) ∧
      (contents left.writes = contents right.writes ↔ left.Same right) ∧
      ∀ x y : Binary64, (Value.number x).same (.number y) = true ↔
        x = y ∨ (x ∈ [.zero, .negativeZero] ∧ y ∈ [.zero, .negativeZero]) ∨
          (x.isNaN = true ∧ y.isNaN = true ∧ x.quiet = y.quiet) := by
  refine ⟨⟨fun heq => ?_, Same.writes_eq⟩, ⟨same_of_contents, fun hsame => ?_⟩, fun x y => ?_⟩
  · exact same_of_contents (congrArg contents heq)
  · rw [hsame.writes_eq]
  · rw [Value.same, decide_eq_true_iff]
    exact Binary64.plusZero_eq_iff

end Query

end Stylesheet
