import Stylesheet.Proofs.Hash.Change
import Stylesheet.Proofs.Request.Writes

/-!
# A changed scalar changes the fingerprint

The scalars of a request, its switches and its numbers, go into the fingerprint as one word each, and no other word depends on them. So if two requests are the same but for one scalar, however deep it lies, their words differ at one place, and such words never have the same hash. Texts are another matter, as a text goes in through a hash of its own.
-/

namespace Stylesheet

open Hash (DifferInOneWord)

/-! ### Values -/

namespace Value

mutual

/-- The same value on both sides, but for one switch or one number in it, a number being another one if its sum with zero has other bits. -/
inductive DifferInOneScalar : Value → Value → Prop
  | flag {on other : Bool} (hne : on ≠ other) : DifferInOneScalar (.flag on) (.flag other)
  | number {x y : Binary64} (hne : x.plusZero.bits ≠ y.plusZero.bits) :
      DifferInOneScalar (.number x) (.number y)
  | list {lefts rights : List Value} (hitems : ItemsDifferInOneScalar lefts rights) :
      DifferInOneScalar (.list lefts) (.list rights)
  | nested {lefts rights : List (Text × Value)} (hentries : EntriesDifferInOneScalar lefts rights) :
      DifferInOneScalar (.nested lefts) (.nested rights)

inductive ItemsDifferInOneScalar : List Value → List Value → Prop
  | head {left right : Value} {lefts rights : List Value} (hhead : DifferInOneScalar left right)
      (hrest : sameItems lefts rights = true) :
      ItemsDifferInOneScalar (left :: lefts) (right :: rights)
  | tail {left right : Value} {lefts rights : List Value} (hhead : same left right = true)
      (hrest : ItemsDifferInOneScalar lefts rights) :
      ItemsDifferInOneScalar (left :: lefts) (right :: rights)

inductive EntriesDifferInOneScalar : List (Text × Value) → List (Text × Value) → Prop
  | head (key : Text) {left right : Value} {lefts rights : List (Text × Value)}
      (hhead : DifferInOneScalar left right) (hrest : sameEntries lefts rights = true) :
      EntriesDifferInOneScalar ((key, left) :: lefts) ((key, right) :: rights)
  | tail (key : Text) {left right : Value} {lefts rights : List (Text × Value)}
      (hhead : same left right = true) (hrest : EntriesDifferInOneScalar lefts rights) :
      EntriesDifferInOneScalar ((key, left) :: lefts) ((key, right) :: rights)

end

mutual

theorem writes_of_differ : ∀ {left right : Value}, DifferInOneScalar left right →
    DifferInOneWord left.writes right.writes
  | _, _, .flag hne => .there _ (.flag hne [])
  | _, _, .number hne => .there _ (.bits hne [])
  | _, _, .list hitems => by
    obtain ⟨hlength, hwrites⟩ := itemWrites_of_differ hitems
    rw [writes, writes, hlength]
    exact .there _ (.there _ hwrites)
  | _, _, .nested hentries => by
    obtain ⟨hlength, hwrites⟩ := entryWrites_of_differ hentries
    rw [writes, writes, hlength]
    exact .there _ (.there _ hwrites)

theorem itemWrites_of_differ : ∀ {lefts rights : List Value}, ItemsDifferInOneScalar lefts rights →
    lefts.length = rights.length ∧ DifferInOneWord (itemWrites lefts) (itemWrites rights)
  | _, _, .head hhead hrest => by
    obtain ⟨hlength, hwrites⟩ := itemWrites_of_same _ _ hrest
    refine ⟨congrArg (· + 1) hlength, ?_⟩
    rw [itemWrites, itemWrites, hwrites]
    exact (writes_of_differ hhead).append _
  | _, _, .tail hhead hrest => by
    obtain ⟨hlength, hwrites⟩ := itemWrites_of_differ hrest
    refine ⟨congrArg (· + 1) hlength, ?_⟩
    rw [itemWrites, itemWrites, writes_of_same _ _ hhead]
    exact hwrites.prepend _

theorem entryWrites_of_differ : ∀ {lefts rights : List (Text × Value)},
    EntriesDifferInOneScalar lefts rights →
    lefts.length = rights.length ∧ DifferInOneWord (entryWrites lefts) (entryWrites rights)
  | _, _, .head key hhead hrest => by
    obtain ⟨hlength, hwrites⟩ := entryWrites_of_same _ _ hrest
    refine ⟨congrArg (· + 1) hlength, ?_⟩
    rw [entryWrites, entryWrites, hwrites]
    exact .there _ ((writes_of_differ hhead).append _)
  | _, _, .tail key hhead hrest => by
    obtain ⟨hlength, hwrites⟩ := entryWrites_of_differ hrest
    refine ⟨congrArg (· + 1) hlength, ?_⟩
    rw [entryWrites, entryWrites, writes_of_same _ _ hhead]
    exact .there _ (hwrites.prepend _)

end

end Value

/-! ### Descriptions and stops -/

def Description.DifferInOneScalar (left right : Description) : Prop :=
  Value.EntriesDifferInOneScalar left right

theorem Description.writes_of_differ {left right : Description}
    (hdiffer : left.DifferInOneScalar right) : DifferInOneWord left.writes right.writes := by
  obtain ⟨hlength, hwrites⟩ := Value.entryWrites_of_differ hdiffer
  rw [writes, writes, hlength]
  exact .there _ hwrites

namespace Stops

inductive DifferInOneScalar : Stops → Stops → Prop
  | head (label : Text) {left right : Description} {lefts rights : Stops}
      (hbody : left.DifferInOneScalar right) (hrest : Stops.same lefts rights = true) :
      DifferInOneScalar ((label, left) :: lefts) ((label, right) :: rights)
  | tail (label : Text) {left right : Description} {lefts rights : Stops}
      (hbody : left.same right = true) (hrest : DifferInOneScalar lefts rights) :
      DifferInOneScalar ((label, left) :: lefts) ((label, right) :: rights)

theorem bodyWrites_of_differ {left right : Stops} (hdiffer : left.DifferInOneScalar right) :
    left.length = right.length ∧ DifferInOneWord left.bodyWrites right.bodyWrites := by
  induction hdiffer with
  | head label hbody hrest =>
    obtain ⟨hlength, hwrites⟩ := bodyWrites_of_same _ _ hrest
    refine ⟨congrArg (· + 1) hlength, ?_⟩
    rw [bodyWrites_cons, bodyWrites_cons, hwrites]
    exact .there _ ((Description.writes_of_differ hbody).append _)
  | tail label hbody _ ih =>
    refine ⟨congrArg (· + 1) ih.1, ?_⟩
    rw [bodyWrites_cons, bodyWrites_cons, Description.writes_of_same hbody]
    exact .there _ (ih.2.prepend _)

theorem writes_of_differ {left right : Stops} (hdiffer : left.DifferInOneScalar right) :
    DifferInOneWord left.writes right.writes := by
  obtain ⟨hlength, hwrites⟩ := bodyWrites_of_differ hdiffer
  rw [writes, writes, hlength]
  exact .there _ hwrites

end Stops

/-! ### Requests -/

namespace Request

/-- Two requests of one kind with the same content, but for one scalar of a description or the prefix switch of the options. -/
inductive DifferInOneScalar : Request → Request → Prop
  | style {left right : Description} (hdescription : left.DifferInOneScalar right)
      (options : StyleOptions) : DifferInOneScalar (.style left options) (.style right options)
  | prefixName {left right : Description} (hdescription : left.same right = true)
      {options others : StyleOptions} (hname : options.name = others.name)
      (hlabel : options.label = others.label) (hne : options.prefixName ≠ others.prefixName) :
      DifferInOneScalar (.style left options) (.style right others)
  | keyframes {left right : Stops} (hstops : left.DifferInOneScalar right) :
      DifferInOneScalar (.keyframes left) (.keyframes right)
  | global (selector : Text) {left right : Description}
      (hdescription : left.DifferInOneScalar right) :
      DifferInOneScalar (.global selector left) (.global selector right)

theorem contentWrites_of_differ {left right : Request} (hdiffer : left.DifferInOneScalar right) :
    left.kind = right.kind ∧ DifferInOneWord left.contentWrites right.contentWrites := by
  cases hdiffer with
  | style hdescription options =>
    exact ⟨rfl, (Description.writes_of_differ hdescription).append options.writes⟩
  | prefixName hdescription hname hlabel hne =>
    refine ⟨rfl, ?_⟩
    rw [contentWrites, contentWrites, Description.writes_of_same hdescription, StyleOptions.writes,
      StyleOptions.writes, hname, hlabel]
    exact ((DifferInOneWord.flag hne []).prepend _).prepend _
  | keyframes hstops => exact ⟨rfl, Stops.writes_of_differ hstops⟩
  | global selector hdescription =>
    exact ⟨rfl, .there _ (Description.writes_of_differ hdescription)⟩

end Request

namespace Query

/-- The same request under the same settings, as far as a fingerprint covers them, but for one scalar of the request or of the settings. -/
inductive DifferInOneScalar (left right : Query) : Prop
  | minify (hident : left.config.identPrefix = right.config.identPrefix)
      (hdebug : left.config.debug = right.config.debug)
      (hrequest : left.request.same right.request = true)
      (hne : left.config.minify ≠ right.config.minify)
  | debug (hident : left.config.identPrefix = right.config.identPrefix)
      (hminify : left.config.minify = right.config.minify)
      (hrequest : left.request.same right.request = true)
      (hne : left.config.debug ≠ right.config.debug)
  | request (hident : left.config.identPrefix = right.config.identPrefix)
      (hminify : left.config.minify = right.config.minify)
      (hdebug : left.config.debug = right.config.debug)
      (hrequest : left.request.DifferInOneScalar right.request)

theorem writes_of_differ {left right : Query} (hdiffer : left.DifferInOneScalar right) :
    DifferInOneWord left.writes right.writes := by
  rw [writes, writes, Request.writes, Request.writes]
  cases hdiffer with
  | minify hident hdebug hrequest hne =>
    obtain ⟨hkind, hcontent⟩ := Request.contentWrites_of_same hrequest
    rw [hkind, hident, hdebug, hcontent]
    exact .there _ (.there _ (.flag hne _))
  | debug hident hminify hrequest hne =>
    obtain ⟨hkind, hcontent⟩ := Request.contentWrites_of_same hrequest
    rw [hkind, hident, hminify, hcontent]
    exact .there _ (.there _ (.there _ (.flag hne _)))
  | request hident hminify hdebug hrequest =>
    obtain ⟨hkind, hcontent⟩ := Request.contentWrites_of_differ hrequest
    rw [hkind, hident, hminify, hdebug]
    exact hcontent.prepend _

/-- Two requests that differ in one scalar only never share a fingerprint. In particular, the fingerprint of a request under one render mode or debug setting is not its fingerprint under the other. -/
theorem fingerprint_ne_of_differ :
    (∀ left right : Query, left.DifferInOneScalar right → left.fingerprint ≠ right.fingerprint) ∧
      ∀ (config : Config) (request : Request),
        request.fingerprint { config with minify := !config.minify } ≠
            request.fingerprint config ∧
          request.fingerprint { config with debug := !config.debug } ≠
            request.fingerprint config := by
  have hne (left right : Query) (hdiffer : left.DifferInOneScalar right) :
      left.fingerprint ≠ right.fingerprint := by
    intro heq
    exact (writes_of_differ hdiffer).ofWrites_ne (congrArg Fingerprint.word heq)
  refine ⟨hne, fun config request => ?_⟩
  have hsame : request.same request = true := Request.same_of_contentWrites rfl rfl
  constructor
  · apply hne ⟨{ config with minify := !config.minify }, request⟩ ⟨config, request⟩
    exact .minify rfl rfl hsame (by simp)
  · apply hne ⟨{ config with debug := !config.debug }, request⟩ ⟨config, request⟩
    exact .debug rfl rfl hsame (by simp)

/-- A switch in a list below a modifier, after a zero. -/
def hoverSwitch (zero : Binary64) (on : Bool) : Query :=
  ⟨{}, .style [("color".toList, .text "red".toList),
    ("&:hover".toList, .nested [("margin".toList, .list [.number zero, .flag on])])] {}⟩

/-- The two zeros are one number, so the switch is all that differs. -/
theorem fingerprint_ne_hoverSwitch :
    (hoverSwitch .zero true).DifferInOneScalar (hoverSwitch .negativeZero false) ∧
      (hoverSwitch .zero true).fingerprint ≠ (hoverSwitch .negativeZero false).fingerprint := by
  have hlist : Value.DifferInOneScalar (.list [.number .zero, .flag true])
      (.list [.number .negativeZero, .flag false]) :=
    .list (.tail (by decide) (.head (.flag (by decide)) rfl))
  have hdiffer : (hoverSwitch .zero true).DifferInOneScalar (hoverSwitch .negativeZero false) := by
    refine .request rfl rfl rfl (.style (.tail _ (by decide) (.head _ (.nested ?_) rfl)) {})
    exact .head _ hlist rfl
  exact ⟨hdiffer, fingerprint_ne_of_differ.1 _ _ hdiffer⟩

end Query

end Stylesheet
