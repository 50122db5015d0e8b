import Stylesheet.Config.Basic
import Stylesheet.Options
import Stylesheet.Text.Ident

/-!
# Identifiers

An identifier is a class name or the name of an animation. A custom name comes first, then the generator of the configuration, then the default scheme: the prefix, a mark for animations and global rules, the label when debugging, and a token of digits in base 36, of which the last ones count the identifiers issued. Whatever a text holds, it is made a fragment of an identifier before it is used. One identifier stands for rejected requests; custom and generated names are compared with it, the default scheme is not.
-/

namespace Stylesheet

abbrev Identifier := Text

namespace Identifier

/-- Answers every rejected request. -/
def invalid : Identifier := "styled-invalid".toList

def classSelector (identifier : Identifier) : Text := '.' :: identifier

/-! ### Custom names -/

def namedCandidate (identPrefix : Text) (options : StyleOptions) (raw : Text) : Text :=
  if options.prefixName then identPrefix ++ '-' :: raw.sanitize else raw.sanitize

def custom? (identPrefix : Text) (options : StyleOptions) : Option Identifier :=
  options.name.bind fun raw =>
    if raw.sanitize.isEmpty || namedCandidate identPrefix options raw = invalid then none
    else some (namedCandidate identPrefix options raw)

/-! ### Generated names -/

def isUsable (produced : Text) : Bool := !produced.isEmpty && produced ≠ invalid

def generated? (config : Config) (seed : Seed) : Option Identifier :=
  config.generate.bind fun generate =>
    if isUsable (generate seed).sanitize then some (generate seed).sanitize else none

/-! ### The default scheme -/

def kindMark : RuleKind → Text
  | .style => []
  | .keyframes => "-kf".toList
  | .global => "-g".toList

def labelMark (debug : Bool) (label : Option Text) : Text :=
  match label with
  | none => []
  | some raw => if debug && !raw.sanitize.isEmpty then '-' :: raw.sanitize else []

def digestWidth : Nat := 6

/-- The first digits of the fingerprint, always `digestWidth` of them. -/
def digest (fingerprint : Fingerprint) : Text :=
  Numeral.padded digestWidth (fingerprint.base36.take digestWidth)

def byDefault (debug : Bool) (seed : Seed) : Identifier :=
  seed.identPrefix ++ kindMark seed.kind ++ labelMark debug seed.label
    ++ '-' :: (digest seed.fingerprint ++ Numeral.inBase 36 seed.sequence)

/-! ### Choice -/

/-- The identifier of a new entry; only a style request has options. -/
def issue (config : Config) (options : Option StyleOptions) (seed : Seed) : Identifier :=
  ((options.bind (custom? seed.identPrefix)).or (generated? config seed)).getD
    (byDefault config.debug seed)

/-- The custom name, if it leaves nothing of an identifier. -/
def unusableName? (options : Option StyleOptions) : Option Text :=
  (options.bind (·.name)).filter fun raw => raw.sanitize.isEmpty

/-- What the generator produced, if it was asked and its product cannot be used. -/
def unusableProduct? (config : Config) (options : Option StyleOptions) (seed : Seed) :
    Option Text :=
  if (options.bind (custom? seed.identPrefix)).isSome then none
  else (config.generate.map fun generate => (generate seed).sanitize).filter (!isUsable ·)

end Identifier

end Stylesheet
