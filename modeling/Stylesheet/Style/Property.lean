import Stylesheet.Text.Basic

/-!
# Property names

A property is written in kebab case. A camel-case name gets a hyphen in front of each capital, which becomes small; the vendor name `ms` takes a hyphen in front as `Webkit` and `Moz` do through their capital. Names that start with `--` are custom properties and stay as they are. The unit of a bare number follows from the name: none for the unitless properties and for custom ones, pixels for all others, listed or not.
-/

namespace Stylesheet

inductive UnitClass
  | unitless
  | pixel
  /-- In neither table. -/
  | defaultPixel
deriving DecidableEq

def UnitClass.suffix : UnitClass → Text
  | .unitless => []
  | .pixel | .defaultPixel => ['p', 'x']

namespace Property

/-! ### Kebab case -/

def isCustom (name : Text) : Bool := ['-', '-'].isPrefixOf name

/-- A capital becomes a hyphen and the small letter. -/
def kebabChar (c : Char) : Text := if c.isUpper then ['-', c.toLower] else [c]

def guardVendor (name : Text) : Text :=
  if ['m', 's', '-'].isPrefixOf name then '-' :: name else name

/-- The kebab-case spelling; a name without capitals is already spelled that way. -/
def hyphenate (name : Text) : Text :=
  if isCustom name || !name.any Char.isUpper then name
  else guardVendor (name.flatMap kebabChar)

/-! ### Units -/

def unitlessNames : List String :=
  ["animation-iteration-count", "aspect-ratio", "border-image-outset", "border-image-slice",
    "border-image-width", "box-flex", "box-flex-group", "box-ordinal-group", "column-count",
    "columns", "fill-opacity", "flex", "flex-grow", "flex-negative", "flex-order", "flex-positive",
    "flex-shrink", "flood-opacity", "font-weight", "grid-area", "grid-column", "grid-column-end",
    "grid-column-span", "grid-column-start", "grid-row", "grid-row-end", "grid-row-span",
    "grid-row-start", "initial-letter", "line-clamp", "line-height", "opacity", "order", "orphans",
    "scale", "shape-image-threshold", "stop-opacity", "stroke-dasharray", "stroke-dashoffset",
    "stroke-miterlimit", "stroke-opacity", "stroke-width", "tab-size", "widows", "z-index", "zoom",
    "-webkit-line-clamp", "-webkit-box-flex"]

def pixelNames : List String :=
  ["width", "height", "min-width", "min-height", "max-width", "max-height", "top", "right",
    "bottom", "left", "inset", "margin", "margin-top", "margin-right", "margin-bottom",
    "margin-left", "padding", "padding-top", "padding-right", "padding-bottom", "padding-left",
    "gap", "row-gap", "column-gap", "font-size", "letter-spacing", "word-spacing", "text-indent",
    "border-width", "border-top-width", "border-right-width", "border-bottom-width",
    "border-left-width", "border-radius", "border-top-left-radius", "border-top-right-radius",
    "border-bottom-right-radius", "border-bottom-left-radius", "outline-width", "outline-offset",
    "flex-basis"]

/-- The unit class of a property in kebab case. -/
def unitClass (property : Text) : UnitClass :=
  if isCustom property then .unitless
  else if unitlessNames.any (·.toList = property) then .unitless
  else if pixelNames.any (·.toList = property) then .pixel
  else .defaultPixel

end Property

end Stylesheet
