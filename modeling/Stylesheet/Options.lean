import Stylesheet.Hash.Write
import Stylesheet.Json.Record

/-!
# Options of a style request

A style may ask for a class name of its own or for a readable label inside a generated one. Options are part of the fingerprint: the same description under another name is another entry.
-/

namespace Stylesheet

structure StyleOptions where
  /-- Used instead of a generated class name. -/
  name : Option Text := none
  /-- Shown in generated class names when debugging. -/
  label : Option Text := none
  /-- Whether `name` gets the configured prefix in front. -/
  prefixName : Bool := true
deriving DecidableEq

namespace StyleOptions

def writes (options : StyleOptions) : List Hash.Write :=
  Hash.optionWrites options.name ++ Hash.optionWrites options.label ++ [.flag options.prefixName]

def fieldNames : List Text := ["name".toList, "label".toList, "prefixName".toList]

def ofTree? (tree : Json.Tree) : Option StyleOptions := do
  let fields ← Json.Record.fields? fieldNames tree
  let name ← Json.Record.optional Json.Record.text? fields "name"
  let label ← Json.Record.optional Json.Record.text? fields "label"
  let prefixName ← Json.Record.orDefault Json.Record.boolean? true fields "prefixName"
  return ⟨name, label, prefixName⟩

def ofText? (text : Text) : Option StyleOptions := (Json.Tree.ofText? text).bind ofTree?

end StyleOptions

end Stylesheet
