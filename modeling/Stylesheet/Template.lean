import Stylesheet.Config.Basic

/-!
# Templates

Hooks of a configuration can be written as templates, texts in which names between curly brackets stand for what the hook is given. A post-processor knows the rule text; a generator of identifiers knows the parts of the seed, put in one after another.
-/

namespace Stylesheet

namespace Template

def slot (name : String) : Text := '\x7b' :: name.toList ++ ['\x7d']

def fill (template : Text) (values : List (String × Text)) : Text :=
  values.foldl (fun text value => Text.replaceAll (slot value.1) value.2 text) template

def postProcess (template text : Text) : Text := fill template [("text", text)]

def generate (template : Text) (seed : Seed) : Text :=
  fill template
    [("namespace", seed.kind.name), ("prefix", seed.identPrefix),
      ("fingerprint", seed.fingerprint.hex), ("sequence", Numeral.decimal seed.sequence),
      ("label", seed.label.getD "-none-".toList)]

end Template

end Stylesheet
