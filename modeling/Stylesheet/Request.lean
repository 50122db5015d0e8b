import Stylesheet.Compile.Keyframes
import Stylesheet.Identifier
import Stylesheet.Style.Writes

/-!
# Requests

A request is what the cache is asked to have rules for. Its fingerprint covers its kind, its content and the three settings that shape identifiers and rule text, and its text is compiled for a given identifier: a style against the class, an animation under the name, and global rules against a selector of their own.
-/

namespace Stylesheet

inductive Request
  | style (description : Description) (options : StyleOptions)
  | keyframes (stops : Stops)
  /-- The selector is trimmed and not empty. -/
  | global (selector : Text) (description : Description)

namespace Request

def kind : Request → RuleKind
  | .style .. => .style
  | .keyframes .. => .keyframes
  | .global .. => .global

def options? : Request → Option StyleOptions
  | .style _ options => some options
  | _ => none

def label? (request : Request) : Option Text := request.options?.bind (·.label)

/-! ### Fingerprints -/

def contentWrites : Request → List Hash.Write
  | .style description options => description.writes ++ options.writes
  | .keyframes stops => stops.writes
  | .global selector description => .text selector :: description.writes

/-- Everything that tells a request from another under a configuration. -/
def writes (config : Config) (request : Request) : List Hash.Write :=
  [.tag request.kind.tag, .text config.identPrefix, .flag config.minify, .flag config.debug]
    ++ request.contentWrites

def fingerprint (config : Config) (request : Request) : Fingerprint :=
  ⟨Hash.ofWrites (request.writes config)⟩

/-! ### Compilation -/

def compile (mode : RenderMode) (identifier : Identifier) : Request → Compiled
  | .style description _ => Compile.style mode identifier.classSelector description
  | .keyframes stops => Compile.keyframes mode identifier stops
  | .global selector description => Compile.style mode selector description

def notices (identifier : Identifier) : Request → List Compile.Notice
  | .style description _ => Compile.notices identifier.classSelector description
  | .keyframes stops => Compile.keyframesNotices identifier stops
  | .global selector description => Compile.notices selector description

/-- An animation without rules is not worth an identifier. -/
def isHollow (mode : RenderMode) (identifier : Identifier) : Request → Bool
  | .keyframes stops => (Compile.keyframes mode identifier stops).text.isEmpty
  | _ => false

/-- Whether a later request can lead to the same rule text, letter for letter. -/
def isRepeatable (config : Config) : Request → Bool
  | .style _ options => options.name.isSome || config.generate.isSome
  | .keyframes _ => config.generate.isSome
  | .global .. => true

end Request

end Stylesheet
