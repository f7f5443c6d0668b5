import TemplateSchema.Text.Basic
import TemplateSchema.Yaml.Cursor
/-!
The tokens of a document: punctuation, the block structure that indentation stands for, node
properties and scalars.
-/
set_option autoImplicit false
namespace TemplateSchema.Yaml

-- A tag as it is written: a handle to be looked up with a suffix, or a whole tag.
structure TagSpelling where
  handle : Option String
  suffix : String

inductive Directive where
  | version (major minor : Nat)
  | handle (handle tagStart : String)
  | other

inductive Lexeme where
  | streamStart
  | streamEnd
  | directive (d : Directive)
  | documentStart
  | documentEnd
  | blockSequenceStart
  | blockMappingStart
  | blockEnd
  | flowSequenceStart
  | flowSequenceEnd
  | flowMappingStart
  | flowMappingEnd
  | blockEntry
  | flowEntry
  | key
  | value
  | alias (name : String)
  | anchor (name : String)
  | tag (spelling : TagSpelling)
  | scalar (text : Text) (plain : Bool)

structure Token where
  lexeme : Lexeme
  start : Mark
  stop : Mark

-- How messages name a token.
def Lexeme.name : Lexeme → String
  | .streamStart => "<stream start>"
  | .streamEnd => "<stream end>"
  | .directive _ => "<directive>"
  | .documentStart => "<document start>"
  | .documentEnd => "<document end>"
  | .blockSequenceStart => "<block sequence start>"
  | .blockMappingStart => "<block mapping start>"
  | .blockEnd => "<block end>"
  | .flowSequenceStart => "["
  | .flowSequenceEnd => "]"
  | .flowMappingStart => "\x7b"
  | .flowMappingEnd => "\x7d"
  | .blockEntry => "-"
  | .flowEntry => ","
  | .key => "?"
  | .value => ":"
  | .alias _ => "<alias>"
  | .anchor _ => "<anchor>"
  | .tag _ => "<tag>"
  | .scalar _ _ => "<scalar>"

end TemplateSchema.Yaml
