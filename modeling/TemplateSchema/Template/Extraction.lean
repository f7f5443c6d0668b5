import TemplateSchema.Json.Reader
import TemplateSchema.Schema.Declaration
import TemplateSchema.Template.Directive
import TemplateSchema.Template.FrontMatter
import TemplateSchema.Yaml.Document
/-!
The schema that a template declares: under `schema` in its front matter, or else in its directive.
A template without one is an ordinary case; a broken one is recorded and counts as none.
-/
set_option autoImplicit false
namespace TemplateSchema.Template

-- What a place says about the schema: nothing, or a value, which is null if it is unusable.
inductive Candidate where
  | absent
  | declared (v : Value)

def schemaKey : String := "schema"

def warn (message : String) : Traced Unit :=
  Traced.record .warning .templates message

def inFrontMatter (text : String) : Traced Candidate :=
  match (FrontMatter.split text).1 with
  | none => pure .absent
  | some front =>
    match Yaml.load front with
    | .ok v =>
      match v.entries?.bind fun entries => Entries.field? entries schemaKey with
      | some schema => pure (.declared schema)
      | none => pure .absent
    | .error (.flaw _ (.scalar f)) => Traced.failed (.yaml (.flaw front.toList (.scalar f)))
    | .error fault => do
      warn ("Ignoring template front matter: invalid YAML (" ++ Text.firstLine fault.message ++ ")")
      pure .absent

def inDirective (text : String) : Traced Candidate :=
  match Directive.literal? text with
  | none => pure .absent
  | some literal =>
    match Json.read literal with
    | .ok v => pure (.declared v)
    | .error (.digits count) => Traced.failed (.digits count)
    | .error (.malformed reason _ line column) =>
      if Directive.callsBuilder literal then do
        Traced.record .debug .templates "Schema directive is not JSON; it holds zod expressions"
        pure (.declared .null)
      else do
        warn ("Ignoring schema directive: invalid JSON (" ++ reason.text ++ " at line " ++
          Text.decimal line ++ ", col " ++ Text.decimal column ++ ")")
        pure (.declared .null)

-- The first entry whose value is no mapping.
def firstUndeclared? (entries : Entries) : Option (Value × Value) :=
  entries.find? fun entry => entry.2.entries?.isNone

-- A schema is a mapping with a mapping of declarations under `fields`.
def checked (candidate : Value) : Traced (Option Value) :=
  match candidate with
  | .map entries =>
    match Entries.field entries Declaration.fieldsKey with
    | .map fields =>
      match firstUndeclared? fields with
      | none => pure (some candidate)
      | some (name, v) => do
        warn ("Ignoring schema: field " ++ name.display ++ " must be a mapping, got " ++ v.kindName)
        pure none
    | _ => do
      warn ("Ignoring schema: " ++ Text.quoted Declaration.fieldsKey ++ " must be a mapping of field declarations")
      pure none
  | _ => do
    warn ("Ignoring schema: expected a mapping, got " ++ candidate.kindName)
    pure none

def checkedCandidate : Candidate → Traced (Option Value)
  | .absent => pure none
  | .declared .null => pure none
  | .declared v => checked v

-- The schema that a template declares.
def extract (text : String) : Traced (Option Value) := do
  match ← inFrontMatter text with
  | .absent => checkedCandidate (← inDirective text)
  | found => checkedCandidate found

end TemplateSchema.Template
