import TemplateSchema.Chain.Reader
import TemplateSchema.Files
import TemplateSchema.Json.Reader
import TemplateSchema.Schema.Declaration
import TemplateSchema.Template.Extraction
/-!
Reading templates and documents from files. A template whose schema is written as builder chains
gives the schema that the chains spell out.
-/
set_option autoImplicit false
namespace TemplateSchema

namespace Template

def declarationsOf : List (Value × Value) → Traced Entries
  | [] => pure []
  | (name, chain) :: rest => do
    let source ← Traced.ofExcept chain.label.written
    let declaration ← Chain.declarationOf source
    let others ← declarationsOf rest
    pure ((name, .map declaration) :: others)

-- The schema that chains spell out.
def ofChains (chains : Entries) : Traced Value := do
  let fields ← declarationsOf chains
  pure (.map [(.text Declaration.fieldsKey, .map fields)])

-- The schema of a template in either form; chains that mean nothing are recorded.
def schemaIn (path text : String) : Traced (Option Value) := do
  match ← extract text with
  | some schema => pure (some schema)
  | none =>
    match ← Directive.chains text with
    | none => pure none
    | some [] => pure none
    | some chains =>
      let run := ofChains chains
      match run.outcome with
      | .error (.chain fault) =>
        ⟨.ok none, run.records ++
          [⟨.warning, .commands, "Ignoring zod schema directive in " ++ path ++ ": " ++ fault.message⟩]⟩
      | outcome => ⟨outcome.map some, run.records⟩

def load (s : Surroundings) (path : String) : Traced (Option Value) := do
  let path := FilePath.read path
  let text ← Traced.ofExcept (s.text path)
  schemaIn path.text text

end Template

namespace Document

def suffixes : List String :=
  [".json", ".yml", ".yaml"]

-- A document that holds itself is gone into for as many rounds as it is looked into levels deep.
def parse (rounds : Nat) (suffix text : String) : Except Failure Value :=
  if suffix = ".json" then (Json.read text).mapError Failure.json
  else (Yaml.loadTo rounds text).mapError Failure.yaml

-- The values in a file; an empty document has none.
def load (s : Surroundings) (rounds : Nat) (path : String) : Except Failure Value := do
  let path := FilePath.read path
  let suffix := String.ofList (path.suffix.toList.map Char.toLower)
  if suffixes.contains suffix then
    match ← parse rounds suffix (← s.text path) with
    | .null => .ok (.map [])
    | .map entries => .ok (.map entries)
    | _ => .error .notDocument
  else .error (.extension path.suffix)

end Document

end TemplateSchema
