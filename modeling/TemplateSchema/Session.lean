import TemplateSchema.Document.Dates
import TemplateSchema.Document.Initial
import TemplateSchema.Document.Merge
import TemplateSchema.Document.Validation
import TemplateSchema.Schema.Normal
import TemplateSchema.Settings
import TemplateSchema.Shape.Check
import TemplateSchema.Shape.Compile
import TemplateSchema.Template.Loading
/-!
Editing one document step by step: the schema of a template is read once, in both of its forms, and
each step changes the values or looks at them.
-/
set_option autoImplicit false
namespace TemplateSchema.Session

inductive Action where
  | fill
  | set (key v : Value)
  | delete (key : Value)
  | merge (v : Value)
  | coerce
  | validate
  | check
  | showSchema

inductive Answer where
  | nothing
  | values (v : Value)
  | complaints (found : List (Value × Document.Complaint))
  | checked (result : Shape.Checked Parsed)
  | schema (schema : Schema)

structure State where
  now : Moment
  schema : Schema
  shape : Shape
  values : Entries

-- The schema of a template's text, in whichever form it is written.
def source (text : String) : Traced (Option Value) := do
  match ← Template.extract text with
  | some schema => pure (some schema)
  | none =>
    match ← Directive.chains text with
    | none => pure none
    | some chains => do
      let schema ← Template.ofChains chains
      pure (some schema)

def start (now : Moment) (declared : Value) : Traced State := do
  let schema ← Normal.schema declared
  let shape ← Shape.ofSchema declared (.text Settings.defaultModelName)
  pure ⟨now, schema, shape, []⟩

def withValues (s : State) (v : Value) : Except Failure (State × Answer) :=
  match v with
  | .map entries => .ok ({ s with values := entries }, .values v)
  | _ => .error .notMapping

def step (s : State) : Action → Except Failure (State × Answer)
  | .fill => withValues s (Document.initialValues s.now s.schema)
  | .set key v =>
    if key.isHashable then .ok ({ s with values := Entries.insert s.values key v }, .nothing)
    else .error .unsupported
  | .delete key =>
    if key.isHashable then .ok ({ s with values := Entries.erase s.values key }, .nothing)
    else .error .unsupported
  | .merge v => do withValues s (← Document.mergeValues (.map s.values) v)
  | .coerce => do withValues s (← Document.coerceDates s.schema (.map s.values))
  | .validate => do .ok (s, .complaints (← Document.report s.schema (.map s.values)))
  | .check => .ok (s, .checked (Shape.check s.shape (.map s.values)))
  | .showSchema => .ok (s, .schema s.schema)

def steps (s : State) : List Action → Except Failure (List Answer)
  | [] => .ok []
  | a :: rest => do
    let (next, answer) ← step s a
    let answers ← steps next rest
    .ok (answer :: answers)

end TemplateSchema.Session
