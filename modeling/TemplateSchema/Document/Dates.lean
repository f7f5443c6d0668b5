import TemplateSchema.Schema.Field
import TemplateSchema.Value.Instant
import TemplateSchema.Value.Mapping
/-!
Reading the dates of a document: whatever stands where a schema expects a date and denotes a moment
becomes one. All else stays as it is, at any depth.
-/
set_option autoImplicit false
namespace TemplateSchema.Document

def isNamed (key : Value) (f : Field) : Bool :=
  Value.same key (.text f.name)

mutual

def coerce : Field → Value → Value
  | .date .., v => v.asMoment
  | .array _ _ _ item, v => match v with
    | .list items => .list (items.map fun x => coerce item x)
    | _ => v
  | .record _ inner, v => match v with
    | .map entries => .map (entries.map fun entry => (entry.1, coerce inner entry.2))
    | _ => v
  | .object _ properties, v => match v with
    | .map entries => .map (entries.map fun entry => (entry.1, coerceProperty entry.1 entry.2 properties))
    | _ => v
  | _, v => v

-- By the last property of that name, if there is one.
def coerceProperty (key v : Value) : List Field → Value
  | [] => v
  | p :: rest =>
    if isNamed key p && !rest.any (isNamed key) then coerce p v else coerceProperty key v rest

end

def coerceDates (schema : Schema) (values : Value) : Except Failure Value :=
  match values with
  | .map entries =>
    .ok (.map (entries.map fun (key, v) => match schema.get? key with
      | some f => (key, coerce f v)
      | none => (key, v)))
  | _ => .error .notMapping

end TemplateSchema.Document
