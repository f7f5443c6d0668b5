import TemplateSchema.Schema.Field
import TemplateSchema.Value.Mapping
/-!
The values that a new document starts with: declared defaults, or else the plainest value of each
kind. Objects are filled in property by property.
-/
set_option autoImplicit false
namespace TemplateSchema.Document

mutual

def initial (now : Moment) : Field → Value
  | .object h properties => h.default?.getD (.map (initialProperties now [] properties))
  | .string h _ _ _ => h.default?.getD (.text "")
  | .number h _ _ _ _ => h.default?.getD (.int 0)
  | .boolean h => h.default?.getD (.bool false)
  | .date h _ _ => h.default?.getD (.moment now)
  | .array h _ _ _ => h.default?.getD (.list [])
  | .record h _ => h.default?.getD (.map [])
  | .enum h options => h.default?.getD (.text (options.headD ""))

def initialProperties (now : Moment) (filled : Entries) : List Field → Entries
  | [] => filled
  | p :: rest => initialProperties now (Entries.insert filled (.text p.name) (initial now p)) rest

end

def initialValues (now : Moment) (schema : Schema) : Value :=
  .map (schema.map fun (key, f) => (key, initial now f))

end TemplateSchema.Document
