import TemplateSchema.Chain.Reader
import TemplateSchema.Schema.Normal
/-!
Schemas that are given as one builder chain for each field.
-/
set_option autoImplicit false
namespace TemplateSchema.Chain

def fieldsOf : List (Value × Value) → Traced Schema
  | [] => pure []
  | (name, v) :: rest =>
    match v with
    | .text s => do
      let source ← Traced.ofExcept s.written
      let declaration ← declarationOf source
      let f ← Normal.field name (Declaration.ofValue (.map declaration))
      let fs ← fieldsOf rest
      pure ((name, f) :: fs)
    | _ => Traced.failed .notMapping

def schemaOf (v : Value) : Traced Schema :=
  match v with
  | .map entries => fieldsOf entries
  | _ => Traced.failed .notMapping

end TemplateSchema.Chain
