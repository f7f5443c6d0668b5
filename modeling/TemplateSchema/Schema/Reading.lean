import TemplateSchema.Schema.Misfit
import TemplateSchema.Value.Mapping
/-!
Readings that go on after a misfit: what comes out is a value, or every problem in the order in
which the parts were read.
-/
set_option autoImplicit false
namespace TemplateSchema

abbrev Reading (α : Type) := Except (List (Problem Misfit)) α

namespace Reading

variable {α β γ : Type}

def misfit (m : Misfit) : Reading α :=
  .error [⟨[], m⟩]

-- Two readings side by side.
def and (x : Reading α) (y : Reading β) : Reading (α × β) :=
  match x, y with
  | .ok a, .ok b => .ok (a, b)
  | .ok _, .error ps => .error ps
  | .error ps, .ok _ => .error ps
  | .error ps, .error qs => .error (ps ++ qs)

def under (segment : Segment) (x : Reading α) : Reading α :=
  x.mapError fun ps => ps.map (Problem.at_ segment)

-- A reading with more problems behind its own.
def followedBy (problems : List (Problem Misfit)) (x : Reading α) : Reading α :=
  match problems with
  | [] => x
  | ps => (x.and (.error ps : Reading Unit)).map Prod.fst

-- An attribute that has to be there.
def required (attributes : Entries) (name : String) (read : Value → Reading α) : Reading α :=
  under (.name name) (match Entries.field? attributes name with
    | some v => read v
    | none => misfit .required)

-- An attribute with a value that stands for its absence.
def orElse (attributes : Entries) (name : String) (absent : α) (read : Value → Reading α) : Reading α :=
  under (.name name) (match Entries.field? attributes name with
    | some v => read v
    | none => .ok absent)

def nullable (read : Value → Reading α) : Value → Reading (Option α)
  | .null => .ok none
  | v => (read v).map some

-- An attribute that may be absent or null.
def optional (attributes : Entries) (name : String) (read : Value → Reading α) : Reading (Option α) :=
  orElse attributes name none (nullable read)

-- Each item at its position.
def items (read : Value → Reading α) (position : Nat) : List Value → Reading (List α)
  | [] => .ok []
  | v :: rest =>
    ((under (.index position) (read v)).and (items read (position + 1) rest)).map fun (a, as) => a :: as

end Reading

end TemplateSchema
