import TemplateSchema.Value.Mapping
import TemplateSchema.Value.Stored
/-!
What a check makes of an accepted value. Members of a model are known by the keys of its slots;
dumping turns models back into mappings.
-/
set_option autoImplicit false
namespace TemplateSchema

inductive Parsed where
  | value (v : Value)
  | list (items : List Parsed)
  | record (entries : List (Value × Parsed))
  | model (members : List (String × Parsed))

namespace Parsed

mutual

def dump : Parsed → Value
  | .value v => v.stored
  | .list items => .list (dumpItems items)
  | .record entries => .map (dumpEntries entries)
  | .model members => .map (dumpMembers [] members)

def dumpItems : List Parsed → List Value
  | [] => []
  | p :: rest => dump p :: dumpItems rest

def dumpEntries : List (Value × Parsed) → Entries
  | [] => []
  | (k, p) :: rest => (k, dump p) :: dumpEntries rest

-- Two members may go by one key; the later one counts.
def dumpMembers (done : Entries) : List (String × Parsed) → Entries
  | [] => done
  | (k, p) :: rest => dumpMembers (Entries.insert done (.text k) (dump p)) rest

end

mutual

-- Whether a model stands anywhere in it.
def hasModel : Parsed → Bool
  | .value _ => false
  | .list items => anyModel items
  | .record entries => anyModelEntry entries
  | .model _ => true

def anyModel : List Parsed → Bool
  | [] => false
  | p :: rest => hasModel p || anyModel rest

def anyModelEntry : List (Value × Parsed) → Bool
  | [] => false
  | (_, p) :: rest => hasModel p || anyModelEntry rest

end

-- The plain value: a model is dumped if it is the whole, and has no plain value inside another.
def plain? : Parsed → Option Value
  | p@(.model _) => some p.dump
  | p => if p.hasModel then none else some p.dump

end Parsed

end TemplateSchema
