import TemplateSchema.Failure
import TemplateSchema.Value.Mapping
import TemplateSchema.Value.Members
/-!
Laying one mapping over another: values of the upper one win, and two mappings under the same key
are merged in turn. Keys of the lower one keep their places.
-/
set_option autoImplicit false
namespace TemplateSchema

namespace Entries

mutual

def merge (base : Entries) : List (Value × Value) → Entries
  | [] => base
  | (k, v) :: rest => merge (insert base k (mergeValue (get? base k) v)) rest

def mergeValue (old : Option Value) : Value → Value
  | .map upper => match old with
    | some (.map lower) => .map (merge lower upper)
    | _ => .map upper
  | v => v

end

-- An entry from a value with two members.
def ofPair (position : Nat) (pair : Value) : Except Failure (Value × Value) :=
  match pair.members? with
  | none => .error .unsupported
  | some [key, v] => if key.isHashable then .ok (key, v) else .error .unsupported
  | some members => .error (.entryLength position members.length)

def ofPairs (position : Nat) : List Value → Except Failure (List (Value × Value))
  | [] => .ok []
  | pair :: rest => do
    let entry ← ofPair position pair
    let entries ← ofPairs (position + 1) rest
    .ok (entry :: entries)

-- A mapping, or one that is given as a collection of pairs.
def ofValue (v : Value) : Except Failure Entries :=
  match v with
  | .map entries => .ok entries
  | v => match v.members? with
    | some pairs => (ofPairs 0 pairs).map ofList
    | none => .error .unsupported

end Entries

namespace Document

def mergeValues (base upper : Value) : Except Failure Value := do
  let lower ← Entries.ofValue base
  match upper with
  | .map entries => .ok (.map (Entries.merge lower entries))
  | _ => .error .notMapping

end Document

end TemplateSchema
