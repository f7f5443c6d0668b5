import TemplateSchema.Proofs.Value.Entries
/-!
Values in which no mapping has a key twice, and among them those that JSON can spell out: mappings
from texts, lists, and scalars, but neither dates nor moments.
-/
set_option autoImplicit false
namespace TemplateSchema

namespace Value

mutual

-- As deep as lists and mappings go.
def IsProper : Value → Prop
  | .list items => AreProper items
  | .map entries => Entries.AreDistinct entries ∧ EntriesAreProper entries
  | _ => True

def AreProper : List Value → Prop
  | [] => True
  | v :: rest => IsProper v ∧ AreProper rest

def EntriesAreProper : List (Value × Value) → Prop
  | [] => True
  | (_,v) :: rest => IsProper v ∧ EntriesAreProper rest

end

mutual

def IsJson : Value → Prop
  | .null | .bool _ | .int _ | .float _ | .text _ => True
  | .list items => AreJson items
  | .map entries => Entries.AreDistinct entries ∧ EntriesAreJson entries
  | _ => False

def AreJson : List Value → Prop
  | [] => True
  | v :: rest => IsJson v ∧ AreJson rest

def EntriesAreJson : List (Value × Value) → Prop
  | [] => True
  | (k,v) :: rest => (∃ name, k = .text name) ∧ IsJson v ∧ EntriesAreJson rest

end

theorem areProper_exact {items : List Value} : AreProper items ↔ ∀ v ∈ items, v.IsProper := by
  induction items with
  | nil => simp [AreProper]
  | cons v rest ih => simp [AreProper,ih]

theorem entriesAreProper_exact {entries : Entries} :
    EntriesAreProper entries ↔ ∀ entry ∈ entries, entry.2.IsProper := by
  induction entries with
  | nil => simp [EntriesAreProper]
  | cons entry rest ih => simp [EntriesAreProper,ih]

theorem areJson_exact {items : List Value} : AreJson items ↔ ∀ v ∈ items, v.IsJson := by
  induction items with
  | nil => simp [AreJson]
  | cons v rest ih => simp [AreJson,ih]

theorem entriesAreJson_exact {entries : Entries} :
    EntriesAreJson entries ↔ ∀ entry ∈ entries, (∃ name, entry.1 = .text name) ∧ entry.2.IsJson := by
  induction entries with
  | nil => simp [EntriesAreJson]
  | cons entry rest ih =>
    obtain ⟨k,v⟩ := entry
    rw [EntriesAreJson,ih,List.forall_mem_cons,and_assoc]

mutual

theorem json_proper : (v : Value) → v.IsJson → v.IsProper
  | .list items, json => items_proper items json
  | .map entries, json => ⟨json.1,entries_proper entries json.2⟩
  | .null, _ | .bool _, _ | .int _, _ | .float _, _ | .text _, _ => trivial
  | .bytes _, _ | .tuple _, _ | .set _, _ | .date _, _ | .moment _, _ | .chain _, _ => trivial

theorem items_proper : (items : List Value) → AreJson items → AreProper items
  | [], _ => trivial
  | v :: rest, json => ⟨json_proper v json.1,items_proper rest json.2⟩

theorem entries_proper : (entries : List (Value × Value)) → EntriesAreJson entries → EntriesAreProper entries
  | [], _ => trivial
  | (_,v) :: rest, json => ⟨json_proper v json.2.1,entries_proper rest json.2.2⟩

end

end Value

theorem Entries.json_found {entries : Entries} {name : Text} {v : Value}
    (json : (Value.map entries).IsJson) (found : field? entries name = some v) : v.IsJson :=
  (Value.entriesAreJson_exact.mp json.2 _ (found_entry found)).2

end TemplateSchema
