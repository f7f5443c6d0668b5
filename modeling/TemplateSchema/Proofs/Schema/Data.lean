import TemplateSchema.Proofs.Schema.Normalized
import TemplateSchema.Proofs.Value.Entries
import TemplateSchema.Value.Stored
/-!
Plain data: values that no builder chain stands in. It is stored as it is, and what a schema of
plain data declares, defaults included, is plain data again.
-/
set_option autoImplicit false
namespace TemplateSchema

namespace Value

mutual

def IsData : Value → Prop
  | .chain _ => False
  | .list items => AreData items
  | .tuple items => AreData items
  | .set items => AreData items
  | .map entries => EntriesAreData entries
  | _ => True

def AreData : List Value → Prop
  | [] => True
  | v :: rest => IsData v ∧ AreData rest

def EntriesAreData : List (Value × Value) → Prop
  | [] => True
  | (_,v) :: rest => IsData v ∧ EntriesAreData rest

end

theorem entriesAreData_exact {entries : Entries} :
    EntriesAreData entries ↔ ∀ entry ∈ entries, entry.2.IsData := by
  induction entries with
  | nil => simp [EntriesAreData]
  | cons entry rest ih => simp [EntriesAreData,ih]

mutual

theorem stored_data (v : Value) (data : v.IsData) : v.stored = v := by
  cases v with
  | list items => rw [stored,storedItems_data items data]
  | tuple items => rw [stored,storedItems_data items data]
  | set items => rw [stored,storedItems_data items data]
  | map entries => rw [stored,storedEntries_data entries data]
  | chain declaration => exact data.elim
  | _ => rfl

theorem storedItems_data (items : List Value) (data : AreData items) : storedItems items = items := by
  match items with
  | [] => rfl
  | v :: rest => rw [storedItems,stored_data v data.1,storedItems_data rest data.2]

theorem storedEntries_data (entries : List (Value × Value)) (data : EntriesAreData entries) :
    storedEntries entries = entries := by
  match entries with
  | [] => rfl
  | (k,v) :: rest => rw [storedEntries,stored_data v data.1,storedEntries_data rest data.2]

end

mutual

theorem data_stored (v : Value) (same : v.stored = v) : v.IsData := by
  cases v with
  | list items => exact data_storedItems items (list.inj same)
  | tuple items => exact data_storedItems items (tuple.inj same)
  | set items => exact data_storedItems items (set.inj same)
  | map entries => exact data_storedEntries entries (map.inj same)
  | chain declaration => cases same
  | _ => trivial

theorem data_storedItems (items : List Value) (same : storedItems items = items) : AreData items := by
  match items with
  | [] => trivial
  | v :: rest =>
    obtain ⟨first,others⟩ := List.cons.inj same
    exact ⟨data_stored v first,data_storedItems rest others⟩

theorem data_storedEntries (entries : List (Value × Value)) (same : storedEntries entries = entries) :
    EntriesAreData entries := by
  match entries with
  | [] => trivial
  | (k,v) :: rest =>
    obtain ⟨first,others⟩ := List.cons.inj same
    exact ⟨data_stored v (Prod.mk.inj first).2,data_storedEntries rest others⟩

end

theorem stored_same {v : Value} : v.stored = v ↔ v.IsData :=
  ⟨data_stored v,stored_data v⟩

end Value

theorem Entries.data_found {entries : Entries} {name : String} {v : Value}
    (data : Value.EntriesAreData entries) (found : field? entries name = some v) : v.IsData := by
  obtain ⟨key,member⟩ := found_member found
  exact Value.entriesAreData_exact.mp data _ member

namespace Declaration

def IsData (d : Declaration) : Prop :=
  Value.EntriesAreData d.keys

-- Whatever is declared inside plain data is plain data.
mutual

theorem data_value (v : Value) (data : v.IsData) : (ofValue v).Everywhere IsData := by
  cases v with
  | map keys =>
    rw [ofValue]
    cases Kind.read? (Entries.field keys typeKey) with
    | none => exact data
    | some kind =>
      cases kind with
      | array => exact ⟨data,data_nested keys data⟩
      | record => exact ⟨data,data_nested keys data⟩
      | object =>
        cases read : propertiesIn keys with
        | error gap => exact trivial
        | ok properties => exact ⟨data,data_propertiesIn keys data read⟩
      | _ => exact data
  | _ => trivial

theorem data_nested {key : String} (entries : List (Value × Value)) (data : Value.EntriesAreData entries) :
    (nested key entries).Everywhere IsData := by
  match entries with
  | [] => trivial
  | (k,v) :: rest =>
    rw [nested]
    split
    · exact data_value v data.1
    · exact data_nested rest data.2

theorem data_propertiesIn (entries : List (Value × Value)) (data : Value.EntriesAreData entries)
    {properties : List (Value × Declaration)} (read : propertiesIn entries = .ok properties) :
    EverywhereIn IsData properties := by
  match entries with
  | [] => cases read
  | (k,v) :: rest =>
    rw [propertiesIn] at read
    split at read
    · exact data_propertiesOf v data.1 read
    · exact data_propertiesIn rest data.2 read

theorem data_propertiesOf (v : Value) (data : v.IsData) {properties : List (Value × Declaration)}
    (read : propertiesOf v = .ok properties) : EverywhereIn IsData properties := by
  cases v with
  | map entries => cases read; exact data_members entries data
  | _ => cases read

theorem data_members (entries : List (Value × Value)) (data : Value.EntriesAreData entries) :
    EverywhereIn IsData (members entries) := by
  match entries with
  | [] => trivial
  | (_,v) :: rest => exact ⟨data_value v data.1,data_members rest data.2⟩

end

theorem data_throughout {declared : Value} (data : declared.IsData) : Throughout IsData declared := by
  intro properties read
  obtain ⟨entries,fields,rfl,found,rfl⟩ := declarations_exact.mp read
  exact data_members fields (Entries.data_found data found)

end Declaration

namespace Field

def HasDataDefault (f : Field) : Prop :=
  ∀ v, f.default? = some v → v.IsData

end Field

namespace Normal

theorem dateDefault_data {v : Value} (data : v.IsData) : (dateDefault v).IsData := by
  have denoted : v.asMoment.IsData := by
    unfold Value.asMoment
    cases v.toMoment with
    | ok m => trivial
    | error f => exact data
  cases v with
  | date d => exact denoted
  | text s => exact denoted
  | _ => exact data

theorem adopted_data {v : Value} (f : Field) (data : v.IsData) : (adopted f v).IsData := by
  cases f with
  | date h lo hi => exact dateDefault_data data
  | _ => exact data

theorem data_default {name : Value} {d : Declaration} {f : Field} (data : d.IsData)
    (read : (field name d).outcome = .ok f) : f.HasDataDefault := by
  intro v default_
  rw [field_default read] at default_
  obtain ⟨declared,found,rfl⟩ := Option.map_eq_some_iff.mp default_
  exact adopted_data f (Entries.data_found data found)

end Normal

end TemplateSchema
