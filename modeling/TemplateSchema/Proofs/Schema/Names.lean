import TemplateSchema.Proofs.Schema.Normalized
import TemplateSchema.Proofs.Value.Entries
/-!
The names of fields. A key that can be read as a name is the same as no other key, so a field is
looked up under its own key alone; and what declares each property once, under a text, gives an
object no two properties of one name.
-/
set_option autoImplicit false
namespace TemplateSchema

namespace Declaration

-- The properties of an object are declared under texts, each of them once.
def HasDistinctNames : Declaration → Prop
  | .object _ properties => (∀ property ∈ properties, ∃ name, property.1 = .text name) ∧
      properties.Pairwise fun property other => Value.same property.1 other.1 = false
  | _ => True

end Declaration

namespace Field

def HasDistinctNames : Field → Prop
  | .object _ properties => (properties.map name).Nodup
  | _ => True

end Field

section Keys

variable {key v : Value} {name : Text}

theorem Value.same_read (read : Attribute.text key = .ok name) : Value.same v key = true ↔ v = key := by
  cases key with
  | text s => exact Value.same_name
  | bytes bs => cases v <;> simp [same,sameScalar,count?]
  | _ => cases read

theorem Value.read_same (read : Attribute.text key = .ok name) : Value.same key v = true ↔ v = key := by
  cases key with
  | text s =>
    cases v with
    | text t => rw [same_text,beq_iff_eq,text.injEq,eq_comm]
    | _ => simp [same,sameScalar,count?]
  | bytes bs =>
    cases v with
    | bytes cs =>
      simp only [same,sameScalar,count?,beq_iff_eq,bytes.injEq]
      exact eq_comm
    | _ => simp [same,sameScalar,count?]
  | _ => cases read

end Keys

-- The keys of a schema that can all be read as names.
def Schema.HasNames (schema : Schema) : Prop :=
  ∀ row ∈ schema, ∃ name, Attribute.text row.1 = .ok name

theorem schemaOf_names {declared : List (Value × Declaration)} {schema : Schema}
    (read : (Normal.schemaOf declared).outcome = .ok schema) : schema.HasNames := by
  induction declared generalizing schema with
  | nil => cases read; intro row member; cases member
  | cons entry rest ih =>
    obtain ⟨key,d⟩ := entry
    obtain ⟨f,_,first,others,rfl⟩ := Normal.schemaOf_cons.mp read
    exact List.forall_mem_cons.mpr ⟨⟨f.name,(Normal.field_header first).1⟩,ih others⟩

theorem schema_names {declared : Value} {schema : Schema}
    (normalized : (Normal.schema declared).outcome = .ok schema) : schema.HasNames := by
  obtain ⟨properties,_,rows⟩ := Normal.schema_exact.mp normalized
  exact schemaOf_names rows

theorem row_found {schema : Schema} {key : Value} {f : Field} (names : schema.HasNames)
    (found : schema.get? key = some f) : (key,f) ∈ schema := by
  obtain ⟨⟨own,g⟩,first,rfl⟩ := Option.map_eq_some_iff.mp found
  have member := List.mem_of_find?_eq_some first
  obtain ⟨name,read⟩ := names _ member
  have same : Value.same own key = true := by simpa using List.find?_some first
  rwa [(Value.read_same read).mp same]

theorem fields_named {properties : List (Value × Declaration)} {fields : List Field}
    (texts : ∀ property ∈ properties, ∃ name, property.1 = .text name)
    (read : (Normal.fieldsOf properties).outcome = .ok fields) :
    properties.map Prod.fst = fields.map fun f => .text f.name := by
  induction properties generalizing fields with
  | nil => cases read; rfl
  | cons property rest ih =>
    obtain ⟨name,d⟩ := property
    obtain ⟨f,_,first,others,rfl⟩ := Normal.fieldsOf_cons.mp read
    obtain ⟨text,rfl⟩ := texts (name,d) List.mem_cons_self
    have named : text = f.name := Except.ok.inj (Normal.field_header first).1
    have behind := ih (fun property member => texts property (List.mem_cons_of_mem _ member)) others
    rw [List.map_cons,List.map_cons,behind,named]

theorem distinct_field {name : Value} {d : Declaration} {f : Field} (distinct : d.HasDistinctNames)
    (read : (Normal.field name d).outcome = .ok f) : f.HasDistinctNames := by
  cases Normal.field_exact read with
  | @object keys properties h fields head nested =>
    obtain ⟨texts,apart⟩ := distinct
    have keys : (properties.map Prod.fst).Pairwise fun key other => Value.same key other = false :=
      List.pairwise_map.mpr apart
    rw [fields_named texts nested,List.pairwise_map] at keys
    refine List.pairwise_map.mpr (keys.imp ?_)
    intro p q different same
    rw [Value.same_text,same,beq_self_eq_true] at different
    cases different
  | _ => trivial

end TemplateSchema
