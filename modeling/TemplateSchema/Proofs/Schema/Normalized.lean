import TemplateSchema.Proofs.Schema.Everywhere
import TemplateSchema.Proofs.Success
import TemplateSchema.Schema.Normal
/-!
What the field of a declaration is, for each kind of declaration. A property of declarations that
one step of normalizing hands on to the field holds of every field, as soon as it holds of every
declaration.
-/
set_option autoImplicit false
namespace TemplateSchema

namespace Normal

open Declaration (given? dateBound)

theorem finish_outcome {α : Type} {reading : Reading α} {a : α} :
    (finish reading).outcome = .ok a ↔ reading = .ok a := by
  rw [finish,Traced.ofExcept_outcome,Success.mapError_exact]

-- The format that a value names, if it is one of the supported ones.
def formatNamed? : Value → Option Format
  | .text s => Format.ofText? s
  | _ => none

theorem formatOf_exact {v : Value} {found : Option Format} (read : formatOf v = .ok found) :
    found = formatNamed? v := by
  cases v with
  | text s => cases read; rfl
  | set items => cases read; rfl
  | _ =>
    simp only [formatOf] at read
    split at read
    · cases read; rfl
    · cases read

theorem format_outcome {name : Value} {keys : Entries} {found : Option Format}
    (read : (format name keys).outcome = .ok found) : found = formatNamed? (Entries.field keys "format") := by
  unfold format at read
  cases given : given? keys "format" with
  | none => rw [given] at read; cases read; rw [Declaration.given_absent given]; rfl
  | some v =>
    rw [given] at read
    rw [Declaration.given_field given]
    simp only at read
    cases named : formatOf v with
    | error f => rw [named] at read; cases read
    | ok reading =>
      have same := formatOf_exact named
      rw [named] at read
      cases reading <;> cases read <;> exact same

theorem constraint_exact {α : Type} {keys : Entries} {key stored : String} {read : Value → Reading α}
    {found : Option α} :
    constraint keys key stored read = .ok found ↔
      (given? keys key = none ∧ found = none) ∨
        ∃ v a, given? keys key = some v ∧ read v = .ok a ∧ found = some a := by
  unfold constraint
  cases given? keys key with
  | none => simp [eq_comm]
  | some v =>
    simp only [Reading.under_exact,Success.map_exact]
    simp [eq_comm]

-- What the field of a declaration is made of.
inductive Normalizes (name : Value) : Declaration → Field → Prop where
  | string {keys : Entries} {h : Header} {lo hi : Option Int} (head : header name keys = .ok h)
      (lower : constraint keys "minLength" "min_length" Attribute.integer = .ok lo)
      (upper : constraint keys "maxLength" "max_length" Attribute.integer = .ok hi) :
      Normalizes name (.string keys) (.string h lo hi (formatNamed? (Entries.field keys "format")))
  | number {keys : Entries} {h : Header} {lo hi : Option Quantity} {isInteger isPositive : Option Bool}
      (head : header name keys = .ok h) (lower : constraint keys "min" "min" Attribute.quantity = .ok lo)
      (upper : constraint keys "max" "max" Attribute.quantity = .ok hi)
      (integer : constraint keys "integer" "is_integer" Attribute.truth = .ok isInteger)
      (positive : constraint keys "positive" "is_positive" Attribute.truth = .ok isPositive) :
      Normalizes name (.number keys) (.number h lo hi isInteger isPositive)
  | boolean {keys : Entries} {h : Header} (head : header name keys = .ok h) :
      Normalizes name (.boolean keys) (.boolean h)
  | date {keys : Entries} {h : Header} {lo hi : Option Moment}
      (head : headerWith name keys ((Entries.field? keys Declaration.defaultKey).map dateDefault) = .ok h)
      (lower : dateBound keys "min" = .ok lo) (upper : dateBound keys "max" = .ok hi) :
      Normalizes name (.date keys) (.date h lo hi)
  | array {keys : Entries} {item : Declaration} {h : Header} {lo hi : Option Int} {inner : Field}
      (head : header name keys = .ok h)
      (lower : constraint keys "minItems" "min_items" Attribute.integer = .ok lo)
      (upper : constraint keys "maxItems" "max_items" Attribute.integer = .ok hi)
      (nested : (field (Declaration.itemName name) item).outcome = .ok inner) :
      Normalizes name (.array keys item) (.array h lo hi inner)
  | object {keys : Entries} {properties : List (Value × Declaration)} {h : Header} {fields : List Field}
      (head : header name keys = .ok h) (nested : (fieldsOf properties).outcome = .ok fields) :
      Normalizes name (.object keys properties) (.object h fields)
  | enum {keys : Entries} {h : Header} {members : List Value} {options : List Text}
      (head : header name keys = .ok h) (listed : (Entries.field keys "options").membersOrNone? = some members)
      (texts : Reading.items Attribute.text 0 members = .ok options) :
      Normalizes name (.enum keys) (.enum h options)
  | record {keys : Entries} {value : Declaration} {h : Header} {inner : Field} (head : header name keys = .ok h)
      (nested : (field (Declaration.valueName name) value).outcome = .ok inner) :
      Normalizes name (.record keys value) (.record h inner)
  | unknown {keys : Entries} {h : Header} (head : header name keys = .ok h) :
      Normalizes name (.unknown keys) (.string h none none none)

theorem field_exact {name : Value} {d : Declaration} {f : Field} (read : (field name d).outcome = .ok f) :
    Normalizes name d f := by
  cases d with
  | broken gap => cases read
  | string keys =>
    rw [field,string,Traced.bind_outcome] at read
    obtain ⟨found,formatted,read⟩ := read
    rw [finish_outcome,Success.map_exact] at read
    obtain ⟨⟨h,lo,hi⟩,read,rfl⟩ := read
    rw [Reading.and_exact,Reading.and_exact] at read
    obtain ⟨head,lower,upper⟩ := read
    rw [format_outcome formatted]
    exact .string head lower upper
  | number keys =>
    rw [field,number,finish_outcome,Success.map_exact] at read
    obtain ⟨⟨h,lo,hi,isInteger,isPositive⟩,read,rfl⟩ := read
    rw [Reading.and_exact,Reading.and_exact,Reading.and_exact,Reading.and_exact] at read
    obtain ⟨head,lower,upper,integer,positive⟩ := read
    exact .number head lower upper integer positive
  | boolean keys =>
    rw [field,finish_outcome,Success.map_exact] at read
    obtain ⟨h,head,rfl⟩ := read
    exact .boolean head
  | date keys =>
    rw [field,date,Traced.bind_outcome] at read
    obtain ⟨lo,lower,read⟩ := read
    rw [Traced.bind_outcome] at read
    obtain ⟨hi,upper,read⟩ := read
    rw [finish_outcome,Success.map_exact] at read
    obtain ⟨h,head,rfl⟩ := read
    rw [Traced.ofExcept_outcome] at lower upper
    exact .date head lower upper
  | array keys item =>
    rw [field,Traced.bind_outcome] at read
    obtain ⟨inner,nested,read⟩ := read
    rw [array,finish_outcome,Success.map_exact] at read
    obtain ⟨⟨h,lo,hi⟩,read,rfl⟩ := read
    rw [Reading.and_exact,Reading.and_exact] at read
    obtain ⟨head,lower,upper⟩ := read
    exact .array head lower upper nested
  | object keys properties =>
    rw [field,Traced.bind_outcome] at read
    obtain ⟨fields,nested,read⟩ := read
    rw [finish_outcome,Success.map_exact] at read
    obtain ⟨h,head,rfl⟩ := read
    exact .object head nested
  | enum keys =>
    rw [field,enum] at read
    cases listed : (Entries.field keys "options").membersOrNone? with
    | none => rw [listed] at read; cases read
    | some members =>
      rw [listed] at read
      simp only [finish_outcome,Success.map_exact] at read
      obtain ⟨⟨h,options⟩,read,rfl⟩ := read
      rw [Reading.and_exact,Reading.under_exact] at read
      exact .enum read.1 listed read.2
  | record keys value =>
    rw [field,Traced.bind_outcome] at read
    obtain ⟨inner,nested,read⟩ := read
    rw [finish_outcome,Success.map_exact] at read
    obtain ⟨h,head,rfl⟩ := read
    exact .record head nested
  | unknown keys =>
    rw [field,Traced.bind_outcome] at read
    obtain ⟨_,_,read⟩ := read
    rw [finish_outcome,Success.map_exact] at read
    obtain ⟨h,head,rfl⟩ := read
    exact .unknown head

theorem headerWith_exact {name : Value} {keys : Entries} {default? : Option Value} {h : Header}
    (read : headerWith name keys default? = .ok h) :
    Attribute.text name = .ok h.name ∧ Attribute.text (description keys) = .ok h.description ∧
      h.isOptional = (Entries.field keys Declaration.optionalKey).isTruthy ∧ h.default? = default? := by
  rw [headerWith,Success.map_exact] at read
  obtain ⟨⟨text,about⟩,read,rfl⟩ := read
  rw [Reading.and_exact,Reading.under_exact,Reading.under_exact] at read
  exact ⟨read.1,read.2,rfl,rfl⟩

-- What a field makes of the default that is declared for it.
def adopted : Field → Value → Value
  | .date .., v => dateDefault v
  | _, v => v

theorem field_default {name : Value} {d : Declaration} {f : Field} (read : (field name d).outcome = .ok f) :
    f.default? = d.default?.map (adopted f) := by
  have shared {keys : Entries} {h : Header} (head : header name keys = .ok h) :
      h.default? = (Entries.field? keys Declaration.defaultKey).map id := by
    rw [(headerWith_exact head).2.2.2,Option.map_id_apply]
  cases field_exact read with
  | date head lower upper => exact (headerWith_exact head).2.2.2
  | string head lower upper => exact shared head
  | number head lower upper integer positive => exact shared head
  | boolean head => exact shared head
  | array head lower upper nested => exact shared head
  | object head nested => exact shared head
  | enum head listed texts => exact shared head
  | record head nested => exact shared head
  | unknown head => exact shared head

-- What a field has from its declaration, whatever its kind.
theorem field_header {name : Value} {d : Declaration} {f : Field} (read : (field name d).outcome = .ok f) :
    Attribute.text name = .ok f.name ∧ f.isOptional = d.isOptional ∧
      f.default?.isSome = d.default?.isSome := by
  have shared {keys : Entries} {default? : Option Value} {h : Header}
      (head : headerWith name keys default? = .ok h) :
      Attribute.text name = .ok h.name ∧ h.isOptional = (Entries.field keys Declaration.optionalKey).isTruthy :=
    ⟨(headerWith_exact head).1,(headerWith_exact head).2.2.1⟩
  rw [field_default read,Option.isSome_map,← and_assoc]
  refine ⟨?_,rfl⟩
  cases field_exact read with
  | date head lower upper => exact shared head
  | string head lower upper => exact shared head
  | number head lower upper integer positive => exact shared head
  | boolean head => exact shared head
  | array head lower upper nested => exact shared head
  | object head nested => exact shared head
  | enum head listed texts => exact shared head
  | record head nested => exact shared head
  | unknown head => exact shared head

section Rows

variable {name : Value} {d : Declaration} {rest : List (Value × Declaration)}

theorem fieldsOf_cons {fields : List Field} : (fieldsOf ((name,d) :: rest)).outcome = .ok fields ↔
    ∃ f fs, (field name d).outcome = .ok f ∧ (fieldsOf rest).outcome = .ok fs ∧ fields = f :: fs := by
  rw [fieldsOf,Traced.bind_outcome]
  constructor
  · rintro ⟨f,first,read⟩
    obtain ⟨fs,others,read⟩ := Traced.bind_outcome.mp read
    cases read
    exact ⟨f,fs,first,others,rfl⟩
  · rintro ⟨f,fs,first,others,rfl⟩
    exact ⟨f,first,Traced.bind_outcome.mpr ⟨fs,others,rfl⟩⟩

theorem schemaOf_cons {rows : Schema} : (schemaOf ((name,d) :: rest)).outcome = .ok rows ↔
    ∃ f fs, (field name d).outcome = .ok f ∧ (schemaOf rest).outcome = .ok fs ∧ rows = (name,f) :: fs := by
  rw [schemaOf,Traced.bind_outcome]
  constructor
  · rintro ⟨f,first,read⟩
    obtain ⟨fs,others,read⟩ := Traced.bind_outcome.mp read
    cases read
    exact ⟨f,fs,first,others,rfl⟩
  · rintro ⟨f,fs,first,others,rfl⟩
    exact ⟨f,first,Traced.bind_outcome.mpr ⟨fs,others,rfl⟩⟩

theorem schema_exact {declared : Value} {rows : Schema} : (schema declared).outcome = .ok rows ↔
    ∃ properties, declarations declared = .ok properties ∧ (schemaOf properties).outcome = .ok rows := by
  simp only [schema,Traced.bind_outcome,Traced.ofExcept_outcome]

end Rows

section Transfer

variable {P : Declaration → Prop} {Q : Field → Prop}

mutual

theorem everywhere_field (step : ∀ name d f, P d → (field name d).outcome = .ok f → Q f) :
    (d : Declaration) → ∀ {name : Value} {f : Field}, d.Everywhere P → (field name d).outcome = .ok f →
      f.Everywhere Q
  | .broken _, _, _, _, read => by cases read
  | .array _ item, _, _, everywhere, read => by
    have here := step _ _ _ everywhere.1 read
    cases field_exact read with
    | array head lower upper nested => exact ⟨here,everywhere_field step item everywhere.2 nested⟩
  | .object _ properties, _, _, everywhere, read => by
    have here := step _ _ _ everywhere.1 read
    cases field_exact read with
    | object head nested => exact ⟨here,everywhere_fields step properties everywhere.2 nested⟩
  | .record _ value, _, _, everywhere, read => by
    have here := step _ _ _ everywhere.1 read
    cases field_exact read with
    | record head nested => exact ⟨here,everywhere_field step value everywhere.2 nested⟩
  | .string _, _, _, everywhere, read => by
    have here := step _ _ _ everywhere read
    cases field_exact read
    exact here
  | .number _, _, _, everywhere, read => by
    have here := step _ _ _ everywhere read
    cases field_exact read
    exact here
  | .boolean _, _, _, everywhere, read => by
    have here := step _ _ _ everywhere read
    cases field_exact read
    exact here
  | .date _, _, _, everywhere, read => by
    have here := step _ _ _ everywhere read
    cases field_exact read
    exact here
  | .enum _, _, _, everywhere, read => by
    have here := step _ _ _ everywhere read
    cases field_exact read
    exact here
  | .unknown _, _, _, everywhere, read => by
    have here := step _ _ _ everywhere read
    cases field_exact read
    exact here

theorem everywhere_fields (step : ∀ name d f, P d → (field name d).outcome = .ok f → Q f) :
    (properties : List (Value × Declaration)) → ∀ {fields : List Field},
      Declaration.EverywhereIn P properties → (fieldsOf properties).outcome = .ok fields →
      Field.EverywhereIn Q fields
  | [], _, _, read => by cases read; trivial
  | (name,d) :: rest, _, everywhere, read => by
    obtain ⟨f,_,first,others,rfl⟩ := fieldsOf_cons.mp read
    exact ⟨everywhere_field step d everywhere.1 first,everywhere_fields step rest everywhere.2 others⟩

end

end Transfer

-- The fields of a document are those of an object, each under the name that it is declared by.
theorem schemaOf_exact {declared : List (Value × Declaration)} {schema : Schema}
    (read : (schemaOf declared).outcome = .ok schema) :
    (fieldsOf declared).outcome = .ok (schema.map Prod.snd) ∧ schema.map Prod.fst = declared.map Prod.fst := by
  induction declared generalizing schema with
  | nil => cases read; exact ⟨rfl,rfl⟩
  | cons entry rest ih =>
    obtain ⟨name,d⟩ := entry
    obtain ⟨f,_,first,others,rfl⟩ := schemaOf_cons.mp read
    obtain ⟨fields,names⟩ := ih others
    exact ⟨fieldsOf_cons.mpr ⟨f,_,first,fields,rfl⟩,by simp [names]⟩

theorem row_declared {declared : List (Value × Declaration)} {schema : Schema} {name : Value} {d : Declaration}
    (read : (schemaOf declared).outcome = .ok schema) (member : (name,d) ∈ declared) :
    ∃ f, (name,f) ∈ schema ∧ (field name d).outcome = .ok f := by
  induction declared generalizing schema with
  | nil => cases member
  | cons entry rest ih =>
    obtain ⟨own,first⟩ := entry
    obtain ⟨f,_,here,others,rfl⟩ := schemaOf_cons.mp read
    rcases List.mem_cons.mp member with same | behind
    · cases same
      exact ⟨f,List.mem_cons_self,here⟩
    · obtain ⟨g,row,found⟩ := ih others behind
      exact ⟨g,List.mem_cons_of_mem _ row,found⟩

-- What holds of every declaration of a schema, handed on to the fields of the document.
theorem everywhere_schema {P : Declaration → Prop} {Q : Field → Prop}
    (step : ∀ name d f, P d → (field name d).outcome = .ok f → Q f) {declared : Value} {fields : Schema}
    (throughout : Declaration.Throughout P declared) (normalized : (schema declared).outcome = .ok fields) :
    Field.EverywhereIn Q (fields.map Prod.snd) := by
  obtain ⟨properties,found,rows⟩ := schema_exact.mp normalized
  exact everywhere_fields step properties (throughout _ found) (schemaOf_exact rows).1

end Normal

end TemplateSchema
