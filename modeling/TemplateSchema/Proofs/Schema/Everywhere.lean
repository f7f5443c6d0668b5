import TemplateSchema.Schema.Declaration
import TemplateSchema.Schema.Field
/-!
Properties of every declaration of a schema and of every field of its normal form, at any depth.
-/
set_option autoImplicit false
namespace TemplateSchema

namespace Declaration

mutual

def Everywhere (P : Declaration → Prop) : Declaration → Prop
  | .array keys item => P (.array keys item) ∧ Everywhere P item
  | .object keys properties => P (.object keys properties) ∧ EverywhereIn P properties
  | .record keys value => P (.record keys value) ∧ Everywhere P value
  | .broken gap => P (.broken gap)
  | .string keys => P (.string keys)
  | .number keys => P (.number keys)
  | .boolean keys => P (.boolean keys)
  | .date keys => P (.date keys)
  | .enum keys => P (.enum keys)
  | .unknown keys => P (.unknown keys)

def EverywhereIn (P : Declaration → Prop) : List (Value × Declaration) → Prop
  | [] => True
  | (_,d) :: rest => Everywhere P d ∧ EverywhereIn P rest

end

theorem Everywhere.here {P : Declaration → Prop} {d : Declaration} (everywhere : Everywhere P d) : P d := by
  cases d with
  | array keys item => exact everywhere.1
  | object keys properties => exact everywhere.1
  | record keys value => exact everywhere.1
  | _ => exact everywhere

theorem everywhereIn_exact {P : Declaration → Prop} {properties : List (Value × Declaration)} :
    EverywhereIn P properties ↔ ∀ entry ∈ properties, Everywhere P entry.2 := by
  induction properties with
  | nil => simp [EverywhereIn]
  | cons entry rest ih => obtain ⟨name,d⟩ := entry; simp [EverywhereIn,ih]

theorem given_field {keys : Entries} {key : String} {v : Value} (given : given? keys key = some v) :
    Entries.field keys key = v := by
  unfold given? at given
  unfold Entries.field Entries.getOrNull
  unfold Entries.field? at given
  cases entry : Entries.get? keys (.text key) with
  | none => rw [entry] at given; cases given
  | some w => cases w <;> rw [entry] at given <;> cases given <;> rfl

theorem given_absent {keys : Entries} {key : String} (absent : given? keys key = none) :
    Entries.field keys key = .null := by
  unfold given? at absent
  unfold Entries.field Entries.getOrNull
  unfold Entries.field? at absent
  cases entry : Entries.get? keys (.text key) with
  | none => rfl
  | some w => cases w <;> rw [entry] at absent <;> cases absent; rfl

-- A declaration has the keys of the mapping that it is read from, or none.
theorem ofValue_keys (v : Value) : (ofValue v).keys = [] ∨ v = .map (ofValue v).keys := by
  cases v with
  | map keys =>
    rw [ofValue]
    cases Kind.read? (Entries.field keys typeKey) with
    | none => exact .inr rfl
    | some kind =>
      cases kind with
      | object =>
        cases propertiesIn keys with
        | error gap => exact .inl rfl
        | ok properties => exact .inr rfl
      | _ => exact .inr rfl
  | _ => exact .inl rfl

theorem default_found {v d : Value} (default_ : (ofValue v).default? = some d) :
    ∃ keys, v = .map keys ∧ Entries.field? keys defaultKey = some d := by
  rcases ofValue_keys v with none_ | same
  · rw [default?,none_] at default_
    cases default_
  · exact ⟨_,same,default_⟩

-- What stands inside a declaration is what a look-up finds.
theorem nested_exact {key : String} {keys : Entries} : nested key keys =
    (Entries.field? keys key).elim (.broken (.missing key)) ofValue := by
  induction keys with
  | nil => rfl
  | cons entry rest ih =>
    obtain ⟨own,v⟩ := entry
    rw [nested,ih]
    cases same : Value.same own (.text key) <;> simp [Entries.field?,Entries.get?,same]

theorem propertiesIn_exact {keys : Entries} : propertiesIn keys =
    (Entries.field? keys propertiesKey).elim (.error (.missing propertiesKey)) propertiesOf := by
  induction keys with
  | nil => rfl
  | cons entry rest ih =>
    obtain ⟨own,v⟩ := entry
    rw [propertiesIn,ih]
    cases same : Value.same own (.text propertiesKey) <;> simp [Entries.field?,Entries.get?,same]

theorem members_map (entries : Entries) :
    members entries = entries.map fun entry => (entry.1,ofValue entry.2) := by
  induction entries with
  | nil => rfl
  | cons entry rest ih => rw [members,ih]; rfl

theorem declarations_exact {schema : Value} {properties : List (Value × Declaration)} :
    declarations schema = .ok properties ↔ ∃ entries fields, schema = .map entries ∧
      Entries.field? entries fieldsKey = some (.map fields) ∧ properties = members fields := by
  constructor
  · intro read
    cases schema with
    | map entries =>
      rw [declarations] at read
      cases found : Entries.field? entries fieldsKey with
      | none => rw [found] at read; cases read
      | some v =>
        rw [found] at read
        cases v <;> cases read
        exact ⟨entries,_,rfl,found,rfl⟩
    | _ => cases read
  · rintro ⟨entries,fields,rfl,found,rfl⟩
    rw [declarations,found]

-- Of every declaration of a schema; one that cannot be read declares nothing.
def Throughout (P : Declaration → Prop) (schema : Value) : Prop :=
  ∀ declared, declarations schema = .ok declared → EverywhereIn P declared

theorem throughout_exact {P : Declaration → Prop} {schema : Value} {declared : List (Value × Declaration)}
    (read : declarations schema = .ok declared) : Throughout P schema ↔ EverywhereIn P declared := by
  constructor
  · intro throughout
    exact throughout _ read
  · intro everywhere again reread
    obtain rfl := Except.ok.inj (read.symm.trans reread)
    exact everywhere

end Declaration

namespace Field

mutual

def Everywhere (Q : Field → Prop) : Field → Prop
  | .array h lo hi item => Q (.array h lo hi item) ∧ Everywhere Q item
  | .object h properties => Q (.object h properties) ∧ EverywhereIn Q properties
  | .record h inner => Q (.record h inner) ∧ Everywhere Q inner
  | .string h lo hi format => Q (.string h lo hi format)
  | .number h lo hi isInteger isPositive => Q (.number h lo hi isInteger isPositive)
  | .boolean h => Q (.boolean h)
  | .date h lo hi => Q (.date h lo hi)
  | .enum h options => Q (.enum h options)

def EverywhereIn (Q : Field → Prop) : List Field → Prop
  | [] => True
  | f :: rest => Everywhere Q f ∧ EverywhereIn Q rest

end

theorem Everywhere.here {Q : Field → Prop} {f : Field} (everywhere : Everywhere Q f) : Q f := by
  cases f with
  | array h lo hi item => exact everywhere.1
  | object h properties => exact everywhere.1
  | record h inner => exact everywhere.1
  | _ => exact everywhere

mutual

theorem Everywhere.imp {P Q : Field → Prop} (weaker : ∀ f, P f → Q f) : {f : Field} → Everywhere P f → Everywhere Q f
  | .array .., everywhere => ⟨weaker _ everywhere.1,everywhere.2.imp weaker⟩
  | .object .., everywhere => ⟨weaker _ everywhere.1,everywhere.2.imp weaker⟩
  | .record .., everywhere => ⟨weaker _ everywhere.1,everywhere.2.imp weaker⟩
  | .string .., here => weaker _ here
  | .number .., here => weaker _ here
  | .boolean _, here => weaker _ here
  | .date .., here => weaker _ here
  | .enum .., here => weaker _ here

theorem EverywhereIn.imp {P Q : Field → Prop} (weaker : ∀ f, P f → Q f) :
    {properties : List Field} → EverywhereIn P properties → EverywhereIn Q properties
  | [], _ => trivial
  | _ :: _, everywhere => ⟨everywhere.1.imp weaker,everywhere.2.imp weaker⟩

end

theorem everywhereIn_exact {Q : Field → Prop} {properties : List Field} :
    EverywhereIn Q properties ↔ ∀ p ∈ properties, Everywhere Q p := by
  induction properties with
  | nil => simp [EverywhereIn]
  | cons p rest ih => simp [EverywhereIn,ih]

end Field

end TemplateSchema
