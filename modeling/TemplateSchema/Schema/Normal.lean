import TemplateSchema.Schema.Attribute
import TemplateSchema.Schema.Declaration
import TemplateSchema.Schema.Field
import TemplateSchema.Value.Instant
import TemplateSchema.Value.Members
/-!
From declarations to fields. Only constraints that were declared are carried over. An unknown type
gives a string field without constraints, an unsupported format none; both are recorded.
-/
set_option autoImplicit false
namespace TemplateSchema.Normal

open Declaration (given? dateBound)

def note (message : String) : Traced Unit :=
  Traced.record .debug .normalization message

def finish {α : Type} (reading : Reading α) : Traced α :=
  Traced.ofExcept (reading.mapError Failure.misfits)

-- The value of a description; anything that counts as false is an empty one.
def description (keys : Entries) : Value :=
  let v := Entries.field keys Declaration.descriptionKey
  if v.isTruthy then v else .text ""

def headerWith (name : Value) (keys : Entries) (default? : Option Value) : Reading Header :=
  ((Reading.under (.name "name") (Attribute.text name)).and
    (Reading.under (.name "description") (Attribute.text (description keys)))).map
  fun (name, description) =>
    ⟨name, description, (Entries.field keys Declaration.optionalKey).isTruthy, default?⟩

def header (name : Value) (keys : Entries) : Reading Header :=
  headerWith name keys (Entries.field? keys Declaration.defaultKey)

-- A constraint that is declared under `key` and kept as `stored`.
def constraint {α : Type} (keys : Entries) (key stored : String) (read : Value → Reading α) :
    Reading (Option α) :=
  match given? keys key with
  | none => .ok none
  | some v => Reading.under (.name stored) ((read v).map some)

-- A set is compared by its members, so it is unsupported and no more.
def formatOf (v : Value) : Except Failure (Option Format) :=
  match v with
  | .text s => .ok (Format.ofText? s)
  | .set _ => .ok none
  | v => if v.isHashable then .ok none else .error .unsupported

def format (name : Value) (keys : Entries) : Traced (Option Format) :=
  match given? keys "format" with
  | none => pure none
  | some v =>
    match formatOf v with
    | .error f => Traced.failed f
    | .ok (some found) => pure (some found)
    | .ok none => do
      note ("Field " ++ name.display ++ " has unsupported string format " ++ v.display ++ "; ignoring it")
      pure none

def string (name : Value) (keys : Entries) : Traced Field := do
  let format ← format name keys
  finish (((header name keys).and <|
    (constraint keys "minLength" "min_length" Attribute.integer).and <|
    constraint keys "maxLength" "max_length" Attribute.integer).map
    fun (h, minLength, maxLength) => .string h minLength maxLength format)

def number (name : Value) (keys : Entries) : Traced Field :=
  finish (((header name keys).and <|
    (constraint keys "min" "min" Attribute.quantity).and <|
    (constraint keys "max" "max" Attribute.quantity).and <|
    (constraint keys "integer" "is_integer" Attribute.truth).and <|
    constraint keys "positive" "is_positive" Attribute.truth).map
    fun (h, min, max, isInteger, isPositive) => .number h min max isInteger isPositive)

-- A default that denotes a moment is one.
def dateDefault (v : Value) : Value :=
  match v with
  | .date _ | .text _ => v.asMoment
  | _ => v

def date (name : Value) (keys : Entries) : Traced Field := do
  let min ← Traced.ofExcept (dateBound keys "min")
  let max ← Traced.ofExcept (dateBound keys "max")
  finish ((headerWith name keys ((Entries.field? keys Declaration.defaultKey).map dateDefault)).map
    fun h => .date h min max)

def array (name : Value) (keys : Entries) (item : Field) : Traced Field :=
  finish (((header name keys).and <|
    (constraint keys "minItems" "min_items" Attribute.integer).and <|
    constraint keys "maxItems" "max_items" Attribute.integer).map
    fun (h, minItems, maxItems) => .array h minItems maxItems item)

def enum (name : Value) (keys : Entries) : Traced Field :=
  match (Entries.field keys "options").membersOrNone? with
  | none => Traced.failed .unsupported
  | some options =>
    finish (((header name keys).and
      (Reading.under (.name "options") (Reading.items Attribute.text 0 options))).map
      fun (h, options) => .enum h options)

mutual

def field (name : Value) : Declaration → Traced Field
  | .broken gap => Traced.failed gap.failure
  | .string keys => string name keys
  | .number keys => number name keys
  | .boolean keys => finish ((header name keys).map Field.boolean)
  | .date keys => date name keys
  | .array keys item => do
    let item ← field (Declaration.itemName name) item
    array name keys item
  | .object keys properties => do
    let properties ← fieldsOf properties
    finish ((header name keys).map fun h => .object h properties)
  | .enum keys => enum name keys
  | .record keys value => do
    let value ← field (Declaration.valueName name) value
    finish ((header name keys).map fun h => .record h value)
  | .unknown keys => do
    note ("Field " ++ name.display ++ " has unknown type " ++
      (Entries.field keys Declaration.typeKey).display ++ "; treating it as a string")
    finish ((header name keys).map fun h => .string h none none none)

def fieldsOf : List (Value × Declaration) → Traced (List Field)
  | [] => pure []
  | (name, d) :: rest => do
    let f ← field name d
    let fs ← fieldsOf rest
    pure (f :: fs)

end

def schemaOf : List (Value × Declaration) → Traced Schema
  | [] => pure []
  | (name, d) :: rest => do
    let f ← field name d
    let fs ← schemaOf rest
    pure ((name, f) :: fs)

-- The fields that a schema declares.
def schema (declared : Value) : Traced Schema := do
  schemaOf (← Traced.ofExcept (declarations declared))

end TemplateSchema.Normal
