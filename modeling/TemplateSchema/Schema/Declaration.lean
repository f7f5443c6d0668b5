import TemplateSchema.Failure
import TemplateSchema.Schema.Kind
import TemplateSchema.Value.Instant
import TemplateSchema.Value.Mapping
/-!
Declarations as authors write them: mappings with a type and keys of their own. Reading one finds
the declarations inside it; what its other keys hold is left to those who use them.
-/
set_option autoImplicit false
namespace TemplateSchema

-- What keeps a declaration from being one.
inductive Gap where
  | missing (key : String)
  | notMapping
  deriving DecidableEq

def Gap.failure : Gap → Failure
  | .missing key => .missingKey (.text key)
  | .notMapping => .notMapping

inductive Declaration where
  | broken (gap : Gap)
  | string (keys : Entries)
  | number (keys : Entries)
  | boolean (keys : Entries)
  | date (keys : Entries)
  | array (keys : Entries) (item : Declaration)
  | object (keys : Entries) (properties : List (Value × Declaration))
  | enum (keys : Entries)
  | record (keys : Entries) (value : Declaration)
  -- A type that names no kind.
  | unknown (keys : Entries)

namespace Declaration

def typeKey : String := "type"
def descriptionKey : String := "description"
def optionalKey : String := "optional"
def defaultKey : String := "default"
def itemsKey : String := "items"
def propertiesKey : String := "properties"
def valuesKey : String := "values"
def fieldsKey : String := "fields"

def ofProperties (keys : Entries) : Except Gap (List (Value × Declaration)) → Declaration
  | .ok properties => .object keys properties
  | .error gap => .broken gap

-- A broken item makes its array broken only when the item is used.
mutual

def ofValue : Value → Declaration
  | .map keys =>
    match Kind.read? (Entries.field keys typeKey) with
    | some .string => .string keys
    | some .number => .number keys
    | some .boolean => .boolean keys
    | some .date => .date keys
    | some .array => .array keys (nested itemsKey keys)
    | some .object => ofProperties keys (propertiesIn keys)
    | some .enum => .enum keys
    | some .record => .record keys (nested valuesKey keys)
    | none => .unknown keys
  | _ => .broken .notMapping

-- The declaration under a key.
def nested (key : String) : List (Value × Value) → Declaration
  | [] => .broken (.missing key)
  | (k, v) :: rest => if Value.same k (.text key) then ofValue v else nested key rest

def propertiesIn : List (Value × Value) → Except Gap (List (Value × Declaration))
  | [] => .error (.missing propertiesKey)
  | (k, v) :: rest =>
    if Value.same k (.text propertiesKey) then propertiesOf v else propertiesIn rest

def propertiesOf : Value → Except Gap (List (Value × Declaration))
  | .map entries => .ok (members entries)
  | _ => .error .notMapping

def members : List (Value × Value) → List (Value × Declaration)
  | [] => []
  | (k, v) :: rest => (k, ofValue v) :: members rest

end

def keys : Declaration → Entries
  | .broken _ => []
  | .string keys => keys
  | .number keys => keys
  | .boolean keys => keys
  | .date keys => keys
  | .array keys _ => keys
  | .object keys _ => keys
  | .enum keys => keys
  | .record keys _ => keys
  | .unknown keys => keys

def isOptional (d : Declaration) : Bool :=
  (Entries.field d.keys optionalKey).isTruthy

def default? (d : Declaration) : Option Value :=
  Entries.field? d.keys defaultKey

-- What a key holds; null counts as nothing.
def given? (keys : Entries) (key : String) : Option Value :=
  match Entries.field? keys key with
  | some .null => none
  | found => found

-- The moment that a key of a date declaration holds.
def dateBound (keys : Entries) (key : String) : Except Failure (Option Moment) :=
  match given? keys key with
  | none => .ok none
  | some v => v.toMoment.map some

-- The name of a field made up for what stands inside another.
def itemName (name : Value) : Value :=
  .text (name.label ++ "Item")

def valueName (name : Value) : Value :=
  .text (name.label ++ "Value")

end Declaration

-- The declarations of a schema, by field.
def declarations (schema : Value) : Except Failure (List (Value × Declaration)) :=
  match schema with
  | .map entries =>
    match Entries.field? entries Declaration.fieldsKey with
    | none => .error (.missingKey (.text Declaration.fieldsKey))
    | some (.map fields) => .ok (Declaration.members fields)
    | some _ => .error .notMapping
  | _ => .error .unsupported

end TemplateSchema
