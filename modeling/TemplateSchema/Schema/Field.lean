import TemplateSchema.Number.Quantity
import TemplateSchema.Schema.Kind
/-!
Fields as the rest of the library sees them: a header that every field has, and the constraints
of its kind. A constraint that nobody asked for is absent.
-/
set_option autoImplicit false
namespace TemplateSchema

-- What every field has. A default may be null, which is not the same as none.
structure Header where
  name : Text
  description : Text
  isOptional : Bool
  default? : Option Value

inductive Field where
  | string (header : Header) (minLength maxLength : Option Int) (format : Option Format)
  | number (header : Header) (min max : Option Quantity) (isInteger isPositive : Option Bool)
  | boolean (header : Header)
  | date (header : Header) (min max : Option Moment)
  | array (header : Header) (minItems maxItems : Option Int) (item : Field)
  | object (header : Header) (properties : List Field)
  | enum (header : Header) (options : List Text)
  | record (header : Header) (value : Field)

namespace Field

def header : Field → Header
  | .string h .. => h
  | .number h .. => h
  | .boolean h => h
  | .date h .. => h
  | .array h .. => h
  | .object h _ => h
  | .enum h _ => h
  | .record h _ => h

def kind : Field → Kind
  | .string .. => .string
  | .number .. => .number
  | .boolean _ => .boolean
  | .date .. => .date
  | .array .. => .array
  | .object .. => .object
  | .enum .. => .enum
  | .record .. => .record

def name (f : Field) : Text :=
  f.header.name

def isOptional (f : Field) : Bool :=
  f.header.isOptional

def default? (f : Field) : Option Value :=
  f.header.default?

end Field

-- The fields of a document by key, in the order of their declaration.
abbrev Schema := List (Value × Field)

namespace Schema

def get? (schema : Schema) (key : Value) : Option Field :=
  (schema.find? fun entry => Value.same entry.1 key).map Prod.snd

end Schema

end TemplateSchema
