import TemplateSchema.Schema.Kind
import TemplateSchema.Value.Basic
/-!
Compiled schemas. A shape is all that a check needs to know about a value: bounds are numbers of
the type they are compared in, and names and defaults are settled.
-/
set_option autoImplicit false
namespace TemplateSchema

-- Where a model takes a member from, and what stands in for a missing one.
structure Slot where
  key : String
  default? : Option Value

inductive Shape where
  | text (minLength maxLength : Option Nat) (format : Option Format)
  -- `isNumber` asks for a number other than NaN, `isInteger` for a whole one.
  | number (min max : Option Binary64) (isPositive isNumber isInteger : Bool)
  | truth
  | moment (min max : Option Moment)
  | choice (options : List Value)
  | list (minItems maxItems : Option Nat) (item : Shape)
  | record (value : Shape)
  | model (name : String) (members : List (Slot × Shape))
  -- Null is accepted as well.
  | orNull (inner : Shape)
  -- Null is accepted as well, and empty text as null.
  | orBlank (inner : Shape)

end TemplateSchema
