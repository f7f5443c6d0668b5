import TemplateSchema.Calendar.Rfc3339
import TemplateSchema.Problem
import TemplateSchema.Schema.Kind
/-!
Why a value cannot be an attribute of a field.
-/
set_option autoImplicit false
namespace TemplateSchema

inductive Misfit where
  | required
  | unknownAttribute
  | attributeName
  | text
  | encoding
  | integer
  | integerText
  | integerSize
  | fraction
  | notFinite
  | number
  | numberText
  | boolean
  | booleanText
  | tuple
  | format
  | moment
  | momentText (fault : DateTextFault)
  | timestamp (fault : TimestampFault)
  | timestampText (fault : TimestampFault)
  | field
  | noTag
  | unknownTag (tag : String)
  deriving DecidableEq

def concreteKinds : String :=
  String.intercalate ", " (Kind.all.map fun k => Text.quoted k.name)

def Misfit.message : Misfit → String
  | .required => "Field required"
  | .unknownAttribute => "Extra inputs are not permitted"
  | .attributeName => "Keys should be strings"
  | .text => "Input should be a valid string"
  | .encoding => "Input should be a valid string, unable to parse raw data as a unicode string"
  | .integer => "Input should be a valid integer"
  | .integerText => "Input should be a valid integer, unable to parse string as an integer"
  | .integerSize => "Unable to parse input string as an integer, exceeded maximum size"
  | .fraction => "Input should be a valid integer, got a number with a fractional part"
  | .notFinite => "Input should be a finite number"
  | .number => "Input should be a valid number"
  | .numberText => "Input should be a valid number, unable to parse string as a number"
  | .boolean => "Input should be a valid boolean"
  | .booleanText => "Input should be a valid boolean, unable to interpret input"
  | .tuple => "Input should be a valid tuple"
  | .format => "Input should be 'email', 'url' or 'uuid'"
  | .moment => "Input should be a valid datetime"
  | .momentText fault => "Input should be a valid datetime or date, " ++ fault.text
  | .timestamp fault => "Input should be a valid datetime, " ++ fault.text
  | .timestampText fault => "Input should be a valid datetime or date, " ++ fault.text
  | .field => "Input should be a valid dictionary or object to extract fields from"
  | .noTag => "Unable to extract tag using discriminator 'type'"
  | .unknownTag tag =>
    "Input tag '" ++ tag ++ "' found using 'type' does not match any of the expected tags: " ++ concreteKinds

end TemplateSchema
