import TemplateSchema.Text.Decimal
/-!
Why a text is no JSON document, and where that shows.
-/
set_option autoImplicit false
namespace TemplateSchema

-- A longer run of digits is refused wherever an integer is read from text or written as text. What is
-- written is not counted: its count is zero.
def digitLimitMessage (count : Nat) : String :=
  "Exceeds the limit (4300 digits) for integer string conversion" ++
    (if count = 0 then "" else ": value has " ++ Text.decimal count ++ " digits") ++
    "; use sys.set_int_max_str_digits() to increase the limit"

namespace Json

inductive Reason where
  | byteOrderMark
  | propertyName
  | colon
  | comma
  | value
  | extraData
  | controlCharacter
  | escape
  | unicodeEscape
  | unterminated
  deriving DecidableEq

def Reason.text : Reason → String
  | .byteOrderMark => "Unexpected UTF-8 BOM (decode using utf-8-sig)"
  | .propertyName => "Expecting property name enclosed in double quotes"
  | .colon => "Expecting ':' delimiter"
  | .comma => "Expecting ',' delimiter"
  | .value => "Expecting value"
  | .extraData => "Extra data"
  | .controlCharacter => "Invalid control character at"
  | .escape => "Invalid \\escape"
  | .unicodeEscape => "Invalid \\uXXXX escape"
  | .unterminated => "Unterminated string starting at"

inductive Fault where
  -- `position` counts characters from zero, `line` and `column` from one.
  | malformed (reason : Reason) (position line column : Nat)
  | digits (count : Nat)
  deriving DecidableEq

def Fault.message : Fault → String
  | .malformed reason position line column =>
    reason.text ++ ": line " ++ Text.decimal line ++ " column " ++ Text.decimal column ++
      " (char " ++ Text.decimal position ++ ")"
  | .digits count => digitLimitMessage count

end Json

end TemplateSchema
