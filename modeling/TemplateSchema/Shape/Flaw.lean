import TemplateSchema.Number.Shortest
import TemplateSchema.Problem
import TemplateSchema.Schema.Kind
/-!
What a check can find wrong with a value.
-/
set_option autoImplicit false
namespace TemplateSchema

inductive Flaw where
  | missing
  | text
  | encoding
  | shortText (atLeast : Nat)
  | longText (atMost : Nat)
  | format (f : Format)
  | number
  | above (bound : Binary64)
  | below (bound : Binary64)
  | notPositive
  | notANumber
  | fraction
  | truth
  | moment
  | early (bound : Moment)
  | late (bound : Moment)
  | option (options : List Value)
  | list
  | shortList (atLeast actual : Nat)
  | longList (atMost actual : Nat)
  | record
  | model (name : String)

namespace Flaw

def counted (n : Nat) (noun : String) : String :=
  Text.decimal n ++ " " ++ noun ++ (if n = 1 then "" else "s")

def formatLabel : Format → String
  | .email => "email address"
  | .url => "URL"
  | .uuid => "UUID"

-- Alternatives with commas between them and a word before the last.
def alternatives (options : List String) : String :=
  match options.reverse with
  | [] => ""
  | [only] => only
  | last :: before => String.intercalate ", " before.reverse ++ " or " ++ last

def judgement (text : String) : String :=
  "Value error, " ++ text

def message : Flaw → String
  | .missing => "Field required"
  | .text => "Input should be a valid string"
  | .encoding => "Input should be a valid string, unable to parse raw data as a unicode string"
  | .shortText n => "String should have at least " ++ counted n "character"
  | .longText n => "String should have at most " ++ counted n "character"
  | .format f => judgement ("Input should be a valid " ++ formatLabel f)
  | .number => "Input should be a valid number"
  | .above b => "Input should be less than or equal to " ++ b.plain
  | .below b => "Input should be greater than or equal to " ++ b.plain
  | .notPositive => "Input should be greater than 0"
  | .notANumber => judgement "Input should be a number, not NaN"
  | .fraction => judgement "Input should be an integer"
  | .truth => "Input should be a valid boolean"
  | .moment => "Input should be a valid datetime"
  | .early b => judgement ("Date should be on or after " ++ b.iso)
  | .late b => judgement ("Date should be on or before " ++ b.iso)
  | .option options => "Input should be " ++ alternatives (options.map Value.display)
  | .list => "Input should be a valid list"
  | .shortList n actual =>
    "List should have at least " ++ counted n "item" ++ " after validation, not " ++ Text.decimal actual
  | .longList n actual =>
    "List should have at most " ++ counted n "item" ++ " after validation, not " ++ Text.decimal actual
  | .record => "Input should be a valid dictionary"
  | .model name => "Input should be a valid dictionary or instance of " ++ name

end Flaw

end TemplateSchema
