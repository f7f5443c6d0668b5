import TemplateSchema.Value.Display
/-!
The kinds of fields, and how a declared type names one: in any case, with blanks around it.
-/
set_option autoImplicit false
namespace TemplateSchema

inductive Kind where
  | string
  | number
  | boolean
  | date
  | array
  | object
  | enum
  | record
  deriving DecidableEq, Repr

namespace Kind

def all : List Kind :=
  [.string, .number, .boolean, .date, .array, .object, .enum, .record]

def name : Kind → String
  | .string => "string"
  | .number => "number"
  | .boolean => "boolean"
  | .date => "date"
  | .array => "array"
  | .object => "object"
  | .enum => "enum"
  | .record => "record"

def ofName? (s : String) : Option Kind :=
  all.find? fun k => k.name == s

-- No letter beyond ASCII has a lower case that occurs in a kind's name.
def read? (type : Value) : Option Kind :=
  type.label.whole?.bind fun s => ofName? (String.ofList ((Text.strip Text.isBlank s.toList).map Char.toLower))

def invalidName : String := "invalid"

-- The name of the kind that a type names, or the name for none.
def readName (type : Value) : String :=
  ((read? type).map name).getD invalidName

end Kind

-- The shapes of text that a string field can ask for.
inductive Format where
  | email
  | url
  | uuid
  deriving DecidableEq, Repr

namespace Format

def all : List Format :=
  [.email, .url, .uuid]

def name : Format → String
  | .email => "email"
  | .url => "url"
  | .uuid => "uuid"

def ofName? (s : String) : Option Format :=
  all.find? fun f => f.name == s

def ofText? (t : Text) : Option Format :=
  t.whole?.bind ofName?

end Format

end TemplateSchema
