import TemplateSchema.Chain.Fault
import TemplateSchema.Json.Writer
import TemplateSchema.Log
import TemplateSchema.Schema.Misfit
import TemplateSchema.Text.Utf8
import TemplateSchema.Yaml.Fault
/-!
What can go wrong as a whole, by cause, and runs that may fail: what a run noticed before it failed
is kept.
-/
set_option autoImplicit false
namespace TemplateSchema

inductive Failure where
  | missingKey (key : Value)
  -- A mapping was needed where something else stands.
  | notMapping
  -- An operation that the kind of a value has no meaning for.
  | unsupported
  -- A value that is neither a date nor the text of one.
  | notDate (kind : String)
  | invalidDate (value : Value)
  | unwritable (fault : Json.Unwritable)
  | unknownKind (type : Value)
  | entryLength (index length : Nat)
  | nullCharacter
  -- Text with half of a pair in it, where characters are needed.
  | unencodable
  | digits (count : Nat)
  | chain (fault : Chain.Fault)
  | misfits (problems : List (Problem Misfit))
  -- A constraint that no value can be checked against.
  | unusableConstraint
  | json (fault : Json.Fault)
  | configuration (path : String) (fault : Json.Fault)
  | encoding (fault : Utf8.Fault)
  | missingFile (path : String)
  | directory (path : String)
  | notDirectory (path : String)
  | extension (suffix : String)
  | notDocument
  | yaml (fault : Yaml.Fault)

namespace Failure

def configurationText (path : String) : Json.Fault → String
  | .malformed reason _ line column =>
    "Invalid JSON in " ++ Text.quoted path ++ ": " ++ reason.text ++ " (line " ++ Text.decimal line ++
      ", col " ++ Text.decimal column ++ ")"
  | .digits count => digitLimitMessage count

-- The text of a failure, empty where its kind says all.
def message : Failure → String
  | .missingKey key => key.display
  | .notMapping | .unsupported | .unusableConstraint | .unencodable => ""
  | .notDate kind => "Cannot convert " ++ kind ++ " to a date"
  | .invalidDate v => "Invalid date string: " ++ v.display
  | .unwritable (.value kind) => "Object of type " ++ kind ++ " is not JSON serializable"
  | .unwritable (.key _) => ""
  | .unknownKind type => "Unknown field type " ++ type.display
  | .entryLength index length =>
    "dictionary update sequence element #" ++ Text.decimal index ++ " has length " ++ Text.decimal length ++
      "; 2 is required"
  | .nullCharacter => "type name must not contain null characters"
  | .digits count => digitLimitMessage count
  | .chain fault => fault.message
  | .misfits problems => String.intercalate "\n" (problems.map (Problem.line Misfit.message))
  | .json fault => fault.message
  | .configuration path fault => configurationText path fault
  | .encoding fault => fault.message
  | .missingFile path => "[Errno 2] No such file or directory: " ++ Text.quoted path
  | .directory path => "[Errno 21] Is a directory: " ++ Text.quoted path
  | .notDirectory path => "[Errno 20] Not a directory: " ++ Text.quoted path
  | .extension suffix => "unsupported extension " ++ Text.quoted suffix
  | .notDocument => "top level must be a mapping"
  | .yaml fault => fault.message

end Failure

-- Text as it can be written: whole characters.
def Text.written : Text → Except Failure String
  | .whole s => .ok s
  | .torn .. => .error .unencodable

-- The outcome of a run with the records it wrote, the oldest first.
structure Traced (α : Type) where
  outcome : Except Failure α
  records : List LogRecord

namespace Traced

variable {α β : Type}

def done (a : α) : Traced α :=
  ⟨.ok a, []⟩

def failed (f : Failure) : Traced α :=
  ⟨.error f, []⟩

def andThen (x : Traced α) (next : α → Traced β) : Traced β :=
  match x.outcome with
  | .ok a => ⟨(next a).outcome, x.records ++ (next a).records⟩
  | .error f => ⟨.error f, x.records⟩

instance : Monad Traced where
  pure := done
  bind := andThen

def ofExcept : Except Failure α → Traced α
  | .ok a => done a
  | .error f => failed f

def record (severity : Severity) (origin : Origin) (message : String) : Traced Unit :=
  ⟨.ok (), [⟨severity, origin, message⟩]⟩

-- A run over each item in turn, up to the first failure.
def each (f : α → Traced β) : List α → Traced (List β)
  | [] => done []
  | a :: rest => do
    let b ← f a
    let bs ← each f rest
    done (b :: bs)

end Traced

end TemplateSchema
