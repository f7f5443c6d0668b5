/-!
Records of what a run noticed without failing, in the order in which they were written.
-/
set_option autoImplicit false
namespace TemplateSchema

inductive Severity where
  | debug
  | warning
  deriving DecidableEq

namespace Severity

def rank : Severity → Int
  | .debug => 10
  | .warning => 30

def text : Severity → String
  | .debug => "DEBUG"
  | .warning => "WARNING"

end Severity

-- The part of the library that writes a record.
inductive Origin where
  | templates
  | expressions
  | normalization
  | compilation
  | commands
  deriving DecidableEq

def Origin.text : Origin → String
  | .templates => "docschema.core.template.scanner"
  | .expressions => "docschema.core.schema.zod_expr"
  | .normalization => "docschema.core.schema.normalizer"
  | .compilation => "docschema.core.schema.compiler"
  | .commands => "docschema.cli.template"

structure LogRecord where
  severity : Severity
  origin : Origin
  message : String
  deriving DecidableEq

def LogRecord.line (r : LogRecord) : String :=
  r.severity.text ++ " " ++ r.origin.text ++ ": " ++ r.message

end TemplateSchema
