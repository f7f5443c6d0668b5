import TemplateSchema.CommandLine.Arguments
import TemplateSchema.Document.Dates
import TemplateSchema.Document.Initial
import TemplateSchema.Document.Validation
import TemplateSchema.Json.Writer
import TemplateSchema.Schema.Normal
import TemplateSchema.Schema.Stored
import TemplateSchema.Settings
import TemplateSchema.Shape.Check
import TemplateSchema.Shape.Compile
import TemplateSchema.Template.Loading
/-!
What the commands do: print the schema of a template, initial values for a new document, what is
wrong with a document, or the settings in force.
-/
set_option autoImplicit false
namespace TemplateSchema.CommandLine

-- How a command ends: its exit code and the lines that it prints.
structure Report where
  exitCode : Nat
  lines : List String
  deriving DecidableEq

def Report.output (r : Report) : String :=
  String.join (r.lines.map (· ++ "\n"))

def printed (v : Value) : Traced Report := do
  let text ← Traced.ofExcept ((Json.write v).mapError Failure.unwritable)
  pure ⟨0, [text]⟩

def noSchema (template : String) : Report :=
  ⟨1, [template ++ ": no schema found"]⟩

-- Goes on with the schema of a template, if it has one.
def withSchema (s : Surroundings) (template : String) (next : Value → Traced Report) : Traced Report := do
  match ← Template.load s template with
  | some schema => next schema
  | none => pure (noSchema template)

def extract (isNormalized : Bool) (schema : Value) : Traced Report := do
  if isNormalized then
    let fields ← Normal.schema schema
    printed (.map fields.attributes)
  else printed schema

def defaults (now : Moment) (schema : Value) : Traced Report := do
  let fields ← Normal.schema schema
  printed (Document.initialValues now fields)

-- Whether a failure to read values is the document's, so that it is reported and not passed on.
def isReported : Failure → Bool
  | .missingFile _ | .directory _ | .notDirectory _ | .extension _ | .notDocument | .encoding _ | .json _ |
    .digits _ => true
  | .yaml (.flaw _ (.scalar (.notBoolean _))) => false
  | .yaml (.flaw _ (.scalar .empty)) => false
  | .yaml (.flaw _ (.scalar .notTimestamp)) => false
  | .yaml (.flaw _ (.scalar .notText)) => false
  | .yaml (.flaw _ (.scalar .unitTooLarge)) => false
  | .yaml (.flaw _ (.scalar .endless)) => false
  | .yaml (.flaw _ (.scalar .codeTooLarge)) => false
  | .yaml _ => true
  | _ => false

def verdict (values : String) (problems : List String) : Report :=
  if problems.isEmpty then ⟨0, [values ++ ": Validation Passed"]⟩
  else ⟨1, (values ++ ": Validation Failed") :: problems.map ("  - " ++ ·)⟩

def strictLines (settings : Entries) (schema values : Value) : Traced (List String) := do
  let name ← Traced.ofExcept (Settings.modelName settings)
  let shape ← Shape.ofSchema schema name
  pure (Shape.report Format.isMatch shape values)

def judged (settings : Entries) (isStrict : Bool) (path : String) (schema values : Value) : Traced Report := do
  let fields ← Normal.schema schema
  let values ← Traced.ofExcept (Document.coerceDates fields values)
  let complaints ← Traced.ofExcept (Document.report fields values)
  let lines := complaints.map fun (key, c) => key.label ++ ": " ++ c.message
  let more ← if isStrict then strictLines settings schema values else pure []
  let problems ← Traced.ofExcept ((lines ++ more.map Text.whole).mapM Text.written)
  pure (verdict path problems)

-- Judges the document of a file. Where it holds itself, it is gone into for some rounds.
def validateTo (rounds : Nat) (s : Surroundings) (settings : Entries) (isStrict : Bool) (path : String)
    (schema : Value) : Traced Report :=
  match Document.load s rounds path with
  | .ok values => judged settings isStrict path schema values
  | .error f =>
    if isReported f then pure ⟨1, [path ++ ": Failed to read values (" ++ f.message ++ ")"]⟩
    else Traced.failed f

-- No schema looks further into a document than it is high.
def validate (s : Surroundings) (settings : Entries) (isStrict : Bool) (path : String) (schema : Value) :
    Traced Report :=
  validateTo schema.height s settings isStrict path schema

def perform (s : Surroundings) (settings : Entries) : Command → Traced Report
  | .extract template isNormalized => withSchema s template (extract isNormalized)
  | .defaults template => withSchema s template (defaults s.now)
  | .validate template values isStrict =>
    withSchema s template (validate s settings isStrict values)
  | .showSettings => printed (.map settings)
  | .settingsHelp => pure ⟨1, []⟩

-- How a run ends, with the records that it shows.
structure Ended where
  outcome : Except Failure Report
  log : List String

def Halt.exitCode : Halt → Nat
  | .help => 0
  | .misuse => 2

def effective (s : Surroundings) (logLevel : Option String) : Except Failure (Entries × Value) := do
  let settings ← Settings.load s
  let settings ← match logLevel.filter (!·.isEmpty) with
    | some level => Settings.override settings Settings.loggingKey Settings.levelKey (.text level)
    | none => .ok settings
  let level ← Settings.level (.map settings)
  .ok (settings, level)

def run (s : Surroundings) (args : List String) : Ended :=
  match read args with
  | .error halt => ⟨.ok ⟨halt.exitCode, []⟩, []⟩
  | .ok ⟨_, none⟩ => ⟨.ok ⟨1, []⟩, []⟩
  | .ok ⟨logLevel, some command⟩ =>
    match effective s logLevel with
    | .error f => ⟨.error f, []⟩
    | .ok (settings, level) =>
      let done := perform s settings command
      ⟨done.outcome, (done.records.filter (Settings.shows level)).map LogRecord.line⟩

end TemplateSchema.CommandLine
