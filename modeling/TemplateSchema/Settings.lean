import TemplateSchema.Document.Merge
import TemplateSchema.Files
import TemplateSchema.Json.Reader
import TemplateSchema.Text.Uppercase
/-!
Settings in layers: built-in ones, those of the user, those of the project, and variables on top.
The level from which records are shown is one of them.
-/
set_option autoImplicit false
namespace TemplateSchema.Settings

def loggingKey : String := "logging"
def levelKey : String := "level"
def compilerKey : String := "compiler"
def modelNameKey : String := "model_name"

def defaultModelName : String := "DocumentValues"

def builtIn : Entries :=
  [(.text loggingKey, .map [(.text levelKey, .text "WARNING")]),
    (.text compilerKey, .map [(.text modelNameKey, .text defaultModelName)])]

def userPath (s : Surroundings) : FilePath :=
  s.home.append [".config", "docschema", "config.json"]

def projectPath (s : Surroundings) : FilePath :=
  s.directory.append ["docschema.json"]

-- The contents of a file of settings; without the file, none.
def layer (s : Surroundings) (path : FilePath) : Except Failure Value :=
  if s.exists_ path then do
    (Json.read (← s.text path)).mapError (Failure.configuration path.text)
  else .ok (.map [])

def addLayer (lower : Entries) (upper : Value) : Except Failure Entries :=
  match upper with
  | .map entries => .ok (Entries.merge lower entries)
  | _ => .error .notMapping

-- Writes one setting; its section must be a mapping if it is there.
def override (settings : Entries) (section_ key : String) (v : Value) : Except Failure Entries :=
  match Entries.field? settings section_ with
  | none => .ok (Entries.insert settings (.text section_) (.map [(.text key, v)]))
  | some (.map entries) =>
    .ok (Entries.insert settings (.text section_) (.map (Entries.insert entries (.text key) v)))
  | some _ => .error .unsupported

def overrideBy (s : Surroundings) (name section_ key : String) (settings : Entries) : Except Failure Entries :=
  match s.setVariable? name with
  | some v => override settings section_ key (.text v)
  | none => .ok settings

def load (s : Surroundings) : Except Failure Entries := do
  let settings ← addLayer builtIn (← layer s (userPath s))
  let settings ← addLayer settings (← layer s (projectPath s))
  let settings ← overrideBy s "DOCSCHEMA_LOG_LEVEL" loggingKey levelKey settings
  overrideBy s "DOCSCHEMA_MODEL_NAME" compilerKey modelNameKey settings

-- A setting in a section; sections and settings may be missing or null.
def setting (settings : Value) (section_ key : String) : Except Failure Value :=
  match settings with
  | .map entries =>
    match Entries.field entries section_ with
    | .map found => .ok (Entries.field found key)
    | v => if v.isTruthy then .error .notMapping else .ok .null
  | _ => .error .notMapping

def levels : List (String × Int) :=
  [("CRITICAL", 50), ("FATAL", 50), ("ERROR", 40), ("WARN", 30), ("WARNING", 30), ("INFO", 20), ("DEBUG", 10),
    ("NOTSET", 0)]

def defaultLevel : Int := 30

-- A level by number, or by name in any case; any other is the default one.
def resolveLevel (v : Value) : Value :=
  match v with
  | .bool _ => v
  | .int _ => v
  | v =>
    let known := v.label.whole?.bind fun s => levels.lookup (Text.uppercase (Text.trim s))
    .int (if v.isTruthy then known.getD defaultLevel else defaultLevel)

def level (settings : Value) : Except Failure Value :=
  (setting settings loggingKey levelKey).map resolveLevel

-- Whether a record is shown at a level.
def shows (level : Value) (r : LogRecord) : Bool :=
  (level.count?.getD defaultLevel) ≤ r.severity.rank

def modelName (settings : Entries) : Except Failure Value := do
  let name ← setting (.map settings) compilerKey modelNameKey
  .ok (if name.isTruthy then name else .text defaultModelName)

end TemplateSchema.Settings
