import Std.Time.DateTime.Timestamp
import TemplateSchema.Calendar.Rfc3339
import TemplateSchema.CommandLine.Commands
/-!
The program: gathers what a command may look at, runs it, and prints what it reports.
-/
set_option autoImplicit false
namespace TemplateSchema.Program

open CommandLine

-- The entry at an absolute path, if there is one that can be read.
def entryAt (path : String) : IO (Option FileEntry) := do
  try
    let contents ← IO.FS.readBinFile path
    return some (.file contents.toList)
  catch
    | .inappropriateType .. => return some .directory
    | _ => return none

def absolute (directory path : FilePath) : FilePath :=
  if path.root.isEmpty then directory.append path.names else path

-- Where names lead from the root: a double point leads back out of a directory.
def resolved (names : List String) : List String :=
  names.foldl (fun here name => if name = ".." then here.dropLast else here ++ [name]) []

-- The entries at the paths that a command may look at, and at every place on the way there.
def entriesAt (paths : List FilePath) : IO Files := do
  let mut entries := []
  for path in paths do
    for count in List.range (path.names.length + 1) do
      let names := path.names.take count
      match ← entryAt { path with names := names }.text with
      | some entry => entries := (resolved names, entry) :: entries
      | none => pure ()
  return ⟨entries⟩

def variableNames : List String :=
  ["DOCSCHEMA_LOG_LEVEL", "DOCSCHEMA_MODEL_NAME"]

def assignmentsNow : IO (List (String × String)) := do
  let mut found := []
  for name in variableNames do
    match ← IO.getEnv name with
    | some v => found := (name, v) :: found
    | none => pure ()
  return found

def momentNow : IO Moment := do
  let t ← Std.Time.Timestamp.now
  let micro := (t.val.nano.val / 1000).toNat
  match Timestamp.ofSeconds t.toSecondsSinceUnixEpoch.val micro with
  | .ok m => return m
  | .error _ => return Moment.midnight ⟨1970, 1, 1, by decide⟩ (some Offset.universal)

def surroundings (args : List String) : IO Surroundings := do
  let directory := FilePath.read (← IO.currentDir).toString
  let home := ((← IO.getEnv "HOME").map FilePath.read).getD directory
  let bare : Surroundings := ⟨directory, home, ⟨[]⟩, ← assignmentsNow, ← momentNow⟩
  let paths := [directory, Settings.userPath bare, Settings.projectPath bare] ++
    args.map fun arg => absolute directory (FilePath.read arg)
  return { bare with files := ← entriesAt paths }

end TemplateSchema.Program

open TemplateSchema in
def main (args : List String) : IO UInt32 := do
  let ended := CommandLine.run (← Program.surroundings args) args
  for line in ended.log do
    IO.eprintln line
  match ended.outcome with
  | .ok report =>
    IO.print report.output
    return report.exitCode.toUInt32
  | .error failure =>
    IO.eprintln failure.message
    return 1
