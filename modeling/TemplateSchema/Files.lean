import TemplateSchema.Failure
import TemplateSchema.Text.Lines
/-!
A tree of files, and the paths that lead into it. Paths are made of names; empty names and single
points do not count, and a double point leads back out of a directory.
-/
set_option autoImplicit false
namespace TemplateSchema

structure FilePath where
  -- What stands in front of the names of an absolute path.
  root : String
  names : List String
  deriving DecidableEq

namespace FilePath

def splitNames : List Char → List (List Char)
  | [] => [[]]
  | c :: rest =>
    match splitNames rest with
    | [] => [[c]]
    | name :: names => if c = '/' then [] :: name :: names else (c :: name) :: names

-- Two slashes are a root of their own, three are as good as one.
def rootOf (cs : List Char) : String :=
  match (cs.takeWhile (· == '/')).length with
  | 0 => ""
  | 2 => "//"
  | _ => "/"

def read (text : String) : FilePath :=
  let names := (splitNames text.toList).map String.ofList
  ⟨rootOf text.toList, names.filter fun n => n != "" && n != "."⟩

def text (p : FilePath) : String :=
  if p.root.isEmpty && p.names.isEmpty then "." else p.root ++ String.intercalate "/" p.names

-- The path that goes on from another one.
def append (p : FilePath) (names : List String) : FilePath :=
  { p with names := p.names ++ names }

-- The last name from its last point on, unless nothing stands before or behind that point.
def suffix (p : FilePath) : String :=
  let name := (p.names.getLast?.getD "").toList
  let ending := (name.reverse.takeWhile (· != '.')).reverse
  if ending.isEmpty ∨ name.length ≤ ending.length + 1 then "" else String.ofList ('.' :: ending)

end FilePath

inductive FileEntry where
  | file (bytes : List UInt8)
  | directory

-- Files and directories by the names on the way to them; what leads to one is a directory.
structure Files where
  entries : List (List String × FileEntry)

namespace Files

-- The files in a directory, by their paths from there.
def inDirectory (directory : List String) (files : List (String × List UInt8)) : Files :=
  ⟨(directory, .directory) ::
    files.map fun (path, bytes) => (directory ++ (FilePath.read path).names, .file bytes)⟩

-- A file that is given twice has its last contents.
def at? (files : Files) (names : List String) : Option FileEntry :=
  match (files.entries.reverse.find? fun entry => entry.1 == names) with
  | some (_, found) => some found
  | none =>
    if files.entries.any fun entry => entry.1.take names.length == names then some .directory else none

-- The entry at the end of the way from a directory, `shown` being the path in messages.
def walk (files : Files) (shown : String) (here : List String) : List String → Except Failure FileEntry
  | [] => match files.at? here with
    | some entry => .ok entry
    | none => .error (.missingFile shown)
  | name :: rest =>
    match files.at? here with
    | none => .error (.missingFile shown)
    | some (.file _) => .error (.notDirectory shown)
    | some .directory =>
      if name = ".." then walk files shown here.dropLast rest else walk files shown (here ++ [name]) rest

end Files

-- Where a command runs: the working directory, the home directory, the files, the variables that are set, and
-- the time that the clock shows.
structure Surroundings where
  directory : FilePath
  home : FilePath
  files : Files
  assignments : List (String × String)
  now : Moment

namespace Surroundings

def find (s : Surroundings) (path : FilePath) : Except Failure FileEntry :=
  if path.root.isEmpty then s.files.walk path.text s.directory.names path.names
  else s.files.walk path.text [] path.names

def bytes (s : Surroundings) (path : FilePath) : Except Failure (List UInt8) := do
  match ← s.find path with
  | .file bytes => .ok bytes
  | .directory => .error (.directory path.text)

-- The text of a file, with line feeds alone.
def text (s : Surroundings) (path : FilePath) : Except Failure String := do
  let decoded ← (Utf8.decode (← s.bytes path)).mapError Failure.encoding
  .ok (String.ofList (Text.unifiedLines decoded.toList))

def exists_ (s : Surroundings) (path : FilePath) : Bool :=
  match s.find path with
  | .ok _ => true
  | .error _ => false

-- The value of a variable that is set and not empty.
def setVariable? (s : Surroundings) (name : String) : Option String :=
  (s.assignments.reverse.lookup name).filter (!·.isEmpty)

end Surroundings

end TemplateSchema
