import TemplateSchema.Calendar.Iso
import TemplateSchema.Number.Shortest
import TemplateSchema.Value.Basic
/-!
Writing JSON, two blanks deeper at each level, in ASCII. Dates and moments are written as their
standard text; mappings may have keys that are numbers, truth values or null.
-/
set_option autoImplicit false
namespace TemplateSchema.Json

-- A value, or the key of a mapping, that has no JSON form; `kind` names what it is.
inductive Unwritable where
  | value (kind : String)
  | key (kind : String)
  deriving DecidableEq

def escapeUnit (n : Nat) : String :=
  "\\u" ++ Text.paddedHex 4 n

def escaped (c : Char) : String :=
  if c = '"' then "\\\""
  else if c = '\\' then "\\\\"
  else if c = '\n' then "\\n"
  else if c = '\r' then "\\r"
  else if c = '\t' then "\\t"
  else if c = '\x08' then "\\b"
  else if c = '\x0c' then "\\f"
  else if 0x20 ≤ c.toNat ∧ c.toNat < 0x7F then String.singleton c
  else if c.toNat < 0x10000 then escapeUnit c.toNat
  else
    escapeUnit (0xD800 + (c.toNat - 0x10000) / 0x400) ++ escapeUnit (0xDC00 + (c.toNat - 0x10000) % 0x400)

def escapedPoint : Point → String
  | .char c => escaped c
  | .half h => escapeUnit h.code

def quotedText (t : Text) : String :=
  "\"" ++ String.join (t.points.map escapedPoint) ++ "\""

def floatText : Binary64 → String
  | .nan => "NaN"
  | .infinite negative => if negative then "-Infinity" else "Infinity"
  | x => x.display

def keyText : Value → Except Unwritable Text
  | .text s => .ok s
  | .float x => .ok (floatText x)
  | .bool b => .ok (if b then "true" else "false")
  | .null => .ok "null"
  | .int n => .ok (Text.signedDecimal n)
  | v => .error (.key v.kindName)

def scalarText : Value → Except Unwritable String
  | .null => .ok "null"
  | .bool b => .ok (if b then "true" else "false")
  | .int n => .ok (Text.signedDecimal n)
  | .float x => .ok (floatText x)
  | .text s => .ok (quotedText s)
  | .date d => .ok (quotedText d.iso)
  | .moment m => .ok (quotedText m.iso)
  | v => .error (.value v.kindName)

def lineBreak (depth : Nat) : String :=
  "\n" ++ String.ofList (List.replicate (2 * depth) ' ')

def enclosed (opening closing : Char) (depth : Nat) (parts : List String) : String :=
  if parts.isEmpty then String.ofList [opening, closing]
  else
    String.singleton opening ++ lineBreak (depth + 1) ++
      String.intercalate ("," ++ lineBreak (depth + 1)) parts ++ lineBreak depth ++ String.singleton closing

mutual

def writeAt (depth : Nat) : Value → Except Unwritable String
  | .list items => (writeItems (depth + 1) items).map (enclosed '[' ']' depth)
  | .tuple items => (writeItems (depth + 1) items).map (enclosed '[' ']' depth)
  | .map entries => (writeEntries (depth + 1) entries).map (enclosed '\x7b' '\x7d' depth)
  | v => scalarText v

def writeItems (depth : Nat) : List Value → Except Unwritable (List String)
  | [] => .ok []
  | v :: rest => do
    let first ← writeAt depth v
    let others ← writeItems depth rest
    .ok (first :: others)

def writeEntries (depth : Nat) : List (Value × Value) → Except Unwritable (List String)
  | [] => .ok []
  | (k, v) :: rest => do
    let key ← keyText k
    let item ← writeAt depth v
    let others ← writeEntries depth rest
    .ok ((quotedText key ++ ": " ++ item) :: others)

end

def write (v : Value) : Except Unwritable String :=
  writeAt 0 v

end TemplateSchema.Json
