import TemplateSchema.Calendar.Iso
import TemplateSchema.Number.Shortest
import TemplateSchema.Text.Quoted
import TemplateSchema.Value.Basic
/-!
How messages show a value. `display` shows it as it would be written down, with quotes around
text; `label` shows text as it is and dates in their standard form.
-/
set_option autoImplicit false
namespace TemplateSchema

namespace Offset

def displaySpan (microseconds : Int) : String :=
  let days := Int.fdiv microseconds 86400000000
  let rest := (Int.fmod microseconds 86400000000).toNat
  let parts :=
    (if days = 0 then [] else ["days=" ++ Text.signedDecimal days]) ++
    (if rest / 1000000 = 0 then [] else ["seconds=" ++ Text.decimal (rest / 1000000)]) ++
    (if rest % 1000000 = 0 then [] else ["microseconds=" ++ Text.decimal (rest % 1000000)])
  "datetime.timedelta(" ++ (if parts.isEmpty then "0" else String.intercalate ", " parts) ++ ")"

def display (o : Offset) : String :=
  if o.microseconds = 0 then "datetime.timezone.utc"
  else "datetime.timezone(" ++ displaySpan o.microseconds ++ ")"

end Offset

def Date.display (d : Date) : String :=
  "datetime.date(" ++ String.intercalate ", " ([d.year, d.month, d.day].map Text.decimal) ++ ")"

-- Seconds are left out if they and the microseconds are zero.
def Moment.display (m : Moment) : String :=
  let t := m.time
  let numbers := [m.date.year, m.date.month, m.date.day, t.hour, t.minute] ++
    (if t.microsecond ≠ 0 then [t.second, t.microsecond] else if t.second ≠ 0 then [t.second] else [])
  let zone := (m.offset.map fun o => ["tzinfo=" ++ o.display]).getD []
  "datetime.datetime(" ++ String.intercalate ", " (numbers.map Text.decimal ++ zone) ++ ")"

namespace Value

def displayScalar : Value → String
  | .null => "None"
  | .bool b => if b then "True" else "False"
  | .int n => Text.signedDecimal n
  | .float x => x.display
  | .text s => Text.quoted s
  | .bytes bs => Text.quotedBytes bs
  | .date d => d.display
  | .moment m => m.display
  | _ => ""

mutual

def display : Value → String
  | .list items => "[" ++ String.intercalate ", " (displayItems items) ++ "]"
  | .tuple items =>
    "(" ++ String.intercalate ", " (displayItems items) ++ (if items.length = 1 then ",)" else ")")
  | .set items =>
    if items.isEmpty then "set()"
    else String.ofList ['\x7b'] ++ String.intercalate ", " (displayItems items) ++ String.ofList ['\x7d']
  | .map entries =>
    String.ofList ['\x7b'] ++ String.intercalate ", " (displayEntries entries) ++ String.ofList ['\x7d']
  | .chain entries =>
    "_Chain(sdl=" ++ String.ofList ['\x7b'] ++ String.intercalate ", " (displayEntries entries) ++
      String.ofList ['\x7d', ')']
  | v => displayScalar v

def displayItems : List Value → List String
  | [] => []
  | x :: xs => display x :: displayItems xs

def displayEntries : List (Value × Value) → List String
  | [] => []
  | (k, v) :: rest => (display k ++ ": " ++ display v) :: displayEntries rest

end

-- Text as it is, dates in their standard form, and anything else as it is displayed.
def label : Value → Text
  | .text s => s
  | .date d => d.iso
  | .moment m => m.isoWith " "
  | v => v.display

end Value

end TemplateSchema
