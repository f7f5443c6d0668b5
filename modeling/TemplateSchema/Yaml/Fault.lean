import TemplateSchema.Calendar.Date
import TemplateSchema.Json.Fault
import TemplateSchema.Text.Quoted
import TemplateSchema.Yaml.Cursor
/-!
Why a text is no YAML document. Most faults are reports: what was being read and from where, and
what is wrong and where, each place shown with its line. The others are scalars whose tag cannot
read them.
-/
set_option autoImplicit false
namespace TemplateSchema.Yaml

structure Report where
  context : Option String
  contextMark : Option Mark
  problem : String
  problemMark : Mark

-- Scalar text that its tag cannot turn into a value.
inductive ScalarFault where
  | notInteger (base : Nat) (text : Text)
  | notFloat (text : Text)
  | digits (count : Nat)
  | notBoolean (text : Text)
  | empty
  | notTimestamp
  -- A mapping stands where the text of a timestamp is read.
  | notText
  | calendar (fault : CalendarFault)
  -- A place of a number in base sixty that no binary64 number reaches.
  | unitTooLarge
  | codePoint
  -- The text of a mapping whose default is that mapping.
  | endless
  -- More than any code point, and more than fits into 31 bits.
  | codeTooLarge

-- The level at which a report arises.
inductive Level where
  | tokens
  | grammar
  | nodes
  | values
  deriving DecidableEq

inductive Flaw where
  | report (level : Level) (report : Report)
  | scalar (fault : ScalarFault)

inductive Fault where
  | character (code position : Nat)
  | flaw (text : List Char) (flaw : Flaw)

-- The line around a place, at most 75 characters of it, and a caret under the place.
def Mark.snippet (text : List Char) (m : Mark) : String :=
  let before := ((text.take m.index).reverse.takeWhile fun c => !isBreakOrEnd c).length
  let after := ((text.drop m.index).takeWhile fun c => !isBreakOrEnd c).length
  let (head, back) := if 37 ≤ before then (" ... ", 32) else ("", before)
  let (tail, ahead) := if 37 ≤ after then (" ... ", 32) else ("", after)
  let shown := (text.drop (m.index - back)).take (back + ahead)
  "    " ++ head ++ String.ofList shown ++ tail ++ "\n" ++
    String.ofList (List.replicate (4 + back + head.length) ' ') ++ "^"

def Mark.describe (text : List Char) (m : Mark) : String :=
  "  in \"<unicode string>\", line " ++ Text.decimal (m.line + 1) ++ ", column " ++
    Text.decimal (m.column + 1) ++ ":\n" ++ m.snippet text

-- The place of the context is left out where it is the place of the problem.
def Report.message (text : List Char) (r : Report) : String :=
  let contextPlace := match r.contextMark with
    | some m =>
      if m.line = r.problemMark.line ∧ m.column = r.problemMark.column then [] else [m.describe text]
    | none => []
  String.intercalate "\n" (r.context.toList ++ contextPlace ++ [r.problem, r.problemMark.describe text])

end Yaml

-- A span of time as messages show it: days, and seconds within the day.
def displayMinutes (minutes : Int) : String :=
  let days := Int.fdiv minutes 1440
  let seconds := Int.fmod minutes 1440 * 60
  let parts :=
    (if days = 0 then [] else ["days=" ++ Text.signedDecimal days]) ++
    (if seconds = 0 then [] else ["seconds=" ++ Text.signedDecimal seconds])
  "datetime.timedelta(" ++ (if parts.isEmpty then "0" else String.intercalate ", " parts) ++ ")"

def CalendarFault.message : CalendarFault → String
  | .year y => "year " ++ Text.decimal y ++ " is out of range"
  | .month => "month must be in 1..12"
  | .day => "day is out of range for month"
  | .hour => "hour must be in 0..23"
  | .minute => "minute must be in 0..59"
  | .second => "second must be in 0..59"
  | .offset minutes =>
    "offset must be a timedelta strictly between -timedelta(hours=24) and timedelta(hours=24), not " ++
      displayMinutes minutes

namespace Yaml

def ScalarFault.message : ScalarFault → String
  | .notInteger base text =>
    "invalid literal for int() with base " ++ Text.decimal base ++ ": " ++
      String.ofList ((Text.quoted text).toList.take 200)
  | .notFloat text => "could not convert string to float: " ++ Text.quoted text
  | .digits count => digitLimitMessage count
  | .notBoolean text => Text.quoted text
  | .empty => "string index out of range"
  | .notTimestamp => "'NoneType' object has no attribute 'groupdict'"
  | .notText => "expected string or bytes-like object, got 'list'"
  | .calendar fault => fault.message
  | .unitTooLarge => "int too large to convert to float"
  | .endless => "maximum recursion depth exceeded"
  | .codePoint => "chr() arg not in range(0x110000)"
  | .codeTooLarge => "Python int too large to convert to C int"

def Fault.message : Fault → String
  | .character code position =>
    "unacceptable character #x" ++ Text.paddedHex 4 code ++
      ": special characters are not allowed\n  in \"<unicode string>\", position " ++ Text.decimal position
  | .flaw text (.report _ r) => r.message text
  | .flaw _ (.scalar f) => f.message

end TemplateSchema.Yaml
