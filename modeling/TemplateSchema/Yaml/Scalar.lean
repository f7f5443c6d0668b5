import TemplateSchema.Calendar.Moment
import TemplateSchema.Number.Arithmetic
import TemplateSchema.Number.Numeral
import TemplateSchema.Value.Basic
import TemplateSchema.Yaml.Fault
/-!
Scalars. `implicitTag` gives the tag of plain text from its shape; the readers behind it turn the
text of a tag into a value.
-/
set_option autoImplicit false
namespace TemplateSchema.Yaml

inductive CoreTag where
  | null
  | bool
  | int
  | float
  | binary
  | timestamp
  | orderedMap
  | pairs
  | set
  | text
  | sequence
  | mapping
  | merge
  | value
  deriving DecidableEq

def CoreTag.name : CoreTag → String
  | .null => "null"
  | .bool => "bool"
  | .int => "int"
  | .float => "float"
  | .binary => "binary"
  | .timestamp => "timestamp"
  | .orderedMap => "omap"
  | .pairs => "pairs"
  | .set => "set"
  | .text => "str"
  | .sequence => "seq"
  | .mapping => "map"
  | .merge => "merge"
  | .value => "value"

def coreTagStart : String := "tag:yaml.org,2002:"

def CoreTag.uri (t : CoreTag) : String :=
  coreTagStart ++ t.name

-- The tags that values can be read under; merge keys and default keys have no value of their own.
def readableTags : List CoreTag :=
  [.null, .bool, .int, .float, .binary, .timestamp, .orderedMap, .pairs, .set, .text, .sequence, .mapping]

def readableTag? (uri : String) : Option CoreTag :=
  readableTags.find? fun t => t.uri == uri

def truthWords : List (String × Bool) :=
  [("yes", true), ("no", false), ("true", true), ("false", false), ("on", true), ("off", false)]

def capitalized : List Char → List Char
  | [] => []
  | c :: rest => c.toUpper :: rest

-- A word in lower case, in upper case, or with a capital.
def isWordForm (word : String) (cs : List Char) : Bool :=
  cs == word.toList || cs == word.toList.map Char.toUpper || cs == capitalized word.toList

def isDigitOrLow (c : Char) : Bool :=
  c.isDigit || c == '_'

def withoutSign (cs : List Char) : List Char :=
  (Numeral.splitSign cs).2

def splitAt {α : Type} [BEq α] (mark : α) : List α → List (List α)
  | [] => [[]]
  | c :: rest =>
    match c == mark, splitAt mark rest with
    | true, parts => [] :: parts
    | false, first :: others => (c :: first) :: others
    | false, [] => [[c]]

def isSixtieth : List Char → Bool
  | [d] => d.isDigit
  | [t, d] => '0' ≤ t && t ≤ '5' && d.isDigit
  | _ => false

def isIntegerForm (cs : List Char) : Bool :=
  match withoutSign cs with
  | '0' :: rest =>
    rest.isEmpty || rest.all (fun c => ('0' ≤ c && c ≤ '7') || c == '_') ||
      match rest with
      | 'b' :: ds => !ds.isEmpty && ds.all fun c => c == '0' || c == '1' || c == '_'
      | 'x' :: ds => !ds.isEmpty && ds.all fun c => Text.isHexDigit c || c == '_'
      | _ => false
  | c :: rest =>
    c.isDigit &&
      match splitAt ':' rest with
      | first :: parts => first.all isDigitOrLow && parts.all isSixtieth
      | [] => false
  | [] => false

def isExponentForm : List Char → Bool
  | [] => true
  | e :: s :: ds => (e == 'e' || e == 'E') && (s == '+' || s == '-') && !ds.isEmpty && ds.all Char.isDigit
  | _ => false

def isFloatForm (cs : List Char) : Bool :=
  let unsigned := withoutSign cs
  let whole := unsigned.takeWhile (· != '.')
  match unsigned.dropWhile (· != '.') with
  | [] => false
  | _ :: after =>
    let exponent := after.dropWhile isDigitOrLow
    match whole with
    | [] =>
      isWordForm "inf" after ||
        (unsigned == cs && (after == ['n', 'a', 'n'] || after == ['N', 'a', 'N'] || after == ['N', 'A', 'N'])) ||
        (unsigned == cs && (after.headD ' ').isDigit && isExponentForm exponent)
    | c :: rest =>
      c.isDigit &&
        match splitAt ':' rest with
        | [digits] => digits.all isDigitOrLow && isExponentForm exponent
        | first :: parts => first.all isDigitOrLow && parts.all isSixtieth && exponent.isEmpty
        | [] => false

/-! ### Timestamps -/

structure Timestamp where
  year : Nat
  month : Nat
  day : Nat
  -- Hour, minute, second and the digits of the fraction.
  time : Option (Nat × Nat × Nat × List Char)
  -- `some none` is universal time; otherwise a sign and minutes.
  zone : Option (Option (Bool × Nat))
  -- Month and day have two digits each.
  padded : Bool

def digitsUpTo (least most : Nat) (cs : List Char) : Option (Nat × Nat × List Char) :=
  let ds := (cs.take most).takeWhile Char.isDigit
  if ds.length < least then none
  else some (Text.natOfDigits 10 (ds.map fun d => d.toNat - 48), ds.length, cs.drop ds.length)

def expectChar (mark : Char) : List Char → Option (List Char)
  | [] => none
  | c :: rest => if c = mark then some rest else none

def zone? (cs : List Char) : Option (Option (Option (Bool × Nat))) :=
  match cs with
  | [] => some none
  | _ =>
    match cs.dropWhile Text.isLineBlank with
    | ['Z'] => some (some none)
    | sign :: rest =>
      if sign ≠ '+' ∧ sign ≠ '-' then none
      else do
        let (hours, _, rest) ← digitsUpTo 1 2 rest
        match rest with
        | [] => some (some (some (sign == '-', hours * 60)))
        | _ => do
          let rest ← expectChar ':' rest
          let (minutes, _, rest) ← digitsUpTo 2 2 rest
          if rest.isEmpty then some (some (some (sign == '-', hours * 60 + minutes))) else none
    | [] => none

def timestamp? (cs : List Char) : Option Timestamp := do
  let (year, _, rest) ← digitsUpTo 4 4 cs
  let rest ← expectChar '-' rest
  let (month, monthDigits, rest) ← digitsUpTo 1 2 rest
  let rest ← expectChar '-' rest
  let (day, dayDigits, rest) ← digitsUpTo 1 2 rest
  let padded := monthDigits == 2 && dayDigits == 2
  match rest with
  | [] => some ⟨year, month, day, none, none, padded⟩
  | c :: tail =>
    let clock ←
      if c = 'T' ∨ c = 't' then some tail
      else if Text.isLineBlank c then some (tail.dropWhile Text.isLineBlank)
      else none
    let (hour, _, rest) ← digitsUpTo 1 2 clock
    let rest ← expectChar ':' rest
    let (minute, _, rest) ← digitsUpTo 2 2 rest
    let rest ← expectChar ':' rest
    let (second, _, rest) ← digitsUpTo 2 2 rest
    let (fraction, rest) := match rest with
      | '.' :: tail => (tail.takeWhile Char.isDigit, tail.dropWhile Char.isDigit)
      | _ => ([], rest)
    let zone ← zone? rest
    some ⟨year, month, day, some (hour, minute, second, fraction), zone, padded⟩

def isTimestampForm (cs : List Char) : Bool :=
  match timestamp? cs with
  | some t => t.padded || t.time.isSome
  | none => false

/-! ### Implicit tags -/

-- A final line feed does not count, except that it is no empty text.
def chomped (cs : List Char) : List Char :=
  match cs.reverse with
  | '\n' :: rest => rest.reverse
  | _ => cs

def tagOfShape (text : String) : CoreTag :=
  let cs := chomped text.toList
  if text.isEmpty then .null
  else if truthWords.any fun entry => isWordForm entry.1 cs then .bool
  else if isFloatForm cs then .float
  else if isIntegerForm cs then .int
  else if cs == ['<', '<'] then .merge
  else if cs == ['~'] || isWordForm "null" cs then .null
  else if isTimestampForm cs then .timestamp
  else if cs == ['='] then .value
  else .text

def implicitTag : Text → CoreTag
  | .whole s => tagOfShape s
  | .torn .. => .text

/-! ### Values -/

-- The digits up to the first character that is none, behind blanks and a sign.
def leadingDigits (cs : List Char) : Nat :=
  ((Numeral.splitSign (Text.strip Text.isBlank cs)).2.takeWhile fun c => (Text.digitValue? c).isSome).length

-- Half of a pair is neither a digit nor a blank.
def characters (ps : List Point) : List Char :=
  ps.map fun p => p.char?.getD '?'

def readInteger (base : Nat) (ps : List Point) : Except ScalarFault Int :=
  let cs := characters ps
  if base = 10 ∧ Numeral.digitLimit < leadingDigits cs then .error (.digits (leadingDigits cs))
  else match Numeral.integer? base cs with
    | some n => .ok n
    | none => .error (.notInteger base (Text.ofPoints ps))

-- The places of a number in base sixty, the last one first.
def sixtieths (parts : List Int) : Int :=
  (parts.foldl (fun (total, unit) part => (total + part * unit, unit * 60)) ((0 : Int), (1 : Int))).1

def splitSign : List Point → Bool × List Point
  | .char '-' :: rest => (true, rest)
  | .char '+' :: rest => (false, rest)
  | ps => (false, ps)

def integerValue (text : Text) : Except ScalarFault Value := do
  let ps := text.points.filter (· != .char '_')
  if ps.isEmpty then .error .empty
  else
    let (negative, rest) := splitSign ps
    let size ← match rest with
      | [] => .error .empty
      | [.char '0'] => .ok 0
      | .char '0' :: .char 'b' :: ds => readInteger 2 ds
      | .char '0' :: .char 'x' :: ds => readInteger 16 ds
      | .char '0' :: _ => readInteger 8 rest
      | _ =>
        if rest.contains (.char ':') then do
          let parts ← (splitAt (.char ':') rest).mapM (readInteger 10)
          .ok (sixtieths parts.reverse)
        else readInteger 10 rest
    .ok (.int (if negative then -size else size))

def readFloat (ps : List Point) : Except ScalarFault Binary64 :=
  match Numeral.float? (characters ps) with
  | some x => .ok x
  | none => .error (.notFloat (Text.ofPoints ps))

def floatSixtieths (parts : List Binary64) : Except ScalarFault Binary64 := do
  let (total, _) ← parts.foldlM (fun (total, unit) part =>
    match Binary64.ofInt? unit with
    | some x => .ok (total.add (part.mul x), unit * 60)
    | none => .error .unitTooLarge) (Binary64.zero false, (1 : Int))
  .ok total

def floatValue (text : Text) : Except ScalarFault Value := do
  let ps := (text.points.filter (· != .char '_')).map (Point.map Char.toLower)
  if ps.isEmpty then .error .empty
  else
    let (negative, rest) := splitSign ps
    if characters rest == ['.', 'n', 'a', 'n'] then .ok (.float .nan)
    else
      let size ←
        if characters rest == ['.', 'i', 'n', 'f'] then .ok (.infinite false)
        else if rest.contains (.char ':') then do
          let parts ← (splitAt (.char ':') rest).mapM readFloat
          floatSixtieths parts.reverse
        else readFloat rest
      .ok (.float (if negative then size.neg else size))

def boolValue (text : Text) : Except ScalarFault Value :=
  let word := Text.ofPoints (text.points.map (Point.map Char.toLower))
  match truthWords.find? fun entry => (entry.1 : Text) == word with
  | some (_, b) => .ok (.bool b)
  | none => .error (.notBoolean word)

-- The offset is examined before the date, and the date before the time.
def timestampValue (text : Text) : Except ScalarFault Value :=
  match text.whole?.bind fun s => timestamp? (chomped s.toList) with
  | none => .error .notTimestamp
  | some t =>
    match t.time with
    | none => (Date.make t.year t.month t.day).map Value.date |>.mapError .calendar
    | some (hour, minute, second, fraction) => do
      let micro := Text.natOfDigits 10
        ((((fraction ++ List.replicate 6 '0').take 6)).map fun d => d.toNat - 48)
      let offset ← match t.zone with
        | none => .ok none
        | some none => .ok (some Offset.universal)
        | some (some (negative, minutes)) =>
          let signed : Int := if negative then -(minutes : Int) else minutes
          match Offset.of? (signed * 60000000) with
          | some o => .ok (some o)
          | none => .error (.calendar (.offset signed))
      let date ← (Date.make t.year t.month t.day).mapError .calendar
      let time ← (TimeOfDay.make hour minute second micro).mapError .calendar
      .ok (.moment ⟨date, time, offset⟩)

end TemplateSchema.Yaml
