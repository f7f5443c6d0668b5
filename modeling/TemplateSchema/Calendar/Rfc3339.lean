import TemplateSchema.Calendar.Moment
import TemplateSchema.Number.Arithmetic
import TemplateSchema.Text.Decimal
/-!
The forms of moments in stored attributes: a date, a date and a time with an optional offset, or a
count of seconds since 1970. Counts beyond twenty thousand million are milliseconds.
-/
set_option autoImplicit false
namespace TemplateSchema

-- Where the text of a date breaks off or goes wrong.
inductive DateTextFault where
  | tooShort
  | yearCharacter
  | separator
  | monthCharacter
  | dayCharacter
  | month
  | day
  | trailing
  deriving DecidableEq

def DateTextFault.text : DateTextFault → String
  | .tooShort => "input is too short"
  | .yearCharacter => "invalid character in year"
  | .separator => "invalid date separator, expected `-`"
  | .monthCharacter => "invalid character in month"
  | .dayCharacter => "invalid character in day"
  | .month => "month value is outside expected range of 1-12"
  | .day => "day value is outside expected range"
  | .trailing => "unexpected extra characters at the end of the input"

inductive TimestampFault where
  | tooEarly
  | tooLate
  | notANumber
  -- The year before the first one has a number, but no dates.
  | yearZero
  deriving DecidableEq

def TimestampFault.text : TimestampFault → String
  | .tooEarly => "dates before 0000 are not supported as unix timestamps"
  | .tooLate => "dates after 9999 are not supported as unix timestamps"
  | .notANumber => "NaN values not permitted"
  | .yearZero => "year 0 is out of range"

namespace Rfc3339

def digit? (b : UInt8) : Option Nat :=
  if 48 ≤ b.toNat ∧ b.toNat ≤ 57 then some (b.toNat - 48) else none

def number? (bytes : List UInt8) : Option Nat := do
  let digits ← bytes.mapM digit?
  some (Text.natOfDigits 10 digits)

def isByte (b : Option UInt8) (c : Char) : Bool :=
  b.map UInt8.toNat == some c.toNat

-- The date at the front of a text; `none` is a day of the year 0.
def leadingDate (bytes : List UInt8) : Except DateTextFault (Option Date) :=
  if bytes.length < 10 then .error .tooShort
  else match number? (bytes.take 4) with
    | none => .error .yearCharacter
    | some year =>
      if !isByte bytes[4]? '-' then .error .separator
      else match number? ((bytes.drop 5).take 2) with
        | none => .error .monthCharacter
        | some month =>
          if !isByte bytes[7]? '-' then .error .separator
          else match number? ((bytes.drop 8).take 2) with
            | none => .error .dayCharacter
            | some day =>
              if month < 1 ∨ 12 < month then .error .month
              else if day < 1 ∨ daysInMonth year month < day then .error .day
              else .ok (Date.of? year month day)

def date (bytes : List UInt8) : Except DateTextFault (Option Date) := do
  let d ← leadingDate bytes
  if 10 < bytes.length then .error .trailing else .ok d

-- Seconds and their fraction, cut off behind six digits; `none` if digits are missing.
def seconds? (bytes : List UInt8) : Option (Nat × Nat × List UInt8) :=
  if !isByte bytes.head? ':' then some (0, 0, bytes)
  else do
    let second ← if bytes.length < 3 then none else number? ((bytes.drop 1).take 2)
    let rest := bytes.drop 3
    if isByte rest.head? '.' || isByte rest.head? ',' then
      let digits := (rest.drop 1).takeWhile fun b => (digit? b).isSome
      if digits.isEmpty then none
      else
        let micro ← number? (digits.take 6)
        some (second, micro * Nat.pow 10 (6 - digits.length), rest.drop (1 + digits.length))
    else some (second, 0, rest)

-- An offset that ends the text, or its absence.
def zone? (bytes : List UInt8) : Option (Option Offset) :=
  match bytes with
  | [] => some none
  | mark :: rest =>
    if isByte (some mark) 'Z' || isByte (some mark) 'z' then
      if rest.isEmpty then some (some Offset.universal) else none
    else do
      let (negative, rest) ←
        if isByte (some mark) '+' then some (false, rest)
        else if isByte (some mark) '-' then some (true, rest)
        else if bytes.take 3 = [226, 136, 146] then some (true, rest.drop 2)
        else none
      let hours ← if rest.length < 2 then none else number? (rest.take 2)
      let rest := rest.drop 2
      let rest := if isByte rest.head? ':' then rest.drop 1 else rest
      let minutes ← if rest.length = 2 then number? rest else none
      if 60 ≤ minutes then none
      else
        let size : Int := (hours * 60 + minutes) * 60000000
        let offset ← Offset.of? (if negative then -size else size)
        some (some offset)

-- A date and a time of day with an optional offset; the inner `none` is a time in the year 0.
def moment? (bytes : List UInt8) : Option (Option Moment) := do
  let date ← (leadingDate bytes).toOption
  let mark := bytes[10]?
  if !(isByte mark 'T' || isByte mark 't' || isByte mark ' ' || isByte mark '_') then none
  else
    let clock := bytes.drop 11
    if clock.length < 5 ∨ isByte clock[2]? ':' = false then none
    else
      let hour ← number? (clock.take 2)
      let minute ← number? ((clock.drop 3).take 2)
      let (second, micro, rest) ← seconds? (clock.drop 5)
      let time ← TimeOfDay.of? hour minute second micro
      let offset ← zone? rest
      some (date.map (⟨·, time, offset⟩))

end Rfc3339

namespace Timestamp

-- The first day of 1970 as a day number.
def epoch : Int := 719163

-- A moment by whole seconds since 1970 and microseconds on top of them.
def ofSeconds (second : Int) (micro : Nat) : Except TimestampFault Moment :=
  let second := second + ((micro / 1000000 : Nat) : Int)
  if second < -62167219200 then .error .tooEarly
  else if second < -62135596800 then .error .yearZero
  else if 253402300799 < second then .error .tooLate
  else
    let rest := (Int.fmod second 86400).toNat
    match Date.ofOrdinal? (epoch + Int.fdiv second 86400),
        TimeOfDay.of? (rest / 3600) (rest / 60 % 60) (rest % 60) (micro % 1000000) with
    | some date, some time => .ok ⟨date, time, some Offset.universal⟩
    | _, _ => .error .tooLate

def ofCount (count : Int) (micro : Nat) : Except TimestampFault Moment :=
  if count.natAbs ≤ 20000000000 then ofSeconds count micro
  else ofSeconds (Int.fdiv count 1000) (micro + (Int.fmod count 1000).toNat * 1000)

def microseconds (fraction : Binary64) : Nat :=
  ((fraction.mul (Binary64.ofRat 1000000)).toRat?.getD 0 + mkRat 1 2).floor.toNat

-- A fraction counts from the whole number below, whichever its sign.
def ofFloat (x : Binary64) : Except TimestampFault Moment :=
  match x with
  | .nan => .error .notANumber
  | .infinite negative => .error (if negative then .tooEarly else .tooLate)
  | .finite .. =>
    let q := x.toRat?.getD 0
    let below := q.floor
    let size := if q < 0 then -q else q
    let micro := microseconds (Binary64.ofRat (size - (size.floor : Rat)))
    if below < -9223372036854775808 then .error .tooEarly
    else if 9223372036854775807 < below then .error .tooLate
    else ofCount below micro

-- A decimal fraction, given in milliseconds if it is large; the whole seconds count as any others.
def ofFraction (x : Binary64) : Except TimestampFault Moment :=
  let q := x.toRat?.getD 0
  let size := if q < 0 then -q else q
  let q := if size ≤ 20000000000 then q else (Binary64.ofRat (q / 1000)).toRat?.getD 0
  ofCount q.floor (microseconds (Binary64.ofRat (q - (q.floor : Rat))))

end Timestamp

end TemplateSchema
