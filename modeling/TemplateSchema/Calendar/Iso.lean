import TemplateSchema.Calendar.Moment
import TemplateSchema.Text.Blank
import TemplateSchema.Text.Digit
/-!
The standard text of dates and moments. Writing always gives the extended form. Reading also
takes the basic form, week dates, a decimal comma, any single character between date and time,
and a `Z` for universal time.
-/
set_option autoImplicit false
namespace TemplateSchema

namespace Offset

-- Seconds and microseconds are written only where they are not zero.
def iso (o : Offset) : String :=
  let size := o.microseconds.natAbs
  let seconds := size / 1000000
  let rest := size % 1000000
  let tail :=
    if rest ≠ 0 then ":" ++ Text.paddedDecimal 2 (seconds % 60) ++ "." ++ Text.paddedDecimal 6 rest
    else if seconds % 60 ≠ 0 then ":" ++ Text.paddedDecimal 2 (seconds % 60)
    else ""
  (if o.microseconds < 0 then "-" else "+") ++ Text.paddedDecimal 2 (seconds / 3600) ++ ":" ++
    Text.paddedDecimal 2 (seconds / 60 % 60) ++ tail

end Offset

namespace TimeOfDay

def iso (t : TimeOfDay) : String :=
  Text.paddedDecimal 2 t.hour ++ ":" ++ Text.paddedDecimal 2 t.minute ++ ":" ++
    Text.paddedDecimal 2 t.second ++
    (if t.microsecond = 0 then "" else "." ++ Text.paddedDecimal 6 t.microsecond)

end TimeOfDay

namespace Moment

def isoWith (separator : String) (m : Moment) : String :=
  m.date.iso ++ separator ++ m.time.iso ++ (m.offset.map Offset.iso).getD ""

def iso (m : Moment) : String :=
  m.isoWith "T"

end Moment

namespace Iso

-- Exactly `count` digits from the front, with the rest.
def digits? : Nat → List Char → Option (Nat × List Char)
  | count, cs =>
    let front := (cs.take count).filterMap Text.asciiDigit?
    if front.length = count then some (Text.natOfDigits 10 front, cs.drop count) else none

-- Monday of week 1 of a year, as a day number: the week that holds the fourth of January.
def firstMonday (year : Nat) : Nat :=
  let newYear := Date.daysBeforeYear year + 1
  let weekday := (newYear + 6) % 7
  if 3 < weekday then newYear + 7 - weekday else newYear - weekday

-- A year has 53 weeks if it starts on a Thursday, or on a Wednesday as a leap year.
def hasLongWeeks (year : Nat) : Bool :=
  let weekday := (Date.daysBeforeYear year + 7) % 7
  weekday == 3 || (weekday == 2 && isLeapYear year)

def ofWeek? (year week day : Nat) : Option Date :=
  if year < 1 ∨ 9999 < year ∨ week < 1 ∨ 53 < week ∨ (week = 53 ∧ hasLongWeeks year = false) ∨
      day < 1 ∨ 7 < day then none
  else Date.ofOrdinal? ((firstMonday year : Int) + ((week : Int) - 1) * 7 + (day : Int) - 1)

-- A date that takes up the characters before `length`; a week without a day is its Monday.
def date? (length : Nat) (cs : List Char) : Option Date := do
  let (year, rest) ← digits? 4 cs
  let dashed := rest.head? == some '-'
  let rest := if dashed then rest.drop 1 else rest
  if rest.head? = some 'W' then
    let (week, tail) ← digits? 2 (rest.drop 1)
    if cs.length - tail.length < length then
      if dashed ∧ tail.head? ≠ some '-' then none
      else
        let (day, _) ← digits? 1 (if dashed then tail.drop 1 else tail)
        ofWeek? year week day
    else ofWeek? year week 1
  else
    let (month, tail) ← digits? 2 rest
    if dashed ∧ tail.head? ≠ some '-' then none
    else
      let (day, _) ← digits? 2 (if dashed then tail.drop 1 else tail)
      Date.of? year month day

-- Where the date ends; a week date leaves room for doubt, settled by the digits that follow.
def dateLength? (cs : List Char) : Option Nat :=
  let size := cs.length
  if size = 7 then some 7
  else if cs[4]? = some '-' then
    if cs[5]? = some 'W' then
      if cs[8]? = some '-' then
        if size = 9 then none
        else if (cs[10]?.map Char.isDigit).getD false then some 8
        else some 10
      else some 8
    else some 10
  else if cs[4]? = some 'W' then
    let stop := 7 + ((cs.drop 7).takeWhile Char.isDigit).length
    if stop < 9 then some stop
    else if stop % 2 = 0 then some 7
    else some 8
  else some 8

-- The numbers of a clock reading, and whether something is left after it.
structure Clock where
  hour : Nat
  minute : Nat
  second : Nat
  microsecond : Nat
  leftover : Bool

-- A zero character ends the text as well.
def atEnd (cs : List Char) : Bool :=
  cs.isEmpty || cs.head? == some '\x00'

-- Up to six digits of a second's fraction; more are read over.
def fraction? (cs : List Char) : Option (Nat × Bool) := do
  let count := min 6 cs.length
  let (value, rest) ← digits? count cs
  some (value * Nat.pow 10 (6 - count), !atEnd (rest.dropWhile Char.isDigit))

-- Reads up to `left` more fields of hours, minutes and seconds, then a fraction. `colons` tells
-- whether fields are set apart, once the first one has been read.
def clockFields? : Nat → Option Bool → List Nat → List Char → Option (List Nat × Nat × Bool)
  | 0, _, done, cs => do
    let (micro, leftover) ← fraction? cs
    some (done, micro, leftover)
  | left + 1, colons, done, cs => do
    let (value, rest) ← digits? 2 cs
    let done := done ++ [value]
    match rest with
    | [] => some (done, 0, false)
    | c :: tail =>
      let colons := colons.getD (c == ':')
      if tail.isEmpty ∧ c.toNat < 128 then some (done, 0, !atEnd rest)
      else if colons ∧ c = ':' then clockFields? left (some colons) done tail
      else if c = '.' ∨ c = ',' then
        let (micro, leftover) ← fraction? tail
        some (done, micro, leftover)
      else if colons then none
      else clockFields? left (some colons) done rest

def clock? (cs : List Char) : Option Clock := do
  let (fields, micro, leftover) ← clockFields? 3 none [] cs
  some ⟨fields.headD 0, (fields.drop 1).headD 0, (fields.drop 2).headD 0, micro, leftover⟩

def isZoneMark (c : Char) : Bool :=
  c == '+' || c == '-' || c == 'Z'

-- Less than a second from universal time is universal time.
def offset? (negative : Bool) (c : Clock) : Option Offset :=
  let seconds := (c.hour * 60 + c.minute) * 60 + c.second
  let size : Int := seconds * 1000000 + c.microsecond
  if seconds = 0 then some Offset.universal
  else Offset.of? (if negative then -size else size)

-- A time of day and, behind a zone mark, an offset.
def time? (cs : List Char) : Option (TimeOfDay × Option Offset) := do
  let clockPart := cs.takeWhile (!isZoneMark ·)
  let clock ← clock? clockPart
  let time ← TimeOfDay.of? clock.hour clock.minute clock.second clock.microsecond
  match cs.dropWhile (!isZoneMark ·) with
  | [] => if clock.leftover then none else some (time, none)
  | 'Z' :: rest => if atEnd rest then some (time, some Offset.universal) else none
  | mark :: rest =>
    let zone ← clock? rest
    if zone.leftover then none
    else
      let offset ← offset? (mark == '-') zone
      some (time, some offset)

end Iso

namespace Moment

-- A date, or a date and a time behind any single character.
def ofIso? (cs : List Char) : Option Moment := do
  let length ← Iso.dateLength? cs
  let date ← Iso.date? length cs
  match cs.drop length with
  | [] => some (midnight date none)
  | _ :: rest =>
    let (time, offset) ← Iso.time? rest
    some ⟨date, time, offset⟩

-- A final `Z` of either case stands for an offset of zero.
def zuluSpelledOut (cs : List Char) : List Char :=
  match cs.reverse with
  | 'Z' :: rest | 'z' :: rest => rest.reverse ++ ['+', '0', '0', ':', '0', '0']
  | _ => cs

-- The moment that a text denotes, in universal time if the text gives no offset.
def read? (text : String) : Option Moment :=
  (ofIso? (zuluSpelledOut (Text.strip Text.isBlank text.toList))).map inUniversal

end Moment

end TemplateSchema
