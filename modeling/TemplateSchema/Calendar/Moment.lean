import TemplateSchema.Calendar.Date
/-!
Points in time: a date, a time of day to the microsecond, and an offset from universal time
where one is known. A moment without an offset counts as universal time when two are compared.
-/
set_option autoImplicit false
namespace TemplateSchema

structure TimeOfDay where
  hour : Nat
  minute : Nat
  second : Nat
  microsecond : Nat
  valid : hour < 24 ∧ minute < 60 ∧ second < 60 ∧ microsecond < 1000000
  deriving DecidableEq

namespace TimeOfDay

def midnight : TimeOfDay :=
  ⟨0, 0, 0, 0, by decide⟩

def of? (hour minute second microsecond : Nat) : Option TimeOfDay :=
  if h : hour < 24 ∧ minute < 60 ∧ second < 60 ∧ microsecond < 1000000 then
    some ⟨hour, minute, second, microsecond, h⟩
  else none

def make (hour minute second microsecond : Nat) : Except CalendarFault TimeOfDay :=
  match of? hour minute second microsecond with
  | some t => .ok t
  | none =>
    if 24 ≤ hour then .error .hour else if 60 ≤ minute then .error .minute else .error .second

-- Microseconds since midnight.
def elapsed (t : TimeOfDay) : Nat :=
  ((t.hour * 60 + t.minute) * 60 + t.second) * 1000000 + t.microsecond

end TimeOfDay

def dayMicroseconds : Int := 86400000000

-- A distance from universal time of less than a day.
structure Offset where
  microseconds : Int
  bounded : -86400000000 < microseconds ∧ microseconds < 86400000000
  deriving DecidableEq

namespace Offset

def universal : Offset :=
  ⟨0, by decide⟩

def of? (microseconds : Int) : Option Offset :=
  if h : -86400000000 < microseconds ∧ microseconds < 86400000000 then some ⟨microseconds, h⟩ else none

end Offset

structure Moment where
  date : Date
  time : TimeOfDay
  offset : Option Offset
  deriving DecidableEq

namespace Moment

def midnight (date : Date) (offset : Option Offset) : Moment :=
  ⟨date, TimeOfDay.midnight, offset⟩

-- An unknown offset is read as universal time.
def inUniversal (m : Moment) : Moment :=
  match m.offset with
  | some _ => m
  | none => { m with offset := some Offset.universal }

def isAware (m : Moment) : Bool :=
  m.offset.isSome

-- Microseconds of universal time since the day before the calendar starts.
def instant (m : Moment) : Int :=
  (m.date.ordinal : Int) * dayMicroseconds + (m.time.elapsed : Int) -
    (m.offset.map Offset.microseconds).getD 0

end Moment

end TemplateSchema
