import TemplateSchema.Text.Decimal
/-!
Dates of the proleptic Gregorian calendar in the years 1 to 9999, counted in days from the first.
-/
set_option autoImplicit false
namespace TemplateSchema

def isLeapYear (year : Nat) : Bool :=
  year % 4 == 0 && (year % 100 != 0 || year % 400 == 0)

def daysInMonth (year month : Nat) : Nat :=
  match month with
  | 2 => if isLeapYear year then 29 else 28
  | 4 | 6 | 9 | 11 => 30
  | _ => 31

def IsDate (year month day : Nat) : Prop :=
  1 ≤ year ∧ year ≤ 9999 ∧ 1 ≤ month ∧ month ≤ 12 ∧ 1 ≤ day ∧ day ≤ daysInMonth year month

instance (year month day : Nat) : Decidable (IsDate year month day) :=
  inferInstanceAs (Decidable (_ ∧ _))

-- Why numbers name no date, time of day or offset from universal time.
inductive CalendarFault where
  | year (year : Nat)
  | month
  | day
  | hour
  | minute
  | second
  | offset (minutes : Int)
  deriving DecidableEq

structure Date where
  year : Nat
  month : Nat
  day : Nat
  valid : IsDate year month day
  deriving DecidableEq

namespace Date

def of? (year month day : Nat) : Option Date :=
  if h : IsDate year month day then some ⟨year, month, day, h⟩ else none

-- The year is examined first, then the month, then the day.
def make (year month day : Nat) : Except CalendarFault Date :=
  if h : IsDate year month day then .ok ⟨year, month, day, h⟩
  else if year < 1 ∨ 9999 < year then .error (.year year)
  else if month < 1 ∨ 12 < month then .error .month
  else .error .day

def daysBeforeYear (year : Nat) : Nat :=
  (year - 1) * 365 + (year - 1) / 4 - (year - 1) / 100 + (year - 1) / 400

def daysBeforeMonth (year month : Nat) : Nat :=
  ((List.range (month - 1)).map fun m => daysInMonth year (m + 1)).foldl (· + ·) 0

-- The first of January of year 1 is day 1.
def ordinal (d : Date) : Nat :=
  daysBeforeYear d.year + daysBeforeMonth d.year d.month + d.day

-- The month and day of a day of the year, counted from one.
def monthAndDay (year : Nat) (days : Nat) : Nat → Nat → Nat × Nat
  | 0, month => (month, days)
  | fuel + 1, month =>
    if days ≤ daysInMonth year month then (month, days)
    else monthAndDay year (days - daysInMonth year month) fuel (month + 1)

def ofOrdinal? (n : Int) : Option Date :=
  if n < 1 then none
  else
    let days := n.toNat
    -- A year is at most 366 days long, so the quotient is one too low at most twice.
    let low := days / 366 + 1
    let year := ((List.range 30).map (low + ·)).foldl
      (fun best y => if daysBeforeYear y < days then y else best) low
    let (month, day) := monthAndDay year (days - daysBeforeYear year) 12 1
    of? year month day

def iso (d : Date) : String :=
  Text.paddedDecimal 4 d.year ++ "-" ++ Text.paddedDecimal 2 d.month ++ "-" ++ Text.paddedDecimal 2 d.day

end Date

end TemplateSchema
