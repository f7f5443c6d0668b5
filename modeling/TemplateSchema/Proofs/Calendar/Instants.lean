import Mathlib.Data.Nat.Init
import TemplateSchema.Calendar.Moment
/-!
The instant of a moment, by counting. Days are counted from the first one of the calendar on, one after
the other, so that no leap day is passed over and none is made up; the number of a day is its count, and
an instant is so many days, the time of the day, and the distance from universal time taken off.
-/
set_option autoImplicit false
namespace TemplateSchema

namespace Date

def first : Date :=
  ⟨1,1,1,by decide⟩

-- The day after another: in the same month, or the first of the next month, or of the next year.
inductive Follows (e d : Date) : Prop where
  | day (year : e.year = d.year) (month : e.month = d.month) (day : e.day = d.day + 1)
  | month (last : d.day = daysInMonth d.year d.month) (year : e.year = d.year) (month : e.month = d.month + 1)
      (day : e.day = 1)
  | year (last : d.month = 12 ∧ d.day = 31) (year : e.year = d.year + 1) (month : e.month = 1) (day : e.day = 1)

-- The days as they are counted.
inductive IsDay : Date → Nat → Prop where
  | first : IsDay Date.first 1
  | next {d e : Date} {n : Nat} (counted : IsDay d n) (follows : e.Follows d) : IsDay e (n + 1)

section Years

variable {year month : Nat}

theorem beforeMonth_next (positive : 1 ≤ month) :
    daysBeforeMonth year (month + 1) = daysBeforeMonth year month + daysInMonth year month := by
  obtain ⟨m,rfl⟩ := Nat.exists_eq_add_of_le positive
  unfold daysBeforeMonth
  rw [Nat.add_sub_cancel,Nat.add_sub_cancel_left,Nat.add_comm 1 m,List.range_succ,List.map_append,List.foldl_append]
  rfl

-- How often a number divides the years so far.
theorem quotient_next (n : Nat) (positive : 1 ≤ year) :
    year / n = (year - 1) / n + if year % n = 0 then 1 else 0 := by
  obtain ⟨before,rfl⟩ := Nat.exists_eq_add_of_le positive
  rw [Nat.add_comm 1 before,Nat.add_sub_cancel,Nat.succ_div]
  simp only [Nat.dvd_iff_mod_eq_zero]

-- A year is as long as its twelve months.
theorem beforeYear_next (positive : 1 ≤ year) :
    daysBeforeYear (year + 1) = daysBeforeYear year + daysBeforeMonth year 12 + 31 := by
  have months : daysBeforeMonth year 12 = 334 + (if isLeapYear year then 1 else 0) := by
    cases leap : isLeapYear year <;> simp [daysBeforeMonth,List.range_succ,daysInMonth,leap]
  have fourth := quotient_next 4 positive
  have hundredth := quotient_next 100 positive
  have fourHundredth := quotient_next 400 positive
  have fewer : (year - 1) / 100 ≤ (year - 1) / 4 := Nat.div_le_div_left (by decide) (by decide)
  have nested : year % 400 = 0 → year % 100 = 0 := by omega
  have inner : year % 100 = 0 → year % 4 = 0 := by omega
  rw [months]
  unfold daysBeforeYear isLeapYear
  rw [Nat.add_sub_cancel,fourth,hundredth,fourHundredth]
  generalize (year - 1) / 4 = fours at *
  generalize (year - 1) / 100 = hundreds at *
  generalize (year - 1) / 400 = fourHundreds at *
  by_cases q : year % 4 = 0 <;> by_cases h : year % 100 = 0 <;> by_cases f : year % 400 = 0 <;>
    simp [q,h,f] at nested inner ⊢ <;> omega

end Years

variable {d e : Date} {n : Nat}

theorem ordinal_follows (follows : e.Follows d) : e.ordinal = d.ordinal + 1 := by
  obtain ⟨years,_,months,_,_,_⟩ := d.valid
  unfold ordinal
  cases follows with
  | day year month day =>
    rw [year,month,day]
    rfl
  | month last year month day =>
    rw [year,month,day,beforeMonth_next months,last]
    omega
  | year last year month day =>
    rw [year,month,day,beforeYear_next years,last.1,last.2]
    have none_ : daysBeforeMonth (d.year + 1) 1 = 0 := rfl
    omega

theorem length_month (year month : Nat) : 1 ≤ daysInMonth year month := by
  unfold daysInMonth
  split <;> (try split) <;> omega

-- Every day but the first comes after another.
theorem follows_some (d : Date) : d = first ∨ ∃ before, d.Follows before := by
  obtain ⟨year,month,day,valid⟩ := d
  obtain ⟨years,last,months,december,days,length⟩ := valid
  by_cases later : 2 ≤ day
  · exact .inr ⟨⟨year,month,day - 1,by omega,last,months,december,by omega,by omega⟩,.day rfl rfl (by simp; omega)⟩
  obtain rfl : day = 1 := by omega
  by_cases second : 2 ≤ month
  · refine .inr ⟨⟨year,month - 1,daysInMonth year (month - 1),?_⟩,.month rfl rfl (by simp; omega) rfl⟩
    exact ⟨years,last,by omega,by omega,length_month _ _,Nat.le_refl _⟩
  obtain rfl : month = 1 := by omega
  by_cases newer : 2 ≤ year
  · refine .inr ⟨⟨year - 1,12,31,?_⟩,.year ⟨rfl,rfl⟩ (by simp; omega) rfl rfl⟩
    exact ⟨by omega,by omega,by decide,by decide,by decide,Nat.le_refl _⟩
  obtain rfl : year = 1 := by omega
  exact .inl rfl

theorem isDay_exact : d.IsDay n ↔ d.ordinal = n := by
  constructor
  · intro counted
    induction counted with
    | first => decide
    | next _ follows ih => rw [ordinal_follows follows,ih]
  · intro numbered
    induction n generalizing d with
    | zero =>
      obtain ⟨_,_,_,_,days,_⟩ := d.valid
      rw [ordinal] at numbered
      omega
    | succ n ih =>
      rcases follows_some d with rfl | ⟨before,follows⟩
      · obtain rfl : n = 0 := (Nat.succ.inj numbered).symm
        exact .first
      · rw [ordinal_follows follows] at numbered
        exact .next (ih (Nat.succ.inj numbered)) follows

end Date

namespace Moment

-- An instant in microseconds; without an offset, universal time is meant.
inductive IsAt : Moment → Int → Prop where
  | universal {date : Date} {time : TimeOfDay} {n : Nat} (counted : date.IsDay n) :
      IsAt ⟨date,time,none⟩ (n * dayMicroseconds + time.elapsed)
  | offset {date : Date} {time : TimeOfDay} {o : Offset} {n : Nat} (counted : date.IsDay n) :
      IsAt ⟨date,time,some o⟩ (n * dayMicroseconds + time.elapsed - o.microseconds)

theorem isAt_exact {m : Moment} {t : Int} : m.IsAt t ↔ m.instant = t := by
  constructor
  · intro at_
    cases at_ with
    | universal counted => simp [instant,Date.isDay_exact.mp counted]
    | offset counted => simp [instant,Date.isDay_exact.mp counted]
  · rintro rfl
    obtain ⟨date,time,_ | o⟩ := m
    · have counted : date.IsDay date.ordinal := Date.isDay_exact.mpr rfl
      have noted : IsAt ⟨date,time,none⟩ (date.ordinal * dayMicroseconds + time.elapsed) := .universal counted
      simpa [instant] using noted
    · exact .offset (Date.isDay_exact.mpr rfl)

theorem universal_instant (m : Moment) : m.inUniversal.instant = m.instant := by
  obtain ⟨date,time,_ | o⟩ := m <;> rfl

-- The last evening of the first year, seen from west of universal time, is in the second year there.
example : IsAt ⟨⟨1,12,31,by decide⟩,⟨23,0,0,0,by decide⟩,some ⟨-7200000000,by decide⟩⟩
    (366 * dayMicroseconds + 3600000000) :=
  isAt_exact.mpr (by decide +kernel)

end Moment

end TemplateSchema
