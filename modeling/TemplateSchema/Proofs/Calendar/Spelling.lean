import Mathlib.Data.List.Induction
import TemplateSchema.Proofs.Calendar.Iso
import TemplateSchema.Proofs.Text.Decimal
/-!
The moment that a text spells, with the offset as it stands there, to the microsecond. The reader takes
an offset of less than a second for none; what it reads is what is spelled wherever the offset in the
text is zero or at least a second in size.
-/
set_option autoImplicit false
namespace TemplateSchema

namespace Text

variable {base : Nat} {ds : List Nat}

theorem natOfDigits_lt (small : ∀ d ∈ ds, d < base) : natOfDigits base ds < base ^ ds.length := by
  induction ds using List.reverseRecOn with
  | nil => exact Nat.one_pos
  | append_singleton ds d ih =>
    simp only [List.mem_append,List.mem_singleton] at small
    have front := ih fun d member => small d (.inl member)
    have last := small d (.inr rfl)
    rw [natOfDigits_snoc,List.length_append,List.length_singleton,Nat.pow_succ]
    calc natOfDigits base ds * base + d < natOfDigits base ds * base + base := Nat.add_lt_add_left last _
      _ = (natOfDigits base ds + 1) * base := (Nat.succ_mul _ _).symm
      _ ≤ base ^ ds.length * base := Nat.mul_le_mul_right _ front

end Text

namespace Iso

variable {cs rest : List Char} {n count left micro : Nat} {colons : Option Bool} {done fields : List Nat}
  {leftover : Bool} {clock : Clock}

theorem asciiDigit_small {c : Char} {d : Nat} (digit : Text.asciiDigit? c = some d) : d < 10 := by
  unfold Text.asciiDigit? at digit
  split at digit
  · rename_i isDigit
    cases digit
    have upper : c.toNat ≤ 57 := (Char.isDigit_iff_toNat.mp isDigit).2
    omega
  · cases digit

theorem digits_small (read : digits? count cs = some (n,rest)) : n < 10 ^ count := by
  unfold digits? at read
  simp only at read
  split at read
  · rename_i length
    cases read
    have small := @Text.natOfDigits_lt 10 ((cs.take count).filterMap Text.asciiDigit?) fun d member => by
      obtain ⟨c,_,digit⟩ := List.mem_filterMap.mp member
      exact asciiDigit_small digit
    rwa [length] at small
  · cases read

theorem fraction_small (read : fraction? cs = some (micro,leftover)) : micro < 1000000 := by
  obtain ⟨⟨value,rest⟩,digits,made⟩ := Option.bind_eq_some_iff.mp read
  cases made
  have small := digits_small digits
  have most : min 6 cs.length ≤ 6 := Nat.min_le_left _ _
  generalize min 6 cs.length = size at small most
  calc value * Nat.pow 10 (6 - size) < 10 ^ size * 10 ^ (6 - size) :=
        Nat.mul_lt_mul_of_pos_right small (Nat.pow_pos (by decide))
    _ = 1000000 := by rw [← Nat.pow_add,Nat.add_sub_cancel' most]

theorem fields_small (read : clockFields? left colons done cs = some (fields,micro,leftover)) : micro < 1000000 := by
  induction left generalizing colons done cs with
  | zero =>
    obtain ⟨⟨found,_⟩,fraction,made⟩ := Option.bind_eq_some_iff.mp read
    cases made
    exact fraction_small fraction
  | succ left ih =>
    obtain ⟨⟨value,rest⟩,_,read⟩ := Option.bind_eq_some_iff.mp read
    simp only at read
    split at read
    · cases read; decide
    · split at read
      · cases read; decide
      · split at read
        · exact ih read
        · split at read
          · obtain ⟨⟨found,_⟩,fraction,made⟩ := Option.bind_eq_some_iff.mp read
            cases made
            exact fraction_small fraction
          · split at read
            · cases read
            · exact ih read

theorem clock_small (read : clock? cs = some clock) : clock.microsecond < 1000000 := by
  obtain ⟨⟨fields,micro,_⟩,fields,made⟩ := Option.bind_eq_some_iff.mp read
  cases made
  exact fields_small fields

-- How far a clock behind a sign is from universal time, in microseconds.
def Clock.distance (sign : Char) (c : Clock) : Int :=
  let size : Int := ((c.hour * 60 + c.minute) * 60 + c.second) * 1000000 + c.microsecond
  if sign = '-' then -size else size

-- How far a time of day is from universal time, by what stands behind it.
def zoneDistance? : List Char → Option Int
  | [] => none
  | 'Z' :: _ => some 0
  | sign :: rest => (clock? rest).map (Clock.distance sign)

end Iso

namespace Moment

-- A text as it is read: without the blanks around it, and with a final letter for universal time spelled out.
def spelling (s : String) : List Char :=
  zuluSpelledOut (Text.strip Text.isBlank s.toList)

-- The distance from universal time that stands in a text, if one does.
def distance? (cs : List Char) : Option Int := do
  let length ← Iso.dateLength? cs
  Iso.zoneDistance? ((cs.drop (length + 1)).dropWhile (!Iso.isZoneMark ·))

-- A moment with the date and the time of day that are read from a text, and the offset that stands in it.
def IsSpelled (m : Moment) (s : String) : Prop :=
  ∃ read, ofIso? (spelling s) = some read ∧ m.date = read.date ∧ m.time = read.time ∧
    m.offset.map Offset.microseconds = distance? (spelling s)

-- None, or far enough from zero to be told from it.
def IsFar (distance : Option Int) : Prop :=
  ∀ d, distance = some d → d = 0 ∨ 1000000 ≤ d.natAbs

section Offsets

variable {cs : List Char} {time : TimeOfDay} {offset : Option Offset} {sign : Char} {zone : Iso.Clock} {o : Offset}
  {m : Moment}

theorem offset_spelled (read : Iso.offset? (sign == '-') zone = some o) (small : zone.microsecond < 1000000)
    (far : zone.distance sign = 0 ∨ 1000000 ≤ (zone.distance sign).natAbs) :
    o.microseconds = zone.distance sign := by
  unfold Iso.offset? at read
  unfold Iso.Clock.distance at far ⊢
  simp only [beq_iff_eq] at read far ⊢
  split at read
  · rename_i none_
    cases read
    change (0 : Int) = _
    split at far <;> rename_i side <;> simp only [side,if_true,if_false] <;> omega
  · exact offset_made read

theorem time_spelled (read : Iso.time? cs = some (time,offset))
    (far : IsFar (Iso.zoneDistance? (cs.dropWhile (!Iso.isZoneMark ·)))) :
    offset.map Offset.microseconds = Iso.zoneDistance? (cs.dropWhile (!Iso.isZoneMark ·)) := by
  simp only [Iso.time?,Option.bind_eq_bind,Option.bind_eq_some_iff] at read
  obtain ⟨clock,_,made,_,read⟩ := read
  generalize cs.dropWhile (!Iso.isZoneMark ·) = behind at read far ⊢
  split at read
  · split at read <;> cases read
    rfl
  · split at read <;> cases read
    rfl
  · rename_i sign rest marked
    obtain ⟨zone,clocked,read⟩ := Option.bind_eq_some_iff.mp read
    have given : Iso.zoneDistance? (sign :: rest) = some (zone.distance sign) := by
      rw [Iso.zoneDistance?,clocked]
      · rfl
      · exact marked
    split at read
    · cases read
    · obtain ⟨o,own,same⟩ := Option.bind_eq_some_iff.mp read
      cases same
      rw [given]
      exact congrArg some (offset_spelled own (Iso.clock_small clocked) (far _ given))

-- What is read from a text is what is spelled, if the offset in it is far enough from zero.
theorem read_spelled (read : ofIso? cs = some m) (far : IsFar (distance? cs)) :
    m.offset.map Offset.microseconds = distance? cs := by
  simp only [ofIso?,Option.bind_eq_bind,Option.bind_eq_some_iff] at read
  obtain ⟨length,ends,date,_,read⟩ := read
  simp only [distance?,ends,Option.bind_eq_bind,Option.bind_some,List.drop_add_one_eq_tail_drop] at far ⊢
  split at read
  · rename_i bare
    cases read
    rw [bare]
    rfl
  · rename_i separator rest behind
    obtain ⟨⟨time,offset⟩,timed,read⟩ := Option.bind_eq_some_iff.mp read
    cases read
    rw [behind] at far ⊢
    exact time_spelled timed far

theorem read_isSpelled {s : String} (read : ofIso? (spelling s) = some m) (far : IsFar (distance? (spelling s))) :
    m.IsSpelled s :=
  ⟨m,read,rfl,rfl,read_spelled read far⟩

-- A text spells one instant at most.
theorem spelled_instant {s : String} {n : Moment} (first : m.IsSpelled s) (second : n.IsSpelled s) :
    m.instant = n.instant := by
  obtain ⟨_,read,date,time,offset⟩ := first
  obtain ⟨_,again,sameDate,sameTime,sameOffset⟩ := second
  obtain rfl := Option.some.inj (read.symm.trans again)
  rw [instant,instant,date,time,offset,sameDate,sameTime,sameOffset]

end Offsets

end Moment

end TemplateSchema
