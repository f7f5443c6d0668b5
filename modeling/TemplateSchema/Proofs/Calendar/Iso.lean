import TemplateSchema.Calendar.Iso
import TemplateSchema.Proofs.Text.Decimal
/-!
The standard text of a moment, read again: the same moment, but for an offset of less than a second,
which is read as universal time.
-/
set_option autoImplicit false
namespace TemplateSchema

open Text (Spells paddedDecimal)

namespace Iso

variable {n left : Nat} {cs rest : List Char}

theorem digits_spelled (rest : List Char) (spells : Spells Text.asciiDigit? 10 cs n) :
    digits? cs.length (cs ++ rest) = some (n,rest) := by
  obtain ⟨length,value⟩ := spells.filterMap
  simp only [digits?,List.take_left,List.drop_left,length,value,if_true]

theorem padded_length (width : Nat) (positive : 0 < width) (fits : n < 10 ^ width) :
    (paddedDecimal width n).toList.length = width := by
  rw [paddedDecimal,String.toList_ofList]
  exact Text.padded_length 10 width (by decide) positive fits

theorem padded_digits (width n : Nat) : ∀ c ∈ (paddedDecimal width n).toList, c.isDigit = true := by
  intro c member
  rw [paddedDecimal,String.toList_ofList] at member
  rcases List.mem_append.mp member with zero | digit
  · rw [(List.mem_replicate.mp zero).2]; rfl
  · exact Nat.isDigit_of_mem_toDigits (by decide) (by decide) digit

theorem padded_reads (width : Nat) (rest : List Char) (positive : 0 < width) (fits : n < 10 ^ width) :
    digits? width ((paddedDecimal width n).toList ++ rest) = some (n,rest) := by
  have spells : Spells Text.asciiDigit? 10 (paddedDecimal width n).toList n := by
    rw [paddedDecimal,String.toList_ofList]
    exact Text.padded_spells 10 (by decide) Text.knows_ascii width n
  have read := digits_spelled rest spells
  rwa [padded_length width positive fits] at read

theorem two_digits (fits : n < 100) :
    ∃ a b, (paddedDecimal 2 n).toList = [a,b] ∧ a.isDigit = true := by
  have length := padded_length 2 (by decide) fits
  have digits := padded_digits 2 n
  generalize (paddedDecimal 2 n).toList = cs at length digits
  match cs, length with
  | [a,b], _ => exact ⟨a,b,rfl,digits a List.mem_cons_self⟩

theorem two_more (rest : List Char) (fits : n < 100) : (paddedDecimal 2 n).toList ++ rest ≠ [] := by
  obtain ⟨a,b,two,_⟩ := two_digits fits
  rw [two]
  exact List.cons_ne_nil _ _

-- The fields of a clock text are taken off one at a time: the last one, one in front of a colon, or
-- the seconds in front of their fraction.
section Fields

variable {colons : Option Bool} {done : List Nat}

theorem clock_last (fits : n < 100) :
    clockFields? (left + 1) colons done (paddedDecimal 2 n).toList = some (done ++ [n],0,false) := by
  have read := padded_reads 2 [] (by decide) fits
  rw [List.append_nil] at read
  rw [clockFields?,read]
  rfl

theorem clock_colon (fits : n < 100) (set : colons.getD true = true) (more : rest ≠ []) :
    clockFields? (left + 1) colons done ((paddedDecimal 2 n).toList ++ ':' :: rest) =
      clockFields? left (some true) (done ++ [n]) rest := by
  rw [clockFields?,padded_reads 2 _ (by decide) fits]
  simp [set,more]

theorem clock_fraction {micro : Nat} (fits : n < 100) (small : micro < 1000000) :
    clockFields? (left + 1) colons done ((paddedDecimal 2 n).toList ++ '.' :: (paddedDecimal 6 micro).toList) =
      some (done ++ [n],micro,false) := by
  have length := padded_length 6 (by decide) small
  have more : (paddedDecimal 6 micro).toList ≠ [] := by intro empty; rw [empty] at length; cases length
  have read := padded_reads 6 [] (by decide) small
  rw [List.append_nil] at read
  have fraction : fraction? (paddedDecimal 6 micro).toList = some (micro,false) := by
    simp [fraction?,length,read,atEnd]
  rw [clockFields?,padded_reads 2 _ (by decide) fits]
  simp [more,fraction]

end Fields

-- The text of a second's fraction, where there is one.
def fractionText (micro : Nat) : List Char :=
  if micro = 0 then [] else '.' :: (paddedDecimal 6 micro).toList

section Clock

variable {hour minute second micro : Nat}

theorem clock_minutes (hours : hour < 100) (minutes : minute < 100) :
    clock? ((paddedDecimal 2 hour).toList ++ ':' :: (paddedDecimal 2 minute).toList) =
      some ⟨hour,minute,0,0,false⟩ := by
  have more := two_more [] minutes
  rw [List.append_nil] at more
  rw [clock?,clock_colon hours rfl more,clock_last minutes]
  rfl

theorem clock_seconds (hours : hour < 100) (minutes : minute < 100) (seconds : second < 100)
    (small : micro < 1000000) :
    clock? ((paddedDecimal 2 hour).toList ++ ':' :: ((paddedDecimal 2 minute).toList ++
      ':' :: ((paddedDecimal 2 second).toList ++ fractionText micro))) =
        some ⟨hour,minute,second,micro,false⟩ := by
  rw [clock?,clock_colon hours rfl (two_more _ minutes),clock_colon minutes rfl (two_more _ seconds)]
  unfold fractionText
  split
  · rename_i none_
    rw [List.append_nil,clock_last seconds,none_]
    rfl
  · rw [clock_fraction seconds small]
    rfl

end Clock

end Iso

namespace Offset

-- What is read for an offset: one of less than a second is not told from none.
def reread (o : Offset) : Offset :=
  if o.microseconds.natAbs < 1000000 then universal else o

-- An offset that is read back as it is.
def IsSettled (o : Offset) : Prop :=
  o.microseconds = 0 ∨ 1000000 ≤ o.microseconds.natAbs

theorem reread_settled {o : Offset} (settled : o.IsSettled) : o.reread = o := by
  unfold reread
  split
  · rename_i near
    obtain ⟨size,bounded⟩ := o
    rcases settled with zero | far
    · cases zero; rfl
    · exact absurd near (Nat.not_lt.mpr far)
  · rfl

def clockText (o : Offset) : List Char :=
  let size := o.microseconds.natAbs
  let seconds := size / 1000000
  (paddedDecimal 2 (seconds / 3600)).toList ++ ':' :: ((paddedDecimal 2 (seconds / 60 % 60)).toList ++
    if seconds % 60 = 0 ∧ size % 1000000 = 0 then []
    else ':' :: ((paddedDecimal 2 (seconds % 60)).toList ++ Iso.fractionText (size % 1000000)))

variable (o : Offset)

def sign : Char :=
  if o.microseconds < 0 then '-' else '+'

theorem iso_text : o.iso.toList = o.sign :: o.clockText := by
  unfold iso sign clockText Iso.fractionText
  by_cases rest : o.microseconds.natAbs % 1000000 = 0 <;>
    by_cases seconds : o.microseconds.natAbs / 1000000 % 60 = 0 <;>
    by_cases negative : o.microseconds < 0 <;>
    simp [rest,seconds,negative]

-- The seconds are written unless they and their fraction are zero; then zero is what is read.
theorem clock_reread : Iso.clock? o.clockText = some
    ⟨o.microseconds.natAbs / 1000000 / 3600,o.microseconds.natAbs / 1000000 / 60 % 60,
      o.microseconds.natAbs / 1000000 % 60,o.microseconds.natAbs % 1000000,false⟩ := by
  have bounded := o.bounded
  have hours : o.microseconds.natAbs / 1000000 / 3600 < 100 := by omega
  have minutes : o.microseconds.natAbs / 1000000 / 60 % 60 < 100 := by omega
  have seconds : o.microseconds.natAbs / 1000000 % 60 < 100 := by omega
  unfold clockText
  simp only
  split
  · rename_i whole
    rw [List.append_nil,Iso.clock_minutes hours minutes,whole.1,whole.2]
  · rw [Iso.clock_seconds hours minutes seconds (by omega)]

theorem offset_reread : Iso.offset? (o.sign == '-')
    ⟨o.microseconds.natAbs / 1000000 / 3600,o.microseconds.natAbs / 1000000 / 60 % 60,
      o.microseconds.natAbs / 1000000 % 60,o.microseconds.natAbs % 1000000,false⟩ = some o.reread := by
  obtain ⟨size,bounded⟩ := o
  unfold Iso.offset? reread sign
  have whole : (size.natAbs / 1000000 / 3600 * 60 + size.natAbs / 1000000 / 60 % 60) * 60 +
      size.natAbs / 1000000 % 60 = size.natAbs / 1000000 := by omega
  simp only [whole]
  by_cases near : size.natAbs < 1000000
  · have none_ : size.natAbs / 1000000 = 0 := by omega
    rw [if_pos none_,if_pos near]
  · have some_ : size.natAbs / 1000000 ≠ 0 := by omega
    rw [if_neg some_,if_neg near]
    have same : (if ((if size < 0 then '-' else '+') == '-') = true
        then -(((size.natAbs / 1000000 : Nat) : Int) * 1000000 + ((size.natAbs % 1000000 : Nat) : Int))
        else ((size.natAbs / 1000000 : Nat) : Int) * 1000000 + ((size.natAbs % 1000000 : Nat) : Int)) = size := by
      by_cases negative : size < 0
      · rw [if_pos negative,if_pos (by decide)]; omega
      · rw [if_neg negative,if_neg (by decide)]; omega
    rw [same,of?,dif_pos bounded]

end Offset

theorem Date.day_small (d : Date) : d.day ≤ 31 := by
  obtain ⟨_,_,_,_,_,days⟩ := d.valid
  have month : daysInMonth d.year d.month ≤ 31 := by
    unfold daysInMonth
    split <;> (try split) <;> omega
  omega

namespace TimeOfDay

variable (t : TimeOfDay)

theorem iso_text : t.iso.toList = (paddedDecimal 2 t.hour).toList ++ ':' :: ((paddedDecimal 2 t.minute).toList ++
    ':' :: ((paddedDecimal 2 t.second).toList ++ Iso.fractionText t.microsecond)) := by
  unfold iso Iso.fractionText
  by_cases whole : t.microsecond = 0 <;> simp [whole]

end TimeOfDay

namespace Iso

section Characters

-- What the text of a time is made of, and that of an offset behind its sign.
def IsClockChar (c : Char) : Prop :=
  c.isDigit = true ∨ c = ':' ∨ c = '.'

theorem fraction_chars (micro : Nat) : ∀ c ∈ fractionText micro, IsClockChar c := by
  intro c member
  unfold fractionText at member
  split at member
  · cases member
  · rcases List.mem_cons.mp member with rfl | digit
    · exact .inr (.inr rfl)
    · exact .inl (padded_digits _ _ c digit)

theorem time_chars (t : TimeOfDay) : ∀ c ∈ t.iso.toList, IsClockChar c := by
  intro c member
  rw [t.iso_text] at member
  simp only [List.mem_append,List.mem_cons] at member
  rcases member with digit | rfl | digit | rfl | digit | fraction
  · exact .inl (padded_digits _ _ c digit)
  · exact .inr (.inl rfl)
  · exact .inl (padded_digits _ _ c digit)
  · exact .inr (.inl rfl)
  · exact .inl (padded_digits _ _ c digit)
  · exact fraction_chars _ c fraction

theorem offset_chars (o : Offset) : ∀ c ∈ o.clockText, IsClockChar c := by
  intro c member
  unfold Offset.clockText at member
  simp only [List.mem_append,List.mem_cons] at member
  rcases member with digit | rfl | digit | seconds
  · exact .inl (padded_digits _ _ c digit)
  · exact .inr (.inl rfl)
  · exact .inl (padded_digits _ _ c digit)
  · split at seconds
    · cases seconds
    · simp only [List.mem_append,List.mem_cons] at seconds
      rcases seconds with rfl | digit | fraction
      · exact .inr (.inl rfl)
      · exact .inl (padded_digits _ _ c digit)
      · exact fraction_chars _ c fraction

theorem clock_unmarked {c : Char} (inside : IsClockChar c) : isZoneMark c = false := by
  rw [isZoneMark]
  rcases inside with digit | rfl | rfl
  · have plus : c ≠ '+' := by rintro rfl; cases digit
    have minus : c ≠ '-' := by rintro rfl; cases digit
    have zulu : c ≠ 'Z' := by rintro rfl; cases digit
    simp [plus,minus,zulu]
  · rfl
  · rfl

end Characters

theorem time_reread (t : TimeOfDay) (offset : Option Offset) :
    time? (t.iso.toList ++ ((offset.map Offset.iso).getD "").toList) = some (t,offset.map Offset.reread) := by
  have unmarked : ∀ c ∈ t.iso.toList, (!isZoneMark c) = true := fun c member => by
    rw [clock_unmarked (time_chars t c member)]; rfl
  obtain ⟨hours,minutes,seconds,micros⟩ := t.valid
  have clock : clock? t.iso.toList = some ⟨t.hour,t.minute,t.second,t.microsecond,false⟩ := by
    rw [t.iso_text,clock_seconds (by omega) (by omega) (by omega) micros]
  have made : TimeOfDay.of? t.hour t.minute t.second t.microsecond = some t := by
    rw [TimeOfDay.of?,dif_pos t.valid]
  cases offset with
  | none =>
    have all : (t.iso.toList ++ []).takeWhile (!isZoneMark ·) = t.iso.toList ++ [] :=
      List.takeWhile_append_of_pos unmarked
    have nothing : (t.iso.toList ++ []).dropWhile (!isZoneMark ·) = [] := List.dropWhile_append_of_pos unmarked
    simp only [Option.map_none,Option.getD_none,String.toList_empty,time?,all,nothing]
    simp [clock,made]
  | some o =>
    have marked : isZoneMark o.sign = true := by
      unfold Offset.sign
      split <;> rfl
    have front : (t.iso.toList ++ o.sign :: o.clockText).takeWhile (!isZoneMark ·) = t.iso.toList := by
      rw [List.takeWhile_append_of_pos unmarked,List.takeWhile_cons_of_neg (by simp [marked]),List.append_nil]
    have back : (t.iso.toList ++ o.sign :: o.clockText).dropWhile (!isZoneMark ·) = o.sign :: o.clockText := by
      rw [List.dropWhile_append_of_pos unmarked,List.dropWhile_cons_of_neg (by simp [marked])]
    have zone : o.sign ≠ 'Z' := by unfold Offset.sign; split <;> decide
    simp only [Option.map_some,Option.getD_some,o.iso_text,time?,front,back,clock]
    simp [made,o.clock_reread,o.offset_reread]

theorem date_text (d : Date) : d.iso.toList = (paddedDecimal 4 d.year).toList ++
    '-' :: ((paddedDecimal 2 d.month).toList ++ '-' :: (paddedDecimal 2 d.day).toList) := by
  simp [Date.iso]

theorem date_ten (d : Date) : d.iso.toList.length = 10 := by
  have ⟨_,years,_,months,_,_⟩ := d.valid
  have short := d.day_small
  rw [date_text]
  simp only [List.length_append,List.length_cons]
  rw [padded_length 4 (by decide) (by omega),padded_length 2 (by decide) (by omega),
    padded_length 2 (by decide) (by omega)]

theorem date_length (d : Date) (rest : List Char) : dateLength? (d.iso.toList ++ rest) = some 10 := by
  obtain ⟨_,years,_,_,_,_⟩ := d.valid
  have length := padded_length (n := d.year) 4 (by decide) (by omega)
  obtain ⟨a,b,month,digit⟩ := two_digits (n := d.month) (by omega)
  have ordinary : a ≠ 'W' := by rintro rfl; cases digit
  rw [date_text,month]
  generalize (paddedDecimal 4 d.year).toList = year at length
  match year, length with
  | [_,_,_,_], _ =>
    simp [dateLength?,ordinary]

theorem date_reread (d : Date) (rest : List Char) : date? 10 (d.iso.toList ++ rest) = some d := by
  have ⟨_,years,_,months,_,_⟩ := d.valid
  have short := d.day_small
  obtain ⟨a,b,month,digit⟩ := two_digits (n := d.month) (by omega)
  have ordinary : a ≠ 'W' := by rintro rfl; cases digit
  have monthRead := padded_reads (n := d.month) 2 ('-' :: ((paddedDecimal 2 d.day).toList ++ rest)) (by decide)
    (by omega)
  have dayRead := padded_reads (n := d.day) 2 rest (by decide) (by omega)
  rw [date_text,List.append_assoc,date?,padded_reads 4 _ (by decide) (by omega)]
  rw [month] at monthRead ⊢
  have made : Date.of? d.year d.month d.day = some d := by rw [Date.of?,dif_pos d.valid]
  simp only [List.cons_append,List.nil_append] at monthRead ⊢
  simp [ordinary,monthRead,dayRead,made]

end Iso

namespace Moment

-- The moment that the text of a moment is read as.
def reread (m : Moment) : Moment :=
  ⟨m.date,m.time,some ((m.offset.map Offset.reread).getD Offset.universal)⟩

theorem iso_text (m : Moment) : m.iso.toList =
    m.date.iso.toList ++ 'T' :: (m.time.iso.toList ++ ((m.offset.map Offset.iso).getD "").toList) := by
  simp [iso,isoWith]

-- No character of the text is a blank, which would be stripped, or spells out universal time.
def IsInert (c : Char) : Prop :=
  Text.isBlank c = false ∧ c ≠ 'Z' ∧ c ≠ 'z'

theorem digit_inert {c : Char} (digit : c.isDigit = true) : IsInert c := by
  have between : 48 ≤ c.toNat ∧ c.toNat ≤ 57 := Char.isDigit_iff_toNat.mp digit
  refine ⟨?_,?_,?_⟩
  · simp [Text.isBlank,Text.isSpace]
    omega
  · rintro rfl; cases digit
  · rintro rfl; cases digit

theorem clock_inert {c : Char} (inside : Iso.IsClockChar c) : IsInert c := by
  rcases inside with digit | rfl | rfl
  · exact digit_inert digit
  · exact ⟨rfl,by decide,by decide⟩
  · exact ⟨rfl,by decide,by decide⟩

theorem iso_inert (m : Moment) : ∀ c ∈ m.iso.toList, IsInert c := by
  intro c member
  rw [iso_text,Iso.date_text] at member
  simp only [List.mem_append,List.mem_cons] at member
  rcases member with (digit | rfl | digit | rfl | digit) | rfl | clock | offset
  · exact digit_inert (Iso.padded_digits _ _ c digit)
  · exact ⟨rfl,by decide,by decide⟩
  · exact digit_inert (Iso.padded_digits _ _ c digit)
  · exact ⟨rfl,by decide,by decide⟩
  · exact digit_inert (Iso.padded_digits _ _ c digit)
  · exact ⟨rfl,by decide,by decide⟩
  · exact clock_inert (Iso.time_chars _ c clock)
  · cases known : m.offset with
    | none => rw [known] at offset; cases offset
    | some o =>
      rw [known,Option.map_some,Option.getD_some,o.iso_text] at offset
      rcases List.mem_cons.mp offset with rfl | clock
      · unfold Offset.sign
        split <;> exact ⟨rfl,by decide,by decide⟩
      · exact clock_inert (Iso.offset_chars _ c clock)

theorem strip_inert {cs : List Char} (inert : ∀ c ∈ cs, IsInert c) : Text.strip Text.isBlank cs = cs := by
  have kept {cs : List Char} (inert : ∀ c ∈ cs, IsInert c) : cs.dropWhile Text.isBlank = cs := by
    cases cs with
    | nil => rfl
    | cons c rest => rw [List.dropWhile_cons_of_neg]; simp [(inert c List.mem_cons_self).1]
  rw [Text.strip,kept inert,kept fun c member => inert c (List.mem_reverse.mp member),List.reverse_reverse]

theorem zulu_inert {cs : List Char} (inert : ∀ c ∈ cs, IsInert c) : zuluSpelledOut cs = cs := by
  unfold zuluSpelledOut
  split
  · rename_i last
    exact absurd rfl (inert 'Z' (List.mem_reverse.mp (by rw [last]; exact List.mem_cons_self))).2.1
  · rename_i last
    exact absurd rfl (inert 'z' (List.mem_reverse.mp (by rw [last]; exact List.mem_cons_self))).2.2
  · rfl

theorem iso_reread (m : Moment) : read? m.iso = some m.reread := by
  have ten := Iso.date_ten m.date
  rw [read?,strip_inert (iso_inert m),zulu_inert (iso_inert m),iso_text,ofIso?,Iso.date_length]
  simp only [Option.bind_eq_bind,Option.bind_some,Iso.date_reread,List.drop_left' ten,Iso.time_reread]
  obtain ⟨date,time,_ | offset⟩ := m <;> rfl

example : (read? "2024-03-04T05:06:07-00:00:00.000001").map Moment.offset = some (some Offset.universal) := by
  decide +kernel

theorem date_inert (d : Date) : ∀ c ∈ d.iso.toList, IsInert c := by
  intro c member
  refine iso_inert (midnight d none) c ?_
  rw [iso_text]
  exact List.mem_append_left _ member

theorem date_reread (d : Date) : read? d.iso = some (midnight d (some Offset.universal)) := by
  have length := Iso.date_length d []
  have date := Iso.date_reread d []
  rw [List.append_nil] at length date
  have nothing : d.iso.toList.drop 10 = [] := List.drop_eq_nil_of_le (Nat.le_of_eq (Iso.date_ten d))
  rw [read?,strip_inert (date_inert d),zulu_inert (date_inert d),ofIso?,length]
  simp only [Option.bind_eq_bind,Option.bind_some,date,nothing]
  rfl

-- A moment whose text is read back as it is.
def IsSettled (m : Moment) : Prop :=
  ∃ o, m.offset = some o ∧ o.IsSettled

theorem reread_settled {m : Moment} (settled : m.IsSettled) : m.reread = m := by
  obtain ⟨o,known,far⟩ := settled
  obtain ⟨date,time,offset⟩ := m
  cases known
  simp [reread,Offset.reread_settled far]

section Reading

variable {negative : Bool} {clock : Iso.Clock} {cs : List Char} {time : TimeOfDay} {offset : Option Offset}
  {o : Offset}

theorem offset_made {microseconds : Int} (made : Offset.of? microseconds = some o) :
    o.microseconds = microseconds := by
  unfold Offset.of? at made
  split at made
  · cases made; rfl
  · cases made

theorem offset_settled (read : Iso.offset? negative clock = some o) : o.IsSettled := by
  unfold Iso.offset? at read
  generalize seconds : (clock.hour * 60 + clock.minute) * 60 + clock.second = count at read
  by_cases none_ : count = 0
  · simp only [none_,if_true,Option.some.injEq] at read
    subst read
    exact .inl rfl
  · simp only [none_,if_false] at read
    have size := offset_made read
    right
    split at size <;> omega

theorem time_settled (read : Iso.time? cs = some (time,offset)) : ∀ o, offset = some o → o.IsSettled := by
  rintro o rfl
  simp only [Iso.time?,Option.bind_eq_bind,Option.bind_eq_some_iff] at read
  obtain ⟨clock,_,made,_,read⟩ := read
  split at read
  · split at read <;> cases read
  · split at read
    · cases read; exact .inl rfl
    · cases read
  · obtain ⟨zone,_,read⟩ := Option.bind_eq_some_iff.mp read
    split at read
    · cases read
    · obtain ⟨known,offset,same⟩ := Option.bind_eq_some_iff.mp read
      cases same
      exact offset_settled offset

-- Whatever is read as a moment has an offset that its text shows in full.
theorem read_settled {text : String} {m : Moment} (read : read? text = some m) : m.IsSettled := by
  rw [read?,Option.map_eq_some_iff] at read
  obtain ⟨found,read,rfl⟩ := read
  simp only [ofIso?,Option.bind_eq_bind,Option.bind_eq_some_iff] at read
  obtain ⟨length,_,date,_,read⟩ := read
  split at read
  · cases read
    exact ⟨Offset.universal,rfl,.inl rfl⟩
  · obtain ⟨⟨time,offset⟩,timed,read⟩ := Option.bind_eq_some_iff.mp read
    cases read
    cases offset with
    | none => exact ⟨Offset.universal,rfl,.inl rfl⟩
    | some o => exact ⟨o,rfl,time_settled timed o rfl⟩

end Reading

end Moment

end TemplateSchema
