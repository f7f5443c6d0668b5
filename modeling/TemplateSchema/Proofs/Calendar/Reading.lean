import Mathlib.Data.List.TakeWhile
import TemplateSchema.Proofs.Calendar.Iso
import TemplateSchema.Proofs.Text.Points
import TemplateSchema.Value.Instant
/-!
Reading undoes writing. What is read from the standard text of a moment or a date is what the value
itself denotes, but for an offset of less than a second, which is lost. Blanks around a text do not
count, and an offset of zero may be spelled out or not.
-/
set_option autoImplicit false
namespace TemplateSchema

namespace Text

variable {drop : Char → Bool} {front cs back : List Char}

theorem strip_front (dropped : ∀ c ∈ front, drop c = true) : strip drop (front ++ cs) = strip drop cs := by
  rw [strip,strip,List.dropWhile_append_of_pos dropped]

theorem strip_back (dropped : ∀ c ∈ back, drop c = true) : strip drop (cs ++ back) = strip drop cs := by
  have reversed : ∀ c ∈ back.reverse, drop c = true := fun c member => dropped c (List.mem_reverse.mp member)
  have nothing : back.dropWhile drop = [] := List.dropWhile_eq_nil_iff.mpr dropped
  rw [strip,strip,List.dropWhile_append]
  split
  · rename_i empty
    rw [List.isEmpty_iff.mp empty,nothing]
  · rw [List.reverse_append,List.dropWhile_append_of_pos reversed]

-- An end that is kept shields what is in front of it, but for the front itself.
theorem strip_kept (kept : ∀ c ∈ back, drop c = false) (some_ : back ≠ []) :
    strip drop (cs ++ back) = cs.dropWhile drop ++ back := by
  have whole {back : List Char} (kept : ∀ c ∈ back, drop c = false) : back.dropWhile drop = back := by
    cases back with
    | nil => rfl
    | cons c rest => rw [List.dropWhile_cons_of_neg]; simp [kept c List.mem_cons_self]
  have front : (cs ++ back).dropWhile drop = cs.dropWhile drop ++ back := by
    rw [List.dropWhile_append]
    split
    · rename_i empty
      rw [List.isEmpty_iff.mp empty,whole kept,List.nil_append]
    · rfl
  rw [strip,front,List.reverse_append,List.dropWhile_append,whole fun c member => kept c (List.mem_reverse.mp member)]
  simp [some_]

theorem chars_all (cs : List Char) : (cs.map Point.char).mapM Point.char? = some cs := by
  induction cs with
  | nil => rfl
  | cons c cs ih => simp [Point.char?,ih]

-- Characters behind a text stay as they are, whatever half there is in it.
theorem spelled_append (text : Text) (behind : String) :
    (text ++ behind).spelled? = text.spelled?.map (· ++ behind) := by
  cases text with
  | whole s => rfl
  | torn front h back =>
    change (torn front h (back ++ points behind)).spelled? = _
    simp only [spelled?,points,List.mapM_append,chars_all]
    split
    · cases back.mapM Point.char? <;> simp [String.append_assoc]
    · rfl

-- Blanks in front do not count among the characters in front of a half.
theorem spelled_blank {blank : String} (dropped : ∀ c ∈ blank.toList, isBlank c = true) (text : Text) :
    (blank ++ text).spelled? = text.spelled?.map (blank ++ ·) := by
  cases text with
  | whole s => rfl
  | torn front h back =>
    change (torn (blank ++ front) h back).spelled? = _
    have place : (blank ++ front).toList.dropWhile isBlank = front.toList.dropWhile isBlank := by
      rw [String.toList_append,List.dropWhile_append_of_pos dropped]
    simp only [spelled?,place]
    split
    · cases back.mapM Point.char? <;> simp [String.append_assoc]
    · rfl

end Text

namespace Offset

theorem reread_near {o : Offset} (near : ¬ o.IsSettled) : o.reread = universal := by
  rw [reread,if_pos (Nat.lt_of_not_le fun far => near (.inr far))]

end Offset

namespace Moment

variable {text front back zulu : String}

-- The end of a text that gives an offset of zero.
def universalEnd : List Char :=
  ['+','0','0',':','0','0']

theorem zulu_end {cs : List Char} {z : Char} (final : z = 'Z' ∨ z = 'z') :
    zuluSpelledOut (cs ++ [z]) = cs ++ universalEnd := by
  rcases final with rfl | rfl <;> simp [zuluSpelledOut,universalEnd]

theorem universal_end (cs : List Char) : zuluSpelledOut (cs ++ universalEnd) = cs ++ universalEnd := by
  simp [zuluSpelledOut,universalEnd]

theorem read_padded (before : ∀ c ∈ front.toList, Text.isBlank c = true)
    (behind : ∀ c ∈ back.toList, Text.isBlank c = true) : read? (front ++ text ++ back) = read? text := by
  rw [read?,String.toList_append,Text.strip_back behind,String.toList_append,Text.strip_front before]
  rfl

theorem read_zulu (final : zulu = "Z" ∨ zulu = "z") : read? (text ++ zulu) = read? (text ++ "+00:00") := by
  obtain ⟨z,own,single⟩ : ∃ z, (z = 'Z' ∨ z = 'z') ∧ zulu.toList = [z] := by
    rcases final with rfl | rfl
    · exact ⟨_,.inl rfl,rfl⟩
    · exact ⟨_,.inr rfl,rfl⟩
  have mark : ∀ c ∈ [z], Text.isBlank c = false := by
    rw [List.forall_mem_singleton]
    rcases own with rfl | rfl <;> rfl
  have solid : ∀ c ∈ universalEnd, Text.isBlank c = false := by
    simp only [universalEnd,List.forall_mem_cons]
    exact ⟨rfl,rfl,rfl,rfl,rfl,rfl,by simp⟩
  have spelled : "+00:00".toList = universalEnd := rfl
  rw [read?,read?,String.toList_append,String.toList_append,single,spelled,Text.strip_kept mark (by simp),
    Text.strip_kept solid (by decide),zulu_end own,universal_end]

end Moment

namespace Value

open Moment (midnight read_padded read_zulu date_reread iso_reread)

variable {text other : Text} {m : Moment}

theorem toMoment_text : (Value.text text).toMoment = .ok m ↔ text.spelled?.bind Moment.read? = some m := by
  rw [toMoment]
  cases text.spelled?.bind Moment.read? <;> simp

theorem toMoment_whole {s : String} : (Value.text s).toMoment = .ok m ↔ Moment.read? s = some m :=
  toMoment_text

theorem toMoment_same (same : text.spelled?.bind Moment.read? = other.spelled?.bind Moment.read?) (m : Moment) :
    (Value.text text).toMoment = .ok m ↔ (Value.text other).toMoment = .ok m := by
  rw [toMoment_text,toMoment_text,same]

-- Reading as the inverse of writing, and what does not matter in a text.
theorem standard_reread :
    (∀ (m : Moment) (o : Offset), m.offset = some o → (Value.moment m).toMoment = .ok m ∧
      (o.IsSettled → (Value.text m.iso).toMoment = .ok m) ∧
      (¬ o.IsSettled → (Value.text m.iso).toMoment = .ok ⟨m.date,m.time,some Offset.universal⟩)) ∧
    (∀ m : Moment, m.offset = none → ∀ v ∈ [Value.text m.iso,.moment m],
      v.toMoment = .ok ⟨m.date,m.time,some Offset.universal⟩) ∧
    (∀ d : Date, ∀ v ∈ [Value.text d.iso,.date d], v.toMoment = .ok (midnight d (some Offset.universal))) ∧
    (∀ (front back : String) (text : Text), (∀ c ∈ front.toList, Text.isBlank c = true) →
      (∀ c ∈ back.toList, Text.isBlank c = true) → ∀ m,
        (Value.text (front ++ text ++ back)).toMoment = .ok m ↔ (Value.text text).toMoment = .ok m) ∧
    ∀ text : Text, ∀ zulu ∈ ["Z","z"], ∀ m,
      (Value.text (text ++ zulu)).toMoment = .ok m ↔ (Value.text (text ++ "+00:00")).toMoment = .ok m := by
  refine ⟨?_,?_,?_,?_,?_⟩
  · rintro ⟨date,time,offset⟩ o rfl
    refine ⟨rfl,fun settled => toMoment_whole.mpr ?_,fun near => toMoment_whole.mpr ?_⟩
    · rw [iso_reread,Moment.reread_settled ⟨o,rfl,settled⟩]
    · rw [iso_reread]
      exact congrArg (fun o => some (Moment.mk date time (some o))) (Offset.reread_near near)
  · rintro ⟨date,time,offset⟩ rfl v member
    simp only [List.mem_cons,List.not_mem_nil,or_false] at member
    rcases member with rfl | rfl
    · exact toMoment_whole.mpr (iso_reread _)
    · rfl
  · intro d v member
    simp only [List.mem_cons,List.not_mem_nil,or_false] at member
    rcases member with rfl | rfl
    · exact toMoment_whole.mpr (date_reread d)
    · rfl
  · intro front back text before behind m
    refine toMoment_same ?_ m
    rw [Text.spelled_append,Text.spelled_blank before]
    cases text.spelled? with
    | none => rfl
    | some s => exact read_padded before behind
  · intro text zulu member m
    simp only [List.mem_cons,List.not_mem_nil,or_false] at member
    refine toMoment_same ?_ m
    rw [Text.spelled_append,Text.spelled_append]
    cases text.spelled? with
    | none => rfl
    | some s => exact read_zulu member

section Train

-- The night train leaves at five to midnight, by a clock two hours and some seconds ahead.
def nightTrain : Moment :=
  ⟨⟨2024,2,29,by decide⟩,⟨23,55,0,0,by decide⟩,some ⟨7205000250,by decide⟩⟩

theorem nightTrain_settled : Offset.IsSettled ⟨7205000250,by decide⟩ :=
  .inr (by decide)

example : nightTrain.iso = "2024-02-29T23:55:00+02:00:05.000250" := by
  decide +kernel

theorem nightTrain_reread : Offset.IsSettled ⟨7205000250,by decide⟩ ∧
    (Value.text nightTrain.iso).toMoment = .ok nightTrain ∧
    (Value.text ("\t " ++ "2024-02-29T23:55Z" ++ "\n")).toMoment =
      .ok ⟨⟨2024,2,29,by decide⟩,⟨23,55,0,0,by decide⟩,some Offset.universal⟩ := by
  obtain ⟨aware,_,_,padded,zulu⟩ := standard_reread
  refine ⟨nightTrain_settled,(aware nightTrain _ rfl).2.1 nightTrain_settled,?_⟩
  have before : ∀ c ∈ "\t ".toList, Text.isBlank c = true := List.all_eq_true.mp rfl
  have behind : ∀ c ∈ "\n".toList, Text.isBlank c = true := List.all_eq_true.mp rfl
  refine (padded "\t " "\n" "2024-02-29T23:55Z" before behind _).mpr ?_
  refine (zulu "2024-02-29T23:55" "Z" List.mem_cons_self _).mpr (toMoment_whole.mpr ?_)
  decide +kernel

-- By a clock that is a microsecond behind.
def nearTrain : Moment :=
  ⟨⟨2024,2,29,by decide⟩,⟨23,55,0,0,by decide⟩,some ⟨-1,by decide⟩⟩

-- The offset is in the text, but it is not read.
theorem nearTrain_lost : nearTrain.iso = "2024-02-29T23:55:00-00:00:00.000001" ∧
    ∃ m, (Value.text nearTrain.iso).toMoment = .ok m ∧ m ≠ nearTrain := by
  refine ⟨by decide +kernel,_,toMoment_whole.mpr (iso_reread nearTrain),?_⟩
  decide

end Train

end Value

end TemplateSchema
