import Mathlib
import TemplateSchema.Proofs.Calendar.Instants
import TemplateSchema.Proofs.Calendar.Reading
import TemplateSchema.Proofs.Calendar.Spelling
import TemplateSchema.Proofs.Shape.Acceptance
import TemplateSchema.Proofs.Success
import TemplateSchema.Proofs.Value.Entries
/-!
Bounds of dates are bounds of instants. Whatever form a bound is given in, and whatever offset a value
has, what counts is the instant that either denotes; both bounds belong to the range between them. A
bound in a text with an offset of less than a second is the exception: the offset does not count.
-/
set_option autoImplicit false
namespace TemplateSchema

namespace Value

-- The instant of a moment, of the moment that a text spells, and of a date at its midnight in
-- universal time.
inductive Denotes : Value → Int → Prop where
  | moment {m : Moment} {t : Int} (at_ : m.IsAt t) : Denotes (.moment m) t
  | date {d : Date} {n : Nat} (counted : d.IsDay n) : Denotes (.date d) (n * dayMicroseconds)
  | text {s : Text} {own : String} {m : Moment} {t : Int} (taken : s.spelled? = some own) (spelled : m.IsSpelled own)
      (at_ : m.IsAt t) : Denotes (.text s) t

theorem midnight_instant (d : Date) :
    (Moment.midnight d (some Offset.universal)).instant = d.ordinal * dayMicroseconds := by
  have zero : TimeOfDay.midnight.elapsed = 0 := rfl
  simp [Moment.midnight,Moment.instant,Offset.universal,zero]

-- A value whose offset, if it stands in a text, is zero or not too near to it.
def IsFar : Value → Prop
  | .text s => ∀ own, s.spelled? = some own → Moment.IsFar (Moment.distance? (Moment.spelling own))
  | _ => True

theorem denotes_exact {v : Value} {t : Int} (far : v.IsFar) :
    v.Denotes t ↔ ∃ m, v.toMoment = .ok m ∧ m.instant = t := by
  constructor
  · intro denotes
    cases denotes with
    | moment at_ => exact ⟨_,rfl,by rw [Moment.universal_instant,Moment.isAt_exact.mp at_]⟩
    | date counted => exact ⟨_,rfl,by rw [midnight_instant,Date.isDay_exact.mp counted]⟩
    | @text s taken_ m t taken spelled at_ =>
      have ⟨own,read,_⟩ := spelled
      have found : Moment.read? taken_ = some own.inUniversal := Option.map_eq_some_iff.mpr ⟨own,read,rfl⟩
      refine ⟨own.inUniversal,toMoment_text.mpr (by rw [taken,Option.bind_some,found]),?_⟩
      rw [Moment.universal_instant,← Moment.isAt_exact.mp at_]
      exact Moment.spelled_instant (Moment.read_isSpelled read (far _ taken)) spelled
  · rintro ⟨m,read,rfl⟩
    cases v with
    | moment own =>
      cases read
      rw [Moment.universal_instant]
      exact .moment (Moment.isAt_exact.mpr rfl)
    | date d =>
      cases read
      rw [midnight_instant]
      exact .date (Date.isDay_exact.mpr rfl)
    | text s =>
      obtain ⟨taken_,taken,found⟩ := Option.bind_eq_some_iff.mp (toMoment_text.mp read)
      obtain ⟨own,told,rfl⟩ := Option.map_eq_some_iff.mp found
      rw [Moment.universal_instant]
      exact .text taken (Moment.read_isSpelled told (far _ taken)) (Moment.isAt_exact.mpr rfl)
    | _ => cases read

theorem denotes_single {v : Value} {t u : Int} (first : v.Denotes t) (second : v.Denotes u) : t = u := by
  cases first with
  | moment at_ =>
    cases second with
    | moment again => rw [← Moment.isAt_exact.mp at_,Moment.isAt_exact.mp again]
  | date counted =>
    cases second with
    | date again => rw [← Date.isDay_exact.mp counted,Date.isDay_exact.mp again]
  | text taken spelled at_ =>
    cases second with
    | text retaken again other =>
      obtain rfl := Option.some.inj (taken.symm.trans retaken)
      rw [← Moment.isAt_exact.mp at_,Moment.spelled_instant spelled again,Moment.isAt_exact.mp other]

end Value

namespace Shape

open Declaration (given? dateBound typeKey)

variable {keys others : Entries} {key : String}

-- A bound that is given can be read, and its offset is not too near to zero.
def IsBounded (keys : Entries) (key : String) : Prop :=
  ∀ v, given? keys key = some v → v.IsFar ∧ ∃ m, v.toMoment = .ok m

structure IsDateField (keys : Entries) : Prop where
  typed : Kind.read? (Entries.field keys typeKey) = some .date
  lower : IsBounded keys "min"
  upper : IsBounded keys "max"

-- What holds of the bound that is given under a key, if one is.
def OfBound (keys : Entries) (key : String) (P : Int → Prop) : Prop :=
  ∀ v t, given? keys key = some v → v.Denotes t → P t

-- Both bounds are of the range.
def Within (keys : Entries) (t : Int) : Prop :=
  OfBound keys "min" (· ≤ t) ∧ OfBound keys "max" (t ≤ ·)

-- Bounds of one instant, or none on either side, however they are spelled.
def SameBound (keys others : Entries) (key : String) : Prop :=
  Option.Rel (fun v w => ∃ t, v.Denotes t ∧ w.Denotes t) (given? keys key) (given? others key)

section Bounds

variable {P : Int → Prop} {v : Value} {t : Int}

theorem bound_absent (absent : given? keys key = none) : OfBound keys key P := by
  intro v t given
  rw [absent] at given
  cases given

theorem bound_given (given : given? keys key = some v) (denotes : v.Denotes t) : OfBound keys key P ↔ P t := by
  constructor
  · exact fun holds => holds v t given denotes
  · intro holds w u again other
    obtain rfl : v = w := Option.some.inj (given.symm.trans again)
    rwa [← Value.denotes_single denotes other]

theorem bounded_given (given : given? keys key = some v) (far : v.IsFar) (denotes : v.Denotes t) :
    IsBounded keys key := by
  intro w again
  obtain rfl : v = w := Option.some.inj (given.symm.trans again)
  obtain ⟨m,read,_⟩ := (Value.denotes_exact far).mp denotes
  exact ⟨far,m,read⟩

theorem bound_compiled (bounded : IsBounded keys key) : ∃ bound, dateBound keys key = .ok bound ∧
    ∀ P : Int → Prop, (∀ b, bound = some b → P b.instant) ↔ OfBound keys key P := by
  unfold dateBound
  cases given : given? keys key with
  | none => exact ⟨none,rfl,fun P => by simp [bound_absent given]⟩
  | some v =>
    obtain ⟨far,m,read⟩ := bounded v given
    have denotes : v.Denotes m.instant := (Value.denotes_exact far).mpr ⟨m,read,rfl⟩
    refine ⟨some m,by simp only [read]; rfl,fun P => ?_⟩
    rw [bound_given given denotes]
    simp

theorem bound_respelled (same : SameBound keys others key) : OfBound keys key P ↔ OfBound others key P := by
  unfold SameBound at same
  cases here : given? keys key with
  | none =>
    rw [here] at same
    have there : given? others key = none := by
      generalize given? others key = found at same
      cases same
      rfl
    simp [bound_absent here,bound_absent there]
  | some v =>
    rw [here] at same
    cases there : given? others key with
    | none => rw [there] at same; cases same
    | some w =>
      rw [there] at same
      obtain ⟨t,left,right⟩ := Option.rel_some_some.mp same
      rw [bound_given here left,bound_given there right]

end Bounds

theorem moment_compiled (name : Value) {lo hi : Option Moment}
    (typed : Kind.read? (Entries.field keys typeKey) = some .date) (lower : dateBound keys "min" = .ok lo)
    (upper : dateBound keys "max" = .ok hi) :
    (ofDeclaration name (Declaration.ofValue (.map keys))).outcome = .ok (.moment lo hi) := by
  have shaped : momentShape keys = .ok (.moment lo hi) := by rw [momentShape,lower,upper]; rfl
  have drafted : (draft name (.date keys)).outcome = .ok (some (.moment lo hi)) :=
    Traced.bind_outcome.mpr ⟨_,by rw [Traced.ofExcept_outcome,shaped],rfl⟩
  have declared : Declaration.ofValue (.map keys) = .date keys := by rw [Declaration.ofValue,typed]
  rw [declared]
  exact Traced.bind_outcome.mpr ⟨_,drafted,rfl⟩

theorem date_compiled (name : Value) (field : IsDateField keys) : ∃ shape,
    (ofDeclaration name (Declaration.ofValue (.map keys))).outcome = .ok shape ∧
      ∀ m t, m.IsAt t → (Accepts Format.isMatch shape (.moment m) ↔ Within keys t) := by
  obtain ⟨lo,lower,below⟩ := bound_compiled field.lower
  obtain ⟨hi,upper,above⟩ := bound_compiled field.upper
  refine ⟨.moment lo hi,moment_compiled name field.typed lower upper,?_⟩
  intro m t at_
  rw [accepts_moment,Within,← below,← above,← Moment.isAt_exact.mp at_]
  simp

theorem same_within (lower : SameBound keys others "min") (upper : SameBound keys others "max") (t : Int) :
    Within keys t ↔ Within others t := by
  rw [Within,Within,bound_respelled lower,bound_respelled upper]

-- A compiled date takes the moments whose instants are between its bounds. Which of the spellings of
-- an instant a value or a bound is given in makes no difference.
theorem date_judged (name : Value) (field : IsDateField keys) : ∃ shape,
    (ofDeclaration name (Declaration.ofValue (.map keys))).outcome = .ok shape ∧
      (∀ m, ∃ t, m.IsAt t ∧ (Accepts Format.isMatch shape (.moment m) ↔ Within keys t)) ∧
      (∀ m n t, m.IsAt t → n.IsAt t →
        (Accepts Format.isMatch shape (.moment m) ↔ Accepts Format.isMatch shape (.moment n))) ∧
      ∀ others, IsDateField others → SameBound keys others "min" → SameBound keys others "max" → ∃ again,
        (ofDeclaration name (Declaration.ofValue (.map others))).outcome = .ok again ∧
          ∀ m, Accepts Format.isMatch shape (.moment m) ↔ Accepts Format.isMatch again (.moment m) := by
  obtain ⟨shape,compiled,judged⟩ := date_compiled name field
  have at_ (m : Moment) : m.IsAt m.instant := Moment.isAt_exact.mpr rfl
  refine ⟨shape,compiled,fun m => ⟨_,at_ m,judged m _ (at_ m)⟩,?_,?_⟩
  · intro m n t first second
    rw [judged m t first,judged n t second]
  · intro others other lower upper
    obtain ⟨again,recompiled,rejudged⟩ := date_compiled name other
    refine ⟨again,recompiled,fun m => ?_⟩
    rw [judged m _ (at_ m),rejudged m _ (at_ m),same_within lower upper]

-- A lease from half past midnight of the first of March 2032 to midnight of the second, in universal
-- time; where it starts, two hours to the west, it is still the leap day.
def leaseKeys : Entries :=
  [(.text "type",.text "date"),(.text "min",.text "2032-W09-7T22:30-02:00"),
    (.text "max",.date ⟨2032,3,2,by decide⟩)]

def leaseStart : Moment :=
  ⟨⟨2032,2,29,by decide⟩,⟨22,30,0,0,by decide⟩,some ⟨-7200000000,by decide⟩⟩

-- The start of the lease as a moment without an offset, and its end in a text.
def respelledKeys : Entries :=
  [(.text "max",.text " 20320302 "),(.text "type",.text "date"),
    (.text "min",.moment ⟨⟨2032,3,1,by decide⟩,⟨0,30,0,0,by decide⟩,none⟩)]

-- The last microsecond before the lease, on the clock of a place to the east.
def beforeLease : Moment :=
  ⟨⟨2032,3,1,by decide⟩,⟨9,29,59,999999,by decide⟩,some ⟨32400000000,by decide⟩⟩

theorem lease_given : given? leaseKeys "min" = some (.text "2032-W09-7T22:30-02:00") ∧
    given? leaseKeys "max" = some (.date ⟨2032,3,2,by decide⟩) := by
  simp [leaseKeys,given?,Entries.field_cons]

theorem respelled_given : given? respelledKeys "min" =
      some (.moment ⟨⟨2032,3,1,by decide⟩,⟨0,30,0,0,by decide⟩,none⟩) ∧
    given? respelledKeys "max" = some (.text " 20320302 ") := by
  simp [respelledKeys,given?,Entries.field_cons]

theorem start_far : (Value.text "2032-W09-7T22:30-02:00").IsFar := by
  have west : Moment.distance? (Moment.spelling "2032-W09-7T22:30-02:00") = some (-7200000000) := by cbv
  rintro _ ⟨⟩
  rw [west]
  rintro _ ⟨⟩
  decide

theorem end_far : (Value.text " 20320302 ").IsFar := by
  have none_ : Moment.distance? (Moment.spelling " 20320302 ") = none := by cbv
  rintro _ ⟨⟩
  rw [none_]
  rintro _ ⟨⟩

theorem start_denoted : (Value.text "2032-W09-7T22:30-02:00").Denotes 64097397000000000 ∧
    (Value.moment ⟨⟨2032,3,1,by decide⟩,⟨0,30,0,0,by decide⟩,none⟩).Denotes 64097397000000000 := by
  have spelled : leaseStart.IsSpelled "2032-W09-7T22:30-02:00" := Moment.read_isSpelled (by cbv) (start_far _ rfl)
  exact ⟨.text rfl spelled (Moment.isAt_exact.mpr (by cbv)),.moment (Moment.isAt_exact.mpr (by cbv))⟩

theorem end_denoted : (Value.date ⟨2032,3,2,by decide⟩).Denotes 64097481600000000 ∧
    (Value.text " 20320302 ").Denotes 64097481600000000 := by
  have spelled : (Moment.midnight ⟨2032,3,2,by decide⟩ none).IsSpelled " 20320302 " :=
    Moment.read_isSpelled (by cbv) (end_far _ rfl)
  refine ⟨(Value.denotes_exact (v := .date ⟨2032,3,2,by decide⟩) trivial).mpr ⟨_,rfl,by cbv⟩,?_⟩
  exact .text rfl spelled (Moment.isAt_exact.mpr (by cbv))

theorem lease_isDate : IsDateField leaseKeys :=
  ⟨by cbv,bounded_given lease_given.1 start_far start_denoted.1,
    bounded_given lease_given.2 trivial end_denoted.1⟩

theorem respelled_isDate : IsDateField respelledKeys :=
  ⟨by cbv,bounded_given respelled_given.1 trivial start_denoted.2,
    bounded_given respelled_given.2 end_far end_denoted.2⟩

theorem lease_respelled : SameBound leaseKeys respelledKeys "min" ∧ SameBound leaseKeys respelledKeys "max" := by
  unfold SameBound
  rw [lease_given.1,lease_given.2,respelled_given.1,respelled_given.2]
  exact ⟨.some ⟨_,start_denoted⟩,.some ⟨_,end_denoted⟩⟩

theorem lease_within (t : Int) : Within leaseKeys t ↔ 64097397000000000 ≤ t ∧ t ≤ 64097481600000000 := by
  rw [Within,bound_given lease_given.1 start_denoted.1,bound_given lease_given.2 end_denoted.1]

theorem lease_judged : IsDateField leaseKeys ∧ IsDateField respelledKeys ∧ ∃ shape again,
    (ofDeclaration (.text "lease") (Declaration.ofValue (.map leaseKeys))).outcome = .ok shape ∧
      (ofDeclaration (.text "lease") (Declaration.ofValue (.map respelledKeys))).outcome = .ok again ∧
      Accepts Format.isMatch shape (.moment leaseStart) ∧ ¬ Accepts Format.isMatch again (.moment beforeLease) := by
  obtain ⟨shape,compiled,judged,_,respelled⟩ := date_judged (.text "lease") lease_isDate
  obtain ⟨again,recompiled,same⟩ := respelled _ respelled_isDate lease_respelled.1 lease_respelled.2
  refine ⟨lease_isDate,respelled_isDate,shape,again,compiled,recompiled,?_,?_⟩
  · obtain ⟨t,at_,accepted⟩ := judged leaseStart
    have instant : leaseStart.instant = 64097397000000000 := by cbv
    rw [accepted,lease_within,← Moment.isAt_exact.mp at_,instant]
    decide
  · obtain ⟨t,at_,accepted⟩ := judged beforeLease
    have instant : beforeLease.instant = 64097396999999999 := by cbv
    rw [← same,accepted,lease_within,← Moment.isAt_exact.mp at_,instant]
    decide

section Bells

-- Midnight on a clock that is a quarter of a millisecond ahead of universal time.
def bell : Moment :=
  ⟨⟨2024,1,1,by decide⟩,.midnight,some ⟨250,by decide⟩⟩

def bellText : String :=
  "2024-01-01T00:00:00+00:00:00.000250"

def bellKeys (bound : Value) : Entries :=
  [(.text "type",.text "date"),(.text "min",bound)]

theorem bell_given : given? (bellKeys (.text bellText)) "min" = some (.text bellText) ∧
    given? (bellKeys (.moment bell)) "min" = some (.moment bell) ∧
    ∀ v, given? (bellKeys v) "max" = none := by
  simp [bellKeys,given?,Entries.field_cons,Entries.field_nil]

theorem bell_denoted :
    (Value.text bellText).Denotes bell.instant ∧ (Value.moment bell).Denotes bell.instant := by
  have spelled : bell.IsSpelled bellText :=
    ⟨⟨⟨2024,1,1,by decide⟩,.midnight,some Offset.universal⟩,by cbv,rfl,rfl,by cbv⟩
  exact ⟨.text rfl spelled (Moment.isAt_exact.mpr rfl),.moment (Moment.isAt_exact.mpr rfl)⟩

theorem bell_compiled {v : Value} {m : Moment} (given : given? (bellKeys v) "min" = some v)
    (read : v.toMoment = .ok m) :
    (ofDeclaration (.text "bell") (Declaration.ofValue (.map (bellKeys v)))).outcome = .ok (.moment (some m) none) := by
  apply moment_compiled
  · have kind : Entries.field? (bellKeys v) typeKey = some (.text "date") := by
      simp [bellKeys,Entries.field_cons,typeKey]
    rw [Entries.field_found kind]
    cbv
  · rw [dateBound,given]
    simp only [read]
    rfl
  · rw [dateBound,bell_given.2.2 v]

-- Two spellings of one bound: the moment takes itself, and the text does not.
theorem bell_refused : SameBound (bellKeys (.text bellText)) (bellKeys (.moment bell)) "min" ∧
    SameBound (bellKeys (.text bellText)) (bellKeys (.moment bell)) "max" ∧
    Within (bellKeys (.text bellText)) bell.instant ∧ ∃ shape again,
      (ofDeclaration (.text "bell") (Declaration.ofValue (.map (bellKeys (.text bellText))))).outcome = .ok shape ∧
      (ofDeclaration (.text "bell") (Declaration.ofValue (.map (bellKeys (.moment bell))))).outcome = .ok again ∧
      ¬ Accepts Format.isMatch shape (.moment bell) ∧ Accepts Format.isMatch again (.moment bell) := by
  obtain ⟨text,moment,nothing⟩ := bell_given
  obtain ⟨denoted,own⟩ := bell_denoted
  have found : Moment.read? bellText = some ⟨⟨2024,1,1,by decide⟩,.midnight,some Offset.universal⟩ := by
    cbv
  have read : (Value.text bellText).toMoment = .ok ⟨⟨2024,1,1,by decide⟩,.midnight,some Offset.universal⟩ := by
    exact Value.toMoment_whole.mpr found
  refine ⟨?_,?_,?_,_,_,bell_compiled text read,bell_compiled moment rfl,?_,?_⟩
  · unfold SameBound
    rw [text,moment]
    exact .some ⟨_,denoted,own⟩
  · unfold SameBound
    rw [nothing,nothing]
    exact .none
  · rw [Within,bound_given text denoted]
    exact ⟨Int.le_refl _,bound_absent (nothing _)⟩
  · rw [accepts_moment]
    rintro ⟨_,⟨⟩,early,_⟩
    have midnight : (⟨⟨2024,1,1,by decide⟩,.midnight,some Offset.universal⟩ : Moment).instant = bell.instant + 250 := by
      cbv
    exact absurd (early _ rfl) (by rw [midnight]; omega)
  · refine accepts_moment.mpr ⟨_,rfl,?_,?_⟩
    · rintro _ ⟨⟩
      exact Int.le_refl _
    · rintro _ ⟨⟩

end Bells

end Shape

end TemplateSchema
