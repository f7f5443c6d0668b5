import Mathlib.Data.List.TakeWhile
import TemplateSchema.Proofs.Shape.Acceptance
import TemplateSchema.Proofs.Value.Entries
/-!
The strict form of an email address, as its parts spell it out: something, one `@`, and a domain of
two parts with a dot between them, with no blank anywhere. A line feed behind an address is let
through with it.
-/
set_option autoImplicit false
namespace TemplateSchema

namespace Email

-- The parts of the domain may hold further dots, so it may be cut at more than one of them.
def IsAddress (s : Text) : Prop :=
  (∃ l d e : Text, l ≠ "" ∧ d ≠ "" ∧ e ≠ "" ∧ s = l ++ "@" ++ d ++ "." ++ e) ∧
    s.points.count (.char '@') = 1 ∧ ∀ c, .char c ∈ s.points → Text.isBlank c = false

variable {ps l domain : List Point} {s : Text}

theorem blank_exact : ps.any isBlank = false ↔ ∀ c, .char c ∈ ps → Text.isBlank c = false := by
  rw [List.any_eq_false]
  constructor
  · intro solid c member
    simpa [isBlank,Point.char?] using solid _ member
  · intro solid p member
    cases p with
    | char c => simp [isBlank,Point.char?,solid c member]
    | half h => simp [isBlank,Point.char?]

theorem innerDot_exact : hasInnerDot domain = true ↔ ∃ d e, d ≠ [] ∧ e ≠ [] ∧ domain = d ++ .char '.' :: e := by
  unfold hasInnerDot
  rw [List.contains_iff_mem]
  constructor
  · intro inside
    obtain ⟨c,rest,rfl⟩ := List.exists_cons_of_ne_nil (l := domain) (by rintro rfl; cases inside)
    have some_ : rest ≠ [] := by rintro rfl; cases inside
    obtain ⟨d,e,before⟩ := List.append_of_mem inside
    refine ⟨c :: d,e ++ [rest.getLast some_],by simp,by simp,?_⟩
    have whole := List.dropLast_concat_getLast some_
    rw [List.drop_one,List.tail_cons] at before
    rw [before] at whole
    simpa using whole.symm
  · rintro ⟨d,e,first,last,rfl⟩
    obtain ⟨c,d,rfl⟩ := List.exists_cons_of_ne_nil first
    simp [List.dropLast_append_of_ne_nil,List.dropLast_cons_of_ne_nil last]

-- The first `@` ends the part in front of it.
theorem span_at (free : .char '@' ∉ l) (domain : List Point) :
    (l ++ .char '@' :: domain).takeWhile (· != .char '@') = l ∧
      (l ++ .char '@' :: domain).dropWhile (· != .char '@') = .char '@' :: domain := by
  have other : ∀ p ∈ l, (p != .char '@') = true := by
    intro c member
    rw [bne_iff_ne]
    rintro rfl
    exact free member
  rw [List.takeWhile_append_of_pos other,List.dropWhile_append_of_pos other]
  simp

theorem isAddress_cut : isAddress ps = true ↔ ∃ l domain, ps = l ++ .char '@' :: domain ∧ l ≠ [] ∧
    .char '@' ∉ l ∧ .char '@' ∉ domain ∧ hasInnerDot domain = true ∧ ∀ c, .char c ∈ ps → Text.isBlank c = false := by
  constructor
  · intro address
    have whole : ps.takeWhile (· != .char '@') ++ ps.dropWhile (· != .char '@') = ps :=
      List.takeWhile_append_dropWhile
    have before : .char '@' ∉ ps.takeWhile (· != .char '@') := by
      intro member
      simpa using List.mem_takeWhile_imp member
    have first := List.head?_dropWhile_not (· != .char '@') ps
    unfold isAddress at address
    simp only at address
    cases behind : ps.dropWhile (· != .char '@') with
    | nil => rw [behind] at address; cases address
    | cons p domain =>
      rw [behind] at address first whole
      obtain rfl : p = .char '@' := by simpa using first
      simp only [Bool.and_eq_true,Bool.not_eq_true',List.isEmpty_eq_false_iff] at address
      obtain ⟨⟨⟨some_,single⟩,dot⟩,solid⟩ := address
      refine ⟨_,domain,whole.symm,some_,before,?_,dot,blank_exact.mp solid⟩
      simpa using single
  · rintro ⟨l,domain,rfl,some_,before,behind,dot,solid⟩
    obtain ⟨front,back⟩ := span_at before domain
    unfold isAddress
    simp only [front,back,Bool.and_eq_true,Bool.not_eq_true',List.isEmpty_eq_false_iff]
    exact ⟨⟨⟨some_,by simpa using behind⟩,dot⟩,blank_exact.mpr solid⟩

theorem isAddress_exact : isAddress s.points = true ↔ IsAddress s := by
  have given {ps : List Point} (some_ : ps ≠ []) : Text.ofPoints ps ≠ "" := fun empty =>
    some_ (by simpa [Text.points_ofPoints] using Text.points_empty.mpr empty)
  have parts (l d e : Text) : (l ++ "@" ++ d ++ "." ++ e).points =
      l.points ++ .char '@' :: (d.points ++ .char '.' :: e.points) := by
    simp only [Text.append_points,List.append_assoc]
    rfl
  rw [isAddress_cut]
  constructor
  · rintro ⟨l,domain,whole,some_,before,behind,dot,solid⟩
    obtain ⟨d,e,first,last,rfl⟩ := innerDot_exact.mp dot
    refine ⟨⟨_,_,_,given some_,given first,given last,Text.points_same ?_⟩,?_,solid⟩
    · rw [parts,Text.points_ofPoints,Text.points_ofPoints,Text.points_ofPoints,whole]
    · rw [whole,List.count_append,List.count_cons_self,List.count_eq_zero.mpr before,List.count_eq_zero.mpr behind]
  · rintro ⟨⟨l,d,e,some_,first,last,rfl⟩,single,solid⟩
    rw [parts,List.count_append,List.count_cons_self] at single
    refine ⟨_,_,parts l d e,mt Text.points_empty.mp some_,List.count_eq_zero.mp (by omega),
      List.count_eq_zero.mp (by omega),?_,solid⟩
    exact innerDot_exact.mpr ⟨_,_,mt Text.points_empty.mp first,mt Text.points_empty.mp last,rfl⟩

-- A line feed at the end is not part of what is looked at, and no address ends in one.
theorem isValid_exact : isValid s = true ↔ IsAddress s ∨ ∃ t, s = t ++ "\n" ∧ IsAddress t := by
  have fed (t : Text) : (t ++ "\n").points = t.points ++ [.char '\n'] := Text.append_points t "\n"
  unfold isValid withoutFinalFeed
  split
  · rename_i ended
    obtain ⟨ps,whole⟩ := List.getLast?_eq_some_iff.mp ended
    have cut : s.points.dropLast = (Text.ofPoints ps).points := by
      rw [whole,List.dropLast_concat,Text.points_ofPoints]
    rw [cut,isAddress_exact]
    constructor
    · intro address
      refine .inr ⟨_,Text.points_same ?_,address⟩
      rw [fed,Text.points_ofPoints,whole]
    · rintro (address | ⟨t,rfl,address⟩)
      · have blank := address.2.2 '\n' (by rw [whole]; simp)
        cases blank
      · rw [fed,List.append_cancel_right_eq] at whole
        rwa [←whole,Text.ofPoints_points]
  · rename_i unended
    rw [isAddress_exact]
    refine ⟨.inl,?_⟩
    rintro (address | ⟨t,rfl,_⟩)
    · exact address
    · exact absurd (by simp [fed]) unended

end Email

namespace Shape

open Declaration (given? typeKey)

variable {keys : Entries}

-- What is declared as an email address, of any length.
structure IsEmail (keys : Entries) : Prop where
  typed : Kind.read? (Entries.field keys typeKey) = some .string
  formatted : Entries.field? keys "format" = some (.text "email")
  unbounded : given? keys "minLength" = none ∧ given? keys "maxLength" = none

theorem email_compiled (name : Value) (email : IsEmail keys) :
    (ofDeclaration name (Declaration.ofValue (.map keys))).outcome = .ok (.text none none (some .email)) := by
  obtain ⟨typed,formatted,least,most⟩ := email
  have declared : Declaration.ofValue (.map keys) = .string keys := by rw [Declaration.ofValue,typed]
  have read : format keys = .ok (some .email) := by rw [format,Entries.field_found formatted]; rfl
  have drafted : (draft name (.string keys)).outcome = .ok (some (.text none none (some .email))) := by
    refine Traced.bind_outcome.mpr ⟨some .email,by rw [Traced.ofExcept_outcome,read],?_⟩
    simp [constraint?,least,most]
    rfl
  rw [declared]
  exact Traced.bind_outcome.mpr ⟨_,drafted,rfl⟩

-- A compiled email address takes the addresses, with or without a line feed behind them, and no other text.
theorem email_judged (name : Value) (email : IsEmail keys) :
    ∃ shape, (ofDeclaration name (Declaration.ofValue (.map keys))).outcome = .ok shape ∧
      ∀ s : Text, Accepts Format.isMatch shape (.text s) ↔
        Email.IsAddress s ∨ ∃ t, s = t ++ "\n" ∧ Email.IsAddress t := by
  refine ⟨_,email_compiled name email,?_⟩
  intro s
  rw [accepts_text,← Email.isValid_exact]
  constructor
  · rintro ⟨_,same,_,_,_,matched⟩
    cases same
    exact matched .email rfl
  · intro valid
    refine ⟨s,rfl,by simp,by simp,by simp,?_⟩
    rintro _ ⟨⟩
    exact valid

def mailKeys : Entries :=
  [(.text "type",.text "string"),(.text "format",.text "email")]

theorem mail_isEmail : IsEmail mailKeys := by
  refine ⟨by decide +kernel,?_,?_⟩
  · simp [mailKeys,Entries.field_cons]
  · simp [mailKeys,given?,Entries.field_cons,Entries.field_nil]

theorem mail_judged : IsEmail mailKeys ∧ ∃ shape,
    (ofDeclaration (.text "mail") (Declaration.ofValue (.map mailKeys))).outcome = .ok shape ∧
      Accepts Format.isMatch shape (.text "a@b.c.d") ∧ ¬ Accepts Format.isMatch shape (.text "a@b.") := by
  obtain ⟨shape,compiled,judged⟩ := email_judged (.text "mail") mail_isEmail
  refine ⟨mail_isEmail,shape,compiled,?_,?_⟩
  · exact (judged _).mpr (Email.isValid_exact.mp (by decide +kernel))
  · intro accepted
    exact absurd (Email.isValid_exact.mpr ((judged _).mp accepted)) (by decide +kernel)

-- The line feed is a blank, and the text with it is accepted all the same.
theorem fed_address_accepted : ∃ shape,
    (ofDeclaration (.text "mail") (Declaration.ofValue (.map mailKeys))).outcome = .ok shape ∧
      Accepts Format.isMatch shape (.text "a@b.co\n") ∧ ¬ Email.IsAddress "a@b.co\n" := by
  refine ⟨_,email_compiled _ mail_isEmail,?_,?_⟩
  · refine accepts_text.mpr ⟨_,rfl,by simp,by simp,by simp,?_⟩
    rintro _ ⟨⟩
    decide +kernel
  · intro address
    cases address.2.2 '\n' (by decide +kernel)

end Shape

end TemplateSchema
