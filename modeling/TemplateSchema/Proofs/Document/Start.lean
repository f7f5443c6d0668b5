import TemplateSchema.Proofs.Document.Conformance
import TemplateSchema.Proofs.Document.Initial
import TemplateSchema.Proofs.Schema.Names
/-!
What a new document is wrong in from the start. A declared default is judged as any value is;
without one, the constraints of a field tell whether the plain value of its kind will do, and an
object is wrong in its properties. The judge names the fields that start wrong, and no others.
-/
set_option autoImplicit false
namespace TemplateSchema.Document

variable {now : Moment} {f p : Field} {h : Header} {properties : List Field} {filled : Entries}

-- Empty text, as the default of what may be left out, counts as no value; zero, an empty list and
-- an empty mapping do not.
inductive StartsWrong : Field → Prop where
  | declared {f : Field} {d : Value} (own : f.default? = some d)
      (looked : ¬ (f.isOptional = true ∧ isEmpty d = true)) (refused : judge f d ≠ none) : StartsWrong f
  | string {h : Header} {lo hi : Option Int} {format : Option Format} (plain : h.default? = none)
      (required : h.isOptional = false)
      (cause : (∃ n, lo = some n ∧ 0 < n) ∨ (∃ n, hi = some n ∧ n < 0) ∨ format = some .email) :
      StartsWrong (.string h lo hi format)
  | number {h : Header} {lo hi : Option Quantity} {isInteger isPositive : Option Bool} (plain : h.default? = none)
      (cause : isPositive = some true ∨ (∃ b, lo = some b ∧ (Quantity.int 0).lt b = true) ∨
        ∃ b, hi = some b ∧ b.lt (.int 0) = true) :
      StartsWrong (.number h lo hi isInteger isPositive)
  | array {h : Header} {lo hi : Option Int} {item : Field} (plain : h.default? = none)
      (cause : (∃ n, lo = some n ∧ 0 < n) ∨ ∃ n, hi = some n ∧ n < 0) : StartsWrong (.array h lo hi item)
  | enum {h : Header} (plain : h.default? = none) (required : h.isOptional = false) : StartsWrong (.enum h [])
  | object {h : Header} {properties : List Field} {p : Field} (plain : h.default? = none) (property : p ∈ properties)
      (inside : StartsWrong p) : StartsWrong (.object h properties)

section Objects

theorem unfilled_kept {name : Text} (others : ∀ q ∈ properties, q.name ≠ name) :
    Entries.field? (initialProperties now filled properties) name = Entries.field? filled name := by
  induction properties generalizing filled with
  | nil => rfl
  | cons q rest ih =>
    obtain ⟨different,others⟩ := List.forall_mem_cons.mp others
    rw [initialProperties,ih others,Entries.field_insert,if_neg different]

theorem last_filled (last : IsLast properties p) :
    Entries.field (initialProperties now filled properties) p.name = initial now p := by
  obtain ⟨before,after,rfl,others⟩ := last
  induction before generalizing filled with
  | nil =>
    apply Entries.field_found
    rw [List.nil_append,initialProperties,unfilled_kept others,Entries.field_insert,if_pos rfl]
  | cons q before ih => exact ih

theorem distinct_last (distinct : (properties.map Field.name).Nodup) (member : p ∈ properties) :
    IsLast properties p := by
  obtain ⟨before,after,rfl⟩ := List.append_of_mem member
  refine ⟨before,after,rfl,?_⟩
  intro q behind same
  rw [List.map_append,List.map_cons] at distinct
  have fresh := (List.nodup_cons.mp (List.nodup_append.mp distinct).2.1).1
  exact fresh (List.mem_map.mpr ⟨q,behind,same⟩)

end Objects

section Kinds

theorem initial_declared {d : Value} (now : Moment) (own : f.default? = some d) : initial now f = d := by
  cases f <;> simp_all [initial,Field.default?,Field.header]

theorem wrong_declared {d : Value} (own : f.default? = some d) : StartsWrong f ↔ ¬ Fits f d := by
  rw [fits_exact,not_or]
  constructor
  · intro wrong
    cases wrong with
    | declared given looked refused =>
      obtain rfl := Option.some.inj (own.symm.trans given)
      exact ⟨looked,refused⟩
    | string plain => cases plain.symm.trans own
    | number plain => cases plain.symm.trans own
    | array plain => cases plain.symm.trans own
    | enum plain => cases plain.symm.trans own
    | object plain => cases plain.symm.trans own
  · rintro ⟨looked,refused⟩
    exact .declared own looked refused

theorem wrong_string {lo hi : Option Int} {format : Option Format} (plain : h.default? = none) :
    StartsWrong (.string h lo hi format) ↔ ¬ Fits (.string h lo hi format) (.text "") := by
  have fits : Fits (.string h lo hi format) (.text "") ↔ h.isOptional = true ∨
      (∀ n, lo = some n → n ≤ 0) ∧ (∀ n, hi = some n → 0 ≤ n) ∧ format ≠ some .email := by
    rw [fits_exact,conforms_string]
    simp [isEmpty,Field.isOptional,Field.header,Text.isEmpty,Text.length,Text.holds]
  rw [fits]
  simp only [not_or,not_and_or,not_forall,exists_prop,not_le,ne_eq,not_not,Bool.not_eq_true]
  constructor
  · intro wrong
    cases wrong with
    | declared own => cases plain.symm.trans own
    | string _ required cause => exact ⟨required,cause⟩
  · rintro ⟨required,cause⟩
    exact .string plain required cause

theorem wrong_number {lo hi : Option Quantity} {isInteger isPositive : Option Bool} (plain : h.default? = none) :
    StartsWrong (.number h lo hi isInteger isPositive) ↔ ¬ Fits (.number h lo hi isInteger isPositive) (.int 0) := by
  have fits : Fits (.number h lo hi isInteger isPositive) (.int 0) ↔ isPositive ≠ some true ∧
      (∀ b, lo = some b → (Quantity.int 0).lt b = false) ∧ ∀ b, hi = some b → b.lt (.int 0) = false := by
    have zero : (Quantity.int 0).isPositive = false := rfl
    rw [fits_exact,conforms_number]
    cases isPositive <;> simp [isEmpty,Quantity.ofValue?,Quantity.isIntegral,zero]
  rw [fits]
  simp only [not_and_or,not_forall,exists_prop,ne_eq,not_not,Bool.not_eq_false]
  constructor
  · intro wrong
    cases wrong with
    | declared own => cases plain.symm.trans own
    | number _ cause => exact cause
  · intro cause
    exact .number plain cause

theorem wrong_array {lo hi : Option Int} {item : Field} (plain : h.default? = none) :
    StartsWrong (.array h lo hi item) ↔ ¬ Fits (.array h lo hi item) (.list []) := by
  have fits : Fits (.array h lo hi item) (.list []) ↔
      (∀ n, lo = some n → n ≤ 0) ∧ ∀ n, hi = some n → 0 ≤ n := by
    rw [fits_exact,conforms_array]
    simp [isEmpty]
  rw [fits]
  simp only [not_and_or,not_forall,exists_prop,not_le]
  constructor
  · intro wrong
    cases wrong with
    | declared own => cases plain.symm.trans own
    | array _ cause => exact cause
  · intro cause
    exact .array plain cause

theorem wrong_enum {options : List Text} (plain : h.default? = none) :
    StartsWrong (.enum h options) ↔ ¬ Fits (.enum h options) (.text (options.headD "")) := by
  rw [fits_exact,conforms_enum,not_or]
  constructor
  · intro wrong
    cases wrong with
    | declared own => cases plain.symm.trans own
    | enum _ required => simp [Field.isOptional,Field.header,required]
  · rintro ⟨looked,unlisted⟩
    cases options with
    | nil =>
      apply StartsWrong.enum plain
      simpa [isEmpty,Field.isOptional,Field.header,Text.isEmpty] using looked
    | cons first rest =>
      exact absurd ⟨first,rfl,List.mem_cons_self⟩ unlisted

-- The kinds whose plain value no constraint is about.
theorem wrong_never {v : Value} (sound : Conforms f v) (never : ¬ StartsWrong f) : StartsWrong f ↔ ¬ Fits f v :=
  iff_of_false never (not_not_intro (fits_exact.mpr (.inr sound)))

theorem wrong_boolean (plain : h.default? = none) : StartsWrong (.boolean h) ↔ ¬ Fits (.boolean h) (.bool false) := by
  apply wrong_never (conforms_boolean.mpr ⟨false,rfl⟩)
  intro wrong
  cases wrong with
  | declared own => cases plain.symm.trans own

theorem wrong_date {lo hi : Option Moment} (plain : h.default? = none) :
    StartsWrong (.date h lo hi) ↔ ¬ Fits (.date h lo hi) (.moment now) := by
  apply wrong_never (conforms_date.mpr ⟨now,rfl⟩)
  intro wrong
  cases wrong with
  | declared own => cases plain.symm.trans own

theorem wrong_record {inner : Field} (plain : h.default? = none) :
    StartsWrong (.record h inner) ↔ ¬ Fits (.record h inner) (.map []) := by
  apply wrong_never (conforms_record.mpr ⟨[],rfl,by simp⟩)
  intro wrong
  cases wrong with
  | declared own => cases plain.symm.trans own

theorem wrong_object (plain : h.default? = none) (distinct : (properties.map Field.name).Nodup)
    (each : ∀ p ∈ properties, StartsWrong p ↔ ¬ Fits p (initial now p)) :
    StartsWrong (.object h properties) ↔
      ¬ Fits (.object h properties) (.map (initialProperties now [] properties)) := by
  have fits : Fits (.object h properties) (.map (initialProperties now [] properties)) ↔
      ∀ p ∈ properties, Fits p (initial now p) := by
    rw [fits_exact,conforms_object]
    simp only [isEmpty,Bool.false_eq_true,and_false,false_or,Value.map.injEq,exists_eq_left']
    refine forall₂_congr ?_
    intro p member
    rw [last_filled (distinct_last distinct member)]
  rw [fits]
  constructor
  · intro wrong
    cases wrong with
    | declared own => cases plain.symm.trans own
    | object _ member inside =>
      intro all
      exact (each _ member).mp inside (all _ member)
  · intro refused
    obtain ⟨p,member,misfit⟩ : ∃ p ∈ properties, ¬ Fits p (initial now p) := by
      simpa using refused
    exact .object plain member ((each p member).mpr misfit)

-- A default cuts the recursion off; the rest is for fields without one.
theorem wrong_plain (undeclared : f.default? = none → (StartsWrong f ↔ ¬ Fits f (initial now f))) :
    StartsWrong f ↔ ¬ Fits f (initial now f) := by
  cases own : f.default? with
  | none => exact undeclared own
  | some d =>
    rw [initial_declared now own]
    exact wrong_declared own

mutual

theorem wrong_exact (now : Moment) : (f : Field) → f.Everywhere Field.HasDistinctNames →
    (StartsWrong f ↔ ¬ Fits f (initial now f))
  | .string h .., _ => wrong_plain fun plain => by
    rw [initial,show h.default? = none from plain]
    exact wrong_string plain
  | .number h .., _ => wrong_plain fun plain => by
    rw [initial,show h.default? = none from plain]
    exact wrong_number plain
  | .boolean h, _ => wrong_plain fun plain => by
    rw [initial,show h.default? = none from plain]
    exact wrong_boolean plain
  | .date h .., _ => wrong_plain fun plain => by
    rw [initial,show h.default? = none from plain]
    exact wrong_date plain
  | .enum h _, _ => wrong_plain fun plain => by
    rw [initial,show h.default? = none from plain]
    exact wrong_enum plain
  | .array h .., _ => wrong_plain fun plain => by
    rw [initial,show h.default? = none from plain]
    exact wrong_array plain
  | .record h _, _ => wrong_plain fun plain => by
    rw [initial,show h.default? = none from plain]
    exact wrong_record plain
  | .object h properties, distinct => wrong_plain fun plain => by
    rw [initial,show h.default? = none from plain]
    exact wrong_object plain distinct.1 (wrongs_exact now properties distinct.2)

theorem wrongs_exact (now : Moment) : (properties : List Field) →
    Field.EverywhereIn Field.HasDistinctNames properties →
    ∀ p ∈ properties, StartsWrong p ↔ ¬ Fits p (initial now p)
  | [], _ => by simp
  | p :: rest, distinct =>
    List.forall_mem_cons.mpr ⟨wrong_exact now p distinct.1,wrongs_exact now rest distinct.2⟩

end

end Kinds

section Documents

variable {schema : Schema}

theorem initial_get (schema : Schema) (key : Value) :
    Entries.get? (schema.map fun row => (row.1,initial now row.2)) key = (schema.get? key).map (initial now) := by
  rw [Entries.get_rows,Schema.get?,Option.map_map]
  rfl

-- The field under a key is the one that is declared there.
theorem default_adopted {declared key v : Value} {properties : List (Value × Declaration)} {d : Declaration}
    (named : Declaration.AreNamed declared) (normalized : (Normal.schema declared).outcome = .ok schema)
    (read : declarations declared = .ok properties) (member : (key,d) ∈ properties) (default_ : d.default? = some v)
    (known : schema.get? key = some f) : f.default? = some (Normal.adopted f v) := by
  obtain ⟨texts,apart⟩ := schema_named named normalized
  obtain ⟨again,reread,rows⟩ := Normal.schema_exact.mp normalized
  obtain rfl : properties = again := Except.ok.inj (read.symm.trans reread)
  obtain ⟨g,row,own⟩ := Normal.row_declared rows member
  obtain rfl : g = f := Option.some.inj ((get_row apart (texts _ row) row).symm.trans known)
  rw [Normal.field_default own,default_,Option.map_some]

-- Under its key stands the initial value of a field, and of no other.
theorem start_complaint {declared : Value} (named : Declaration.AreNamed declared)
    (normalized : (Normal.schema declared).outcome = .ok schema) (now : Moment) {key : Value} {c : Complaint} :
    (key,c) ∈ complaints schema (schema.map fun row => (row.1,initial now row.2)) ↔
      ∃ f, schema.get? key = some f ∧ ¬ Fits f (initial now f) ∧ judge f (initial now f) = some c := by
  obtain ⟨texts,apart⟩ := schema_named named normalized
  rw [complaint_exact]
  constructor
  · rintro ⟨f,row,misfit⟩
    have known : schema.get? key = some f := get_row apart (texts _ row) row
    rw [Entries.getOrNull,initial_get,known] at misfit
    exact ⟨f,known,misfit⟩
  · rintro ⟨f,known,misfit⟩
    refine ⟨f,row_found (schema_names normalized) known,?_⟩
    rw [Entries.getOrNull,initial_get,known]
    exact misfit

theorem start_reported {declared : Value} (named : Declaration.AreNamed declared)
    (normalized : (Normal.schema declared).outcome = .ok schema) (now : Moment) {key : Value} :
    (∃ c, (key,c) ∈ complaints schema (schema.map fun row => (row.1,initial now row.2))) ↔
      ∃ f, schema.get? key = some f ∧ ¬ Fits f (initial now f) := by
  simp only [start_complaint named normalized]
  constructor
  · rintro ⟨_,f,known,misfit,_⟩
    exact ⟨f,known,misfit⟩
  · rintro ⟨f,known,misfit⟩
    obtain ⟨c,complaint⟩ := Option.ne_none_iff_exists'.mp misfit
    exact ⟨c,f,known,misfit_exact.mp complaint⟩

-- A field that is known starts wrong where its initial value does not fit.
theorem known_wrong {declared key : Value} (distinct : Declaration.Throughout Declaration.HasDistinctNames declared)
    (normalized : (Normal.schema declared).outcome = .ok schema) (now : Moment) (known : schema.get? key = some f) :
    StartsWrong f ↔ ¬ Fits f (initial now f) := by
  have everywhere := Field.everywhereIn_exact.mp
    (Normal.everywhere_schema (fun _ _ _ => distinct_field) distinct normalized)
  have row := row_found (schema_names normalized) known
  exact wrong_exact now f (everywhere f (List.mem_map_of_mem row))

-- The fields that start wrong are reported, and no others, unless the report on one of them has to spell
-- out an integer that is too long for that.
theorem initial_reported {declared : Value} (named : Declaration.AreNamed declared)
    (distinct : Declaration.Throughout Declaration.HasDistinctNames declared)
    (normalized : (Normal.schema declared).outcome = .ok schema) (now : Moment) :
    (∀ found, report schema (initialValues now schema) = .ok found →
      ∀ key, (∃ c, (key,c) ∈ found) ↔ ∃ f, schema.get? key = some f ∧ StartsWrong f) ∧
    ∀ e, report schema (initialValues now schema) = .error e ↔
      e = .digits 0 ∧ ∃ key f c, schema.get? key = some f ∧ StartsWrong f ∧
        judge f (initial now f) = some c ∧ c.isShort = false := by
  have judged : validate schema (initialValues now schema) =
      .ok (complaints schema (schema.map fun row => (row.1,initial now row.2))) := validate_map _ _
  have wrong {key : Value} {f : Field} (known : schema.get? key = some f) :=
    known_wrong distinct normalized now known
  constructor
  · intro found shown key
    obtain ⟨rfl,_⟩ := (report_shows judged).mp shown
    refine (start_reported named normalized now).trans (exists_congr fun f => and_congr_right fun known => ?_)
    exact (wrong known).symm
  · intro e
    rw [report_fails judged]
    refine and_congr_right fun _ => ?_
    constructor
    · rintro ⟨⟨key,c⟩,member,long⟩
      obtain ⟨f,known,misfit,own⟩ := (start_complaint named normalized now).mp member
      exact ⟨key,f,c,known,(wrong known).mpr misfit,own,long⟩
    · rintro ⟨key,f,c,known,starts,own,long⟩
      have member := (start_complaint named normalized now).mpr ⟨f,known,(wrong known).mp starts,own⟩
      exact ⟨(key,c),member,long⟩

end Documents

section Loans

-- A loan needs a title and a rate; who is to be written to may be left out, and the kind that it is of
-- unless told is none that there is.
def loanSchema : Value :=
  .map [(.text "fields",.map [
    (.text "title",.map [(.text "type",.text "string"),(.text "minLength",.int 3)]),
    (.text "contact",.map [(.text "type",.text "string"),(.text "format",.text "email"),
      (.text "optional",.bool true)]),
    (.text "terms",.map [(.text "type",.text "object"),(.text "properties",.map [
      (.text "rate",.map [(.text "type",.text "number"),(.text "positive",.bool true)]),
      (.text "due",.map [(.text "type",.text "date")])])]),
    (.text "kind",.map [(.text "type",.text "enum"),(.text "options",.list [.text "short",.text "long"]),
      (.text "default",.text "other")])])]

def loanFields : Schema :=
  [(.text "title",.string ⟨"title","",false,none⟩ (some 3) none none),
    (.text "contact",.string ⟨"contact","",true,none⟩ none none (some .email)),
    (.text "terms",.object ⟨"terms","",false,none⟩ [
      .number ⟨"rate","",false,none⟩ none none none (some true),
      .date ⟨"due","",false,none⟩ none none]),
    (.text "kind",.enum ⟨"kind","",false,some (.text "other")⟩ ["short","long"])]

theorem loan_declared : declarations loanSchema = .ok [
    (.text "title",.string [(.text "type",.text "string"),(.text "minLength",.int 3)]),
    (.text "contact",.string [(.text "type",.text "string"),(.text "format",.text "email"),
      (.text "optional",.bool true)]),
    (.text "terms",.object [(.text "type",.text "object"),(.text "properties",.map [
        (.text "rate",.map [(.text "type",.text "number"),(.text "positive",.bool true)]),
        (.text "due",.map [(.text "type",.text "date")])])] [
      (.text "rate",.number [(.text "type",.text "number"),(.text "positive",.bool true)]),
      (.text "due",.date [(.text "type",.text "date")])]),
    (.text "kind",.enum [(.text "type",.text "enum"),(.text "options",.list [.text "short",.text "long"]),
      (.text "default",.text "other")])] := by
  cbv

theorem loan_named : Declaration.AreNamed loanSchema := by
  intro properties read
  obtain rfl := Except.ok.inj (loan_declared.symm.trans read)
  simp [Value.same_text]

theorem loan_distinct : Declaration.Throughout Declaration.HasDistinctNames loanSchema := by
  rw [Declaration.throughout_exact loan_declared]
  simp [Declaration.EverywhereIn,Declaration.Everywhere,Declaration.HasDistinctNames,Value.same_text]

def loanClock : Moment :=
  ⟨⟨2025,1,2,by decide⟩,⟨3,4,5,6,by decide⟩,none⟩

theorem loan_reported :
    (∀ found, report loanFields (initialValues loanClock loanFields) = .ok found →
      ∀ key, (∃ c, (key,c) ∈ found) ↔ ∃ f, loanFields.get? key = some f ∧ StartsWrong f) ∧
    ∀ e, report loanFields (initialValues loanClock loanFields) = .error e ↔
      e = .digits 0 ∧ ∃ key f c, loanFields.get? key = some f ∧ StartsWrong f ∧
        judge f (initial loanClock f) = some c ∧ c.isShort = false :=
  initial_reported loan_named loan_distinct (by cbv) loanClock

example : validate loanFields (initialValues loanClock loanFields) = .ok [
    (.text "title",⟨[],.minLength 3⟩),(.text "terms",⟨[.property "rate"],.positive⟩),
    (.text "kind",⟨[],.oneOf ["short","long"]⟩)] := by
  cbv

end Loans

section Seals

-- A seal of some characters at least.
def sealSchema (n : Int) : Value :=
  .map [(.text "fields",.map [(.text "seal",.map [(.text "type",.text "string"),(.text "minLength",.int n)])])]

def sealField (n : Int) : Field :=
  .string ⟨"seal","",false,none⟩ (some n) none none

theorem seal_judged {n : Int} (positive : 0 < n) :
    validate [(.text "seal",sealField n)] (initialValues loanClock [(.text "seal",sealField n)]) =
      .ok [(.text "seal",Complaint.of (.minLength n))] := by
  have refused : judge (sealField n) (.text "") = some (Complaint.of (.minLength n)) := by
    simp [sealField,judge,judgeText,Text.length,rejectBelow,reject,positive]
  have looked : unlessEmpty (sealField n) (.text "") (judge (sealField n) (.text "")) =
      some (Complaint.of (.minLength n)) := refused
  have found : Entries.getOrNull [(.text "seal",.text "")] (.text "seal") = .text "" := by cbv
  change Except.ok (complaints [(.text "seal",sealField n)] [(.text "seal",.text "")]) = _
  simp only [complaints,found,looked,List.filterMap_cons,List.filterMap_nil,Option.map_some]

-- So many characters that their number cannot be written: the field starts wrong, and there is no report.
theorem seal_unreported :
    (Normal.schema (sealSchema (10 ^ 4300))).outcome = .ok [(.text "seal",sealField (10 ^ 4300))] ∧
    StartsWrong (sealField (10 ^ 4300)) ∧
    report [(.text "seal",sealField (10 ^ 4300))]
      (initialValues loanClock [(.text "seal",sealField (10 ^ 4300))]) = .error (.digits 0) := by
  have positive : (0 : Int) < 10 ^ 4300 := by decide +kernel
  have long : (Complaint.of (.minLength (10 ^ 4300))).isShort = false := by decide +kernel
  have normal (n : Int) : (Normal.schema (sealSchema n)).outcome = .ok [(.text "seal",sealField n)] := by cbv
  exact ⟨normal _,.string rfl rfl (.inl ⟨_,rfl,positive⟩),
    (report_fails (seal_judged positive)).mpr ⟨rfl,_,List.mem_cons_self,long⟩⟩

end Seals

end TemplateSchema.Document
