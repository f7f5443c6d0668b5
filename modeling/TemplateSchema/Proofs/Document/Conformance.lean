import TemplateSchema.Document.Validation
/-!
When a value draws no complaint as that of a field, one kind of field at a time. A null value never
conforms; where a field is optional it is not looked at.
-/
set_option autoImplicit false
namespace TemplateSchema.Document

def Conforms (f : Field) (v : Value) : Prop :=
  judge f v = none

-- What a document is asked for at the place of a field.
def Fits (f : Field) (v : Value) : Prop :=
  unlessEmpty f v (judge f v) = none

theorem fits_exact {f : Field} {v : Value} :
    Fits f v ↔ (f.isOptional = true ∧ isEmpty v = true) ∨ Conforms f v := by
  unfold Fits unlessEmpty Conforms
  split
  · rename_i skipped
    simp only [Bool.and_eq_true] at skipped
    simp [skipped]
  · rename_i looked
    simp only [Bool.and_eq_true] at looked
    simp [looked]

theorem reject_none {rule : Rule} {failed : Bool} : reject rule failed = none ↔ failed = false := by
  cases failed <;> simp [reject]

theorem rejectBelow_none {rule : Int → Rule} {size : Nat} {bound : Option Int} :
    rejectBelow rule size bound = none ↔ ∀ n, bound = some n → n ≤ size := by
  cases bound <;> simp [rejectBelow,reject_none]

theorem rejectAbove_none {rule : Int → Rule} {size : Nat} {bound : Option Int} :
    rejectAbove rule size bound = none ↔ ∀ n, bound = some n → (size : Int) ≤ n := by
  cases bound <;> simp [rejectAbove,reject_none]

theorem conforms_string {h : Header} {lo hi : Option Int} {format : Option Format} {v : Value} :
    Conforms (.string h lo hi format) v ↔ ∃ s, v = .text s ∧
      (∀ n, lo = some n → n ≤ s.length) ∧ (∀ n, hi = some n → (s.length : Int) ≤ n) ∧
      (format = some .email → s.holds '@' = true) := by
  change judgeText lo hi format v = none ↔ _
  cases v with
  | text s =>
    simp only [judgeText,Option.or_eq_none_iff,rejectBelow_none,rejectAbove_none,reject_none,Value.text.injEq,
      exists_eq_left']
    simp
  | _ => simp [judgeText]

theorem conforms_number {h : Header} {lo hi : Option Quantity} {isInteger isPositive : Option Bool} {v : Value} :
    Conforms (.number h lo hi isInteger isPositive) v ↔ ∃ q, Quantity.ofValue? v = some q ∧
      (isInteger.getD false = true → q.isIntegral = true) ∧ (isPositive.getD false = true → q.isPositive = true) ∧
      (∀ b, lo = some b → q.lt b = false) ∧ (∀ b, hi = some b → b.lt q = false) := by
  change judgeNumber lo hi isInteger isPositive v = none ↔ _
  unfold judgeNumber
  cases Quantity.ofValue? v with
  | none => simp
  | some q =>
    simp only [Option.or_eq_none_iff,reject_none,Option.bind_eq_none_iff,Option.some.injEq,exists_eq_left']
    simp

theorem conforms_boolean {h : Header} {v : Value} : Conforms (.boolean h) v ↔ ∃ b, v = .bool b := by
  change judgeTruth v = none ↔ _
  cases v <;> simp [judgeTruth]

theorem conforms_date {h : Header} {lo hi : Option Moment} {v : Value} :
    Conforms (.date h lo hi) v ↔ ∃ m, v = .moment m := by
  change judgeMoment v = none ↔ _
  cases v <;> simp [judgeMoment]

theorem conforms_enum {h : Header} {options : List Text} {v : Value} :
    Conforms (.enum h options) v ↔ ∃ s, v = .text s ∧ s ∈ options := by
  change judgeOption options v = none ↔ _
  cases v <;> simp [judgeOption,reject_none]

theorem firstItem_none {check : Value → Option Complaint} {items : List Value} (position : Nat) :
    firstItem check position items = none ↔ ∀ v ∈ items, check v = none := by
  induction items generalizing position with
  | nil => simp [firstItem]
  | cons v rest ih => simp [firstItem,ih]

theorem firstEntry_none {check : Value → Option Complaint} {entries : Entries} :
    firstEntry check entries = none ↔ ∀ entry ∈ entries, check entry.2 = none := by
  induction entries with
  | nil => simp [firstEntry]
  | cons entry rest ih => obtain ⟨key,v⟩ := entry; simp [firstEntry,ih]

theorem firstProperty_none {entries : Entries} {properties : List Field} :
    firstProperty entries properties = none ↔ ∀ p ∈ properties, Fits p (Entries.field entries p.name) := by
  induction properties with
  | nil => simp [firstProperty]
  | cons p rest ih => simp [firstProperty,ih,Fits]

theorem conforms_array {h : Header} {lo hi : Option Int} {item : Field} {v : Value} :
    Conforms (.array h lo hi item) v ↔ ∃ items, v = .list items ∧
      (∀ n, lo = some n → n ≤ items.length) ∧ (∀ n, hi = some n → (items.length : Int) ≤ n) ∧
      ∀ x ∈ items, Conforms item x := by
  cases v with
  | list items =>
    simp only [Conforms,judge,Option.or_eq_none_iff,rejectBelow_none,rejectAbove_none,firstItem_none,
      Value.list.injEq,exists_eq_left']
  | _ => simp [Conforms,judge]

theorem conforms_object {h : Header} {properties : List Field} {v : Value} :
    Conforms (.object h properties) v ↔ ∃ entries, v = .map entries ∧
      ∀ p ∈ properties, Fits p (Entries.field entries p.name) := by
  cases v with
  | map entries => simp only [Conforms,judge,firstProperty_none,Value.map.injEq,exists_eq_left']
  | _ => simp [Conforms,judge]

theorem conforms_record {h : Header} {inner : Field} {v : Value} :
    Conforms (.record h inner) v ↔ ∃ entries, v = .map entries ∧ ∀ entry ∈ entries, Conforms inner entry.2 := by
  cases v with
  | map entries => simp only [Conforms,judge,firstEntry_none,Value.map.injEq,exists_eq_left']
  | _ => simp [Conforms,judge]

theorem null_nonconforming (f : Field) : ¬ Conforms f .null := by
  cases f <;> simp [conforms_string,conforms_number,conforms_boolean,conforms_date,conforms_enum,conforms_array,
    conforms_object,conforms_record,Quantity.ofValue?]

theorem validate_map (schema : Schema) (entries : Entries) :
    validate schema (.map entries) = .ok (complaints schema entries) := by
  cases schema <;> rfl

-- The complaints are all written, or none is.
theorem rows_written (rows : List (Value × Complaint)) :
    (rows.mapM fun (key,c) => do .ok (key,← c.written)) =
      if ∀ row ∈ rows, row.2.isShort = true then .ok rows else .error (.digits 0) := by
  induction rows with
  | nil => rfl
  | cons row rest ih =>
    rw [List.mapM_cons,ih]
    simp only [List.forall_mem_cons,Complaint.written]
    cases row.2.isShort with
    | false => rfl
    | true =>
      by_cases short : ∀ row ∈ rest, row.2.isShort = true
      · rw [if_pos short]
        exact (if_pos ⟨rfl,short⟩).symm
      · rw [if_neg short]
        exact (if_neg fun all => short all.2).symm

section Reports

variable {schema : Schema} {values : Value} {found shown : List (Value × Complaint)} {e : Failure}

theorem report_judged (judged : validate schema values = .ok found) : report schema values =
    if ∀ row ∈ found, row.2.isShort = true then .ok found else .error (.digits 0) := by
  rw [report,judged]
  exact rows_written found

theorem report_shows (judged : validate schema values = .ok found) :
    report schema values = .ok shown ↔ shown = found ∧ ∀ row ∈ found, row.2.isShort = true := by
  rw [report_judged judged]
  split <;> rename_i short
  · constructor
    · rintro ⟨⟩
      exact ⟨rfl,short⟩
    · rintro ⟨rfl,_⟩
      rfl
  · exact iff_of_false (by rintro ⟨⟩) fun all => short all.2

theorem report_fails (judged : validate schema values = .ok found) :
    report schema values = .error e ↔ e = .digits 0 ∧ ∃ row ∈ found, row.2.isShort = false := by
  rw [report_judged judged]
  split <;> rename_i short
  · refine iff_of_false (by rintro ⟨⟩) ?_
    rintro ⟨_,row,member,long⟩
    cases (short row member).symm.trans long
  · constructor
    · rintro ⟨⟩
      exact ⟨rfl,by simpa using short⟩
    · rintro ⟨rfl,_⟩
      rfl

end Reports

-- What does not fit is what is looked at and refused.
theorem misfit_exact {f : Field} {v : Value} {c : Complaint} :
    unlessEmpty f v (judge f v) = some c ↔ ¬ Fits f v ∧ judge f v = some c := by
  unfold Fits unlessEmpty
  split
  · simp
  · constructor
    · intro refused
      rw [refused]
      exact ⟨Option.some_ne_none c,rfl⟩
    · exact And.right

-- The complaint about a field is the one that its value draws.
theorem complaint_exact {schema : Schema} {entries : Entries} {key : Value} {c : Complaint} :
    (key,c) ∈ complaints schema entries ↔ ∃ f, (key,f) ∈ schema ∧
      ¬ Fits f (Entries.getOrNull entries key) ∧ judge f (Entries.getOrNull entries key) = some c := by
  simp only [complaints,List.mem_filterMap,Option.map_eq_some_iff,Prod.mk.injEq,←misfit_exact]
  constructor
  · rintro ⟨⟨own,f⟩,row,found,complaint,rfl,rfl⟩
    exact ⟨f,row,complaint⟩
  · rintro ⟨f,row,complaint⟩
    exact ⟨(key,f),row,c,complaint,rfl,rfl⟩

-- A field is complained about where its value does not fit.
theorem reported_exact {schema : Schema} {entries : Entries} {key : Value} :
    (∃ c, (key,c) ∈ complaints schema entries) ↔
      ∃ f, (key,f) ∈ schema ∧ ¬ Fits f (Entries.getOrNull entries key) := by
  simp only [complaint_exact]
  constructor
  · rintro ⟨_,f,row,misfit,_⟩
    exact ⟨f,row,misfit⟩
  · rintro ⟨f,row,misfit⟩
    obtain ⟨c,complaint⟩ := Option.ne_none_iff_exists'.mp misfit
    exact ⟨c,f,row,misfit_exact.mp complaint⟩

-- A document conforms where the value of each of its fields fits.
theorem validate_nil {schema : Schema} {entries : Entries} :
    validate schema (.map entries) = .ok [] ↔
      ∀ row ∈ schema, Fits row.2 (Entries.getOrNull entries row.1) := by
  rw [validate_map]
  simp only [Except.ok.injEq,complaints,List.filterMap_eq_nil_iff,Option.map_eq_none_iff]
  rfl

end TemplateSchema.Document
