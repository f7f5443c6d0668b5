import Mathlib
import TemplateSchema.Proofs.Document.Conformance
import TemplateSchema.Proofs.Success
import TemplateSchema.Proofs.Text.Points
import TemplateSchema.Proofs.Value.Entries
import TemplateSchema.Schema.Normal
/-!
What a field asks of a value, said without the judge: rules for the value at its own place, in the
order in which they are looked at, and the places inside it. The judge finds nothing exactly where a
value is valid; otherwise it names the one place that goes wrong first, and the first rule that is
broken there.
-/
set_option autoImplicit false
namespace TemplateSchema

namespace Field

def isContainer : Field → Bool
  | .array .. | .object .. | .record .. => true
  | _ => false

-- What a field asks of a value at its own place; the first rule is about the value's kind.
def rules : Field → List Document.Rule
  | .string _ minLength maxLength format =>
    .text :: (minLength.map Document.Rule.minLength).toList ++ (maxLength.map Document.Rule.maxLength).toList ++
      (if format = some .email then [.email] else [])
  | .number _ min max isInteger isPositive =>
    .number :: (if isInteger = some true then [.integral] else []) ++
      (if isPositive = some true then [.positive] else []) ++
      (min.map Document.Rule.atLeast).toList ++ (max.map Document.Rule.atMost).toList
  | .boolean _ => [.truth]
  | .date .. => [.moment]
  | .enum _ options => [.oneOf options]
  | .array _ minItems maxItems _ =>
    .list :: (minItems.map Document.Rule.minItems).toList ++ (maxItems.map Document.Rule.maxItems).toList
  | .object .. | .record .. => [.mapping]

end Field

namespace Document

-- Whether a value keeps a rule; a value of another kind than the rule is about keeps none. A bound
-- that is NaN has nothing below or above it.
def Rule.holds : Rule → Value → Bool
  | .text, .text _ => true
  | .minLength n, .text s => n ≤ s.length
  | .maxLength n, .text s => (s.length : Int) ≤ n
  | .email, .text s => s.holds '@'
  | .oneOf options, .text s => options.contains s
  | .number, .int _ => true
  | .number, .float x => !x.isNaN
  | .integral, .int _ => true
  | .integral, .float x => x.isIntegral
  | .positive, .int n => 0 < n
  | .positive, .float x => x.gtInt 0
  | .atLeast bound, .int n => !(Quantity.int n).lt bound
  | .atLeast bound, .float x => !(Quantity.float x).lt bound
  | .atMost bound, .int n => !bound.lt (.int n)
  | .atMost bound, .float x => !bound.lt (.float x)
  | .truth, .bool _ => true
  | .moment, .moment _ => true
  | .list, .list _ => true
  | .minItems n, .list items => n ≤ items.length
  | .maxItems n, .list items => (items.length : Int) ≤ n
  | .mapping, .map _ => true
  | _, _ => false

-- What counts as no value where a value may be left out.
def isBlank : Option Value → Bool
  | none | some .null => true
  | some (.text s) => s.isEmpty
  | _ => false

mutual

inductive Valid : Field → Value → Prop where
  | scalar {f : Field} {v : Value} (single : f.isContainer = false) (kept : ∀ r ∈ f.rules, r.holds v = true) :
      Valid f v
  | array {h : Header} {lo hi : Option Int} {item : Field} {items : List Value}
      (kept : ∀ r ∈ (Field.array h lo hi item).rules, r.holds (.list items) = true)
      (each : ∀ x ∈ items, Valid item x) : Valid (.array h lo hi item) (.list items)
  | object {h : Header} {properties : List Field} {entries : Entries}
      (each : ∀ p ∈ properties, Supplied entries p) : Valid (.object h properties) (.map entries)
  | record {h : Header} {inner : Field} {entries : Entries} (each : ∀ entry ∈ entries, Valid inner entry.2) :
      Valid (.record h inner) (.map entries)

-- A mapping has what one of an object's properties asks for.
inductive Supplied : Entries → Field → Prop where
  | blank {entries : Entries} {p : Field} (optional : p.isOptional = true)
      (blank : isBlank (Entries.field? entries p.name) = true) : Supplied entries p
  | present {entries : Entries} {p : Field} {v : Value} (found : Entries.field? entries p.name = some v)
      (valid : Valid p v) : Supplied entries p

end

-- The first of some rules that a value breaks.
def FirstBroken (rules : List Rule) (v : Value) (r : Rule) : Prop :=
  ∃ earlier later, rules = earlier ++ r :: later ∧ (∀ x ∈ earlier, x.holds v = true) ∧ r.holds v = false

mutual

-- The place that goes wrong first, by the steps that lead to it, and the rule that is broken there.
inductive Invalid : Field → Value → List Step → Rule → Prop where
  | here {f : Field} {v : Value} {r : Rule} (broken : FirstBroken f.rules v r) : Invalid f v [] r
  | item {h : Header} {lo hi : Option Int} {item : Field} {before after : List Value} {x : Value}
      {steps : List Step} {r : Rule}
      (kept : ∀ rule ∈ (Field.array h lo hi item).rules, rule.holds (.list (before ++ x :: after)) = true)
      (good : ∀ y ∈ before, Valid item y) (bad : Invalid item x steps r) :
      Invalid (.array h lo hi item) (.list (before ++ x :: after)) (.item (before.length + 1) :: steps) r
  | property {h : Header} {before after : List Field} {p : Field} {entries : Entries} {steps : List Step}
      {r : Rule} (good : ∀ q ∈ before, Supplied entries q) (bad : Unsupplied entries p steps r) :
      Invalid (.object h (before ++ p :: after)) (.map entries) (.property p.name :: steps) r
  | entry {h : Header} {inner : Field} {before after : Entries} {key v : Value} {steps : List Step} {r : Rule}
      (good : ∀ entry ∈ before, Valid inner entry.2) (bad : Invalid inner v steps r) :
      Invalid (.record h inner) (.map (before ++ (key,v) :: after)) (.key key :: steps) r

-- What is wrong with the value of a property. One that is missing is of no kind.
inductive Unsupplied : Entries → Field → List Step → Rule → Prop where
  | missing {entries : Entries} {p : Field} {r : Rule} (absent : Entries.field? entries p.name = none)
      (required : p.isOptional = false) (first : p.rules.head? = some r) : Unsupplied entries p [] r
  | wrong {entries : Entries} {p : Field} {v : Value} {steps : List Step} {r : Rule}
      (found : Entries.field? entries p.name = some v) (looked : (p.isOptional && isBlank (some v)) = false)
      (bad : Invalid p v steps r) : Unsupplied entries p steps r

end

section Checks

variable {f : Field} {v : Value} {r : Rule} {rules others : List Rule} {c : Complaint}

-- The complaint about the first rule that a value breaks.
def complaintOf (rules : List Rule) (v : Value) : Option Complaint :=
  (rules.find? fun r => !r.holds v).map Complaint.of

@[simp] theorem reject_true : reject r true = some (Complaint.of r) :=
  rfl

@[simp] theorem reject_false : reject r false = none :=
  rfl

@[simp] theorem complaintOf_nil : complaintOf [] v = none :=
  rfl

@[simp] theorem complaintOf_cons : complaintOf (r :: rules) v = (reject r (!r.holds v)).or (complaintOf rules v) := by
  cases held : r.holds v <;> simp [complaintOf,reject,held]

@[simp] theorem complaintOf_append :
    complaintOf (rules ++ others) v = (complaintOf rules v).or (complaintOf others v) := by
  simp only [complaintOf,List.find?_append,Option.map_or]

@[simp] theorem complaintOf_bound {α : Type} (rule : α → Rule) (bound : Option α) :
    complaintOf (bound.map rule).toList v = bound.bind fun n => reject (rule n) (!(rule n).holds v) := by
  cases bound <;> simp

@[simp] theorem complaintOf_demand (asked : Prop) [Decidable asked] :
    complaintOf (if asked then [r] else []) v = reject r (decide asked && !r.holds v) := by
  by_cases given : asked <;> simp [given,reject]

theorem complaintOf_some : complaintOf rules v = some c ↔ c.steps = [] ∧ FirstBroken rules v c.rule := by
  obtain ⟨steps,rule⟩ := c
  simp only [complaintOf,Option.map_eq_some_iff,List.find?_eq_some_iff_append,Complaint.of,Complaint.mk.injEq,
    Bool.not_eq_true',Bool.not_not,FirstBroken]
  constructor
  · rintro ⟨r,⟨broken,earlier,later,rfl,kept⟩,rfl,rfl⟩
    exact ⟨rfl,earlier,later,rfl,kept,broken⟩
  · rintro ⟨rfl,earlier,later,rfl,kept,broken⟩
    exact ⟨rule,⟨broken,earlier,later,rfl,kept⟩,rfl,rfl⟩

theorem complaintOf_none : complaintOf rules v = none ↔ ∀ r ∈ rules, r.holds v = true := by
  simp [complaintOf]

theorem rejectBelow_exact {rule : Int → Rule} {size : Nat} (bound : Option Int)
    (least : ∀ n, (rule n).holds v = decide (n ≤ (size : Int))) :
    rejectBelow rule size bound = complaintOf (bound.map rule).toList v := by
  rw [complaintOf_bound]
  simp only [rejectBelow,least,← decide_not,Int.not_le]

theorem rejectAbove_exact {rule : Int → Rule} {size : Nat} (bound : Option Int)
    (most : ∀ n, (rule n).holds v = decide ((size : Int) ≤ n)) :
    rejectAbove rule size bound = complaintOf (bound.map rule).toList v := by
  rw [complaintOf_bound]
  simp only [rejectAbove,most,← decide_not,Int.not_le]

-- What is found about the places inside a value.
def inside : Field → Value → Option Complaint
  | .array _ _ _ item,.list items => firstItem (fun x => judge item x) 1 items
  | .object _ properties,.map entries => firstProperty entries properties
  | .record _ inner,.map entries => firstEntry (fun x => judge inner x) entries
  | _,_ => none

end Checks

section Rules

variable {h : Header} {v : Value}

theorem judge_string {lo hi : Option Int} {format : Option Format} :
    judge (.string h lo hi format) v = complaintOf (Field.string h lo hi format).rules v := by
  cases v with
  | text s =>
    have email : (format == some .email) = decide (format = some .email) := by
      rcases format with _ | _ | _ | _ <;> rfl
    have least : rejectBelow .minLength s.length lo = complaintOf (lo.map Rule.minLength).toList (.text s) :=
      rejectBelow_exact lo fun _ => rfl
    have most : rejectAbove .maxLength s.length hi = complaintOf (hi.map Rule.maxLength).toList (.text s) :=
      rejectAbove_exact hi fun _ => rfl
    simp [judge,judgeText,Field.rules,Rule.holds,least,most,email]
  | _ => simp [judge,judgeText,Field.rules,Rule.holds]

theorem judge_number {lo hi : Option Quantity} {isInteger isPositive : Option Bool} :
    judge (.number h lo hi isInteger isPositive) v =
      complaintOf (Field.number h lo hi isInteger isPositive).rules v := by
  have asked (flag : Option Bool) : flag.getD false = decide (flag = some true) := by
    rcases flag with _ | _ | _ <;> rfl
  cases v with
  | int n =>
    simp [judge,judgeNumber,Field.rules,Rule.holds,Quantity.ofValue?,asked,Quantity.isIntegral,
      Quantity.isPositive,Quantity.lt]
  | float x =>
    cases nan : x.isNaN <;>
      simp [judge,judgeNumber,Field.rules,Rule.holds,Quantity.ofValue?,asked,nan,Quantity.isIntegral,
        Quantity.isPositive,Quantity.lt]
  | _ => simp [judge,judgeNumber,Field.rules,Rule.holds,Quantity.ofValue?]

theorem judge_array {lo hi : Option Int} {item : Field} :
    judge (.array h lo hi item) v =
      (complaintOf (Field.array h lo hi item).rules v).or (inside (.array h lo hi item) v) := by
  cases v with
  | list items =>
    have least : rejectBelow .minItems items.length lo = complaintOf (lo.map Rule.minItems).toList (.list items) :=
      rejectBelow_exact lo fun _ => rfl
    have most : rejectAbove .maxItems items.length hi = complaintOf (hi.map Rule.maxItems).toList (.list items) :=
      rejectAbove_exact hi fun _ => rfl
    simp [judge,inside,Field.rules,Rule.holds,least,most,Option.or_assoc]
  | _ => simp [judge,inside,Field.rules,Rule.holds]

-- The judge looks at a value's own place first, and then into it.
theorem judge_parts (f : Field) (v : Value) : judge f v = (complaintOf f.rules v).or (inside f v) := by
  cases f with
  | string => simp [judge_string,inside]
  | number => simp [judge_number,inside]
  | array => exact judge_array
  | boolean => cases v <;> simp [judge,judgeTruth,inside,Field.rules,Rule.holds]
  | date => cases v <;> simp [judge,judgeMoment,inside,Field.rules,Rule.holds]
  | enum => cases v <;> simp [judge,judgeOption,inside,Field.rules,Rule.holds]
  | object => cases v <;> simp [judge,inside,Field.rules,Rule.holds]
  | record => cases v <;> simp [judge,inside,Field.rules,Rule.holds]

end Rules

section Places

variable {check : Value → Option Complaint} {c : Complaint}

theorem firstItem_some {items : List Value} {position : Nat} :
    firstItem check position items = some c ↔ ∃ before x after found, items = before ++ x :: after ∧
      (∀ y ∈ before, check y = none) ∧ check x = some found ∧
      c = found.inside (.item (before.length + position)) := by
  induction items generalizing position with
  | nil => simp [firstItem]
  | cons v rest ih =>
    rw [firstItem]
    constructor
    · intro first
      rcases Option.or_eq_some_iff.mp first with here | ⟨fine,later⟩
      · obtain ⟨found,bad,rfl⟩ := Option.map_eq_some_iff.mp here
        exact ⟨[],v,rest,found,rfl,by simp,bad,by simp⟩
      · obtain ⟨before,x,after,found,rfl,good,bad,rfl⟩ := ih.mp later
        refine ⟨v :: before,x,after,found,rfl,?_,bad,?_⟩
        · simpa [Option.map_eq_none_iff.mp fine] using good
        · rw [List.length_cons,Nat.add_assoc,Nat.add_comm 1]
    · rintro ⟨before,x,after,found,split,good,bad,rfl⟩
      cases before with
      | nil => cases split; simp [bad]
      | cons y before =>
        cases split
        simp only [List.forall_mem_cons] at good
        rw [good.1]
        refine ih.mpr ⟨before,x,after,found,rfl,good.2,bad,?_⟩
        rw [List.length_cons,Nat.add_assoc,Nat.add_comm 1]

theorem firstEntry_some {entries : Entries} :
    firstEntry check entries = some c ↔ ∃ before key v after found, entries = before ++ (key,v) :: after ∧
      (∀ entry ∈ before, check entry.2 = none) ∧ check v = some found ∧ c = found.inside (.key key) := by
  have search : firstEntry check entries =
      entries.findSome? fun entry => (check entry.2).map (Complaint.inside (.key entry.1)) := by
    induction entries with
    | nil => rfl
    | cons entry rest ih => rw [firstEntry,ih,List.findSome?_cons]; cases check entry.2 <;> rfl
  simp only [search,List.findSome?_eq_some_iff,Option.map_eq_some_iff,Option.map_eq_none_iff,Prod.exists]
  constructor
  · rintro ⟨before,key,v,after,rfl,⟨found,bad,rfl⟩,good⟩
    exact ⟨before,key,v,after,found,rfl,good,bad,rfl⟩
  · rintro ⟨before,key,v,after,found,rfl,good,bad,rfl⟩
    exact ⟨before,key,v,after,rfl,⟨found,bad,rfl⟩,good⟩

-- The complaint about the value of a property, in a mapping that may be without it.
def lacking (entries : Entries) (p : Field) : Option Complaint :=
  unlessEmpty p (Entries.field entries p.name) (judge p (Entries.field entries p.name))

theorem firstProperty_some {entries : Entries} {properties : List Field} :
    firstProperty entries properties = some c ↔ ∃ before p after found, properties = before ++ p :: after ∧
      (∀ q ∈ before, lacking entries q = none) ∧ lacking entries p = some found ∧
      c = found.inside (.property p.name) := by
  have search : firstProperty entries properties =
      properties.findSome? fun p => (lacking entries p).map (Complaint.inside (.property p.name)) := by
    induction properties with
    | nil => rfl
    | cons p rest ih =>
      rw [firstProperty,ih,List.findSome?_cons]
      simp only [lacking]
      cases unlessEmpty p (Entries.field entries p.name) (judge p (Entries.field entries p.name)) <;> rfl
  simp only [search,List.findSome?_eq_some_iff,Option.map_eq_some_iff,Option.map_eq_none_iff]
  constructor
  · rintro ⟨before,p,after,rfl,⟨found,bad,rfl⟩,good⟩
    exact ⟨before,p,after,found,rfl,good,bad,rfl⟩
  · rintro ⟨before,p,after,found,rfl,good,bad,rfl⟩
    exact ⟨before,p,after,rfl,⟨found,bad,rfl⟩,good⟩

end Places

section Verdicts

variable {f : Field} {v : Value} {steps : List Step} {r : Rule} {entries : Entries}

theorem judge_none : judge f v = none ↔ (∀ r ∈ f.rules, r.holds v = true) ∧ inside f v = none := by
  rw [judge_parts,Option.or_eq_none_iff,complaintOf_none]

theorem judge_some : judge f v = some ⟨steps,r⟩ ↔
    (steps = [] ∧ FirstBroken f.rules v r) ∨
      (∀ r ∈ f.rules, r.holds v = true) ∧ inside f v = some ⟨steps,r⟩ := by
  rw [judge_parts,Option.or_eq_some_iff,complaintOf_some,complaintOf_none]

theorem inside_scalar (single : f.isContainer = false) : inside f v = none := by
  cases f <;> first | rfl | cases single

theorem blank_exact (found : Option Value) : isEmpty (found.getD .null) = isBlank found := by
  cases found with
  | none => rfl
  | some v => cases v <;> rfl

theorem lacking_none {p : Field} : lacking entries p = none ↔
    (p.isOptional = true ∧ isBlank (Entries.field? entries p.name) = true) ∨
      judge p (Entries.field entries p.name) = none := by
  rw [←blank_exact]
  exact fits_exact

-- A value that is missing is of no kind, so its field's first rule is broken.
theorem judge_null (p : Field) : ∃ r, p.rules.head? = some r ∧ judge p .null = some ⟨[],r⟩ := by
  cases p <;> exact ⟨_,rfl,rfl⟩

theorem valid_scalar (single : f.isContainer = false) : Valid f v ↔ judge f v = none := by
  rw [judge_none]
  constructor
  · intro valid
    cases valid with
    | scalar _ kept => exact ⟨kept,inside_scalar single⟩
    | _ => cases single
  · intro fine
    exact .scalar single fine.1

-- What holds of a property's field on its own, in a mapping that may be without the property.
theorem supplied_lacking {p : Field} (exact_ : ∀ {v : Value}, Valid p v ↔ judge p v = none) :
    Supplied entries p ↔ lacking entries p = none := by
  rw [lacking_none]
  constructor
  · intro supplied
    cases supplied with
    | blank optional blank => exact .inl ⟨optional,blank⟩
    | present found valid =>
      rw [Entries.field_found found]
      exact .inr (exact_.mp valid)
  · rintro (⟨optional,blank⟩ | fine)
    · exact .blank optional blank
    · cases found : Entries.field? entries p.name with
      | some v =>
        rw [Entries.field_found found] at fine
        exact .present found (exact_.mpr fine)
      | none =>
        rw [Entries.field_missing found] at fine
        exact absurd fine (null_nonconforming p)

mutual

theorem valid_exact : (f : Field) → ∀ {v : Value}, Valid f v ↔ judge f v = none
  | .array h lo hi item, v => by
    rw [judge_none]
    constructor
    · intro valid
      cases valid with
      | scalar single => cases single
      | array kept each => exact ⟨kept,(firstItem_none 1).mpr fun x member => (valid_exact item).mp (each x member)⟩
    · rintro ⟨kept,fine⟩
      have isList := kept .list List.mem_cons_self
      cases v with
      | list items =>
        exact .array kept fun x member => (valid_exact item).mpr ((firstItem_none 1).mp fine x member)
      | _ => cases isList
  | .object h properties, v => by
    rw [judge_none]
    constructor
    · intro valid
      cases valid with
      | scalar single => cases single
      | object each =>
        exact ⟨by simp [Field.rules,Rule.holds],
          firstProperty_none.mpr fun p member => (supplied_exact properties p member).mp (each p member)⟩
    · rintro ⟨kept,fine⟩
      have isMap := kept .mapping List.mem_cons_self
      cases v with
      | map entries =>
        exact .object fun p member => (supplied_exact properties p member).mpr (firstProperty_none.mp fine p member)
      | _ => cases isMap
  | .record h inner, v => by
    rw [judge_none]
    constructor
    · intro valid
      cases valid with
      | scalar single => cases single
      | record each =>
        exact ⟨by simp [Field.rules,Rule.holds],
          firstEntry_none.mpr fun entry member => (valid_exact inner).mp (each entry member)⟩
    · rintro ⟨kept,fine⟩
      have isMap := kept .mapping List.mem_cons_self
      cases v with
      | map entries =>
        exact .record fun entry member => (valid_exact inner).mpr (firstEntry_none.mp fine entry member)
      | _ => cases isMap
  | .string .., _ => valid_scalar rfl
  | .number .., _ => valid_scalar rfl
  | .boolean _, _ => valid_scalar rfl
  | .date .., _ => valid_scalar rfl
  | .enum .., _ => valid_scalar rfl

theorem supplied_exact : (properties : List Field) → ∀ p ∈ properties, ∀ {entries : Entries},
    Supplied entries p ↔ lacking entries p = none
  | [] => by simp
  | q :: rest => by
    intro p member
    cases member with
    | head => exact supplied_lacking (valid_exact q)
    | tail _ later => exact supplied_exact rest p later

end

theorem invalid_scalar (single : f.isContainer = false) : Invalid f v steps r ↔ judge f v = some ⟨steps,r⟩ := by
  rw [judge_some,inside_scalar single]
  constructor
  · intro invalid
    cases invalid with
    | here broken => exact .inl ⟨rfl,broken⟩
    | _ => cases single
  · rintro (⟨rfl,broken⟩ | ⟨_,⟨⟩⟩)
    exact .here broken

theorem unsupplied_lacking {p : Field}
    (exact_ : ∀ {v : Value} {steps : List Step} {r : Rule}, Invalid p v steps r ↔ judge p v = some ⟨steps,r⟩) :
    Unsupplied entries p steps r ↔ lacking entries p = some ⟨steps,r⟩ := by
  unfold lacking unlessEmpty
  constructor
  · intro unsupplied
    cases unsupplied with
    | missing absent required first =>
      obtain ⟨rule,head,complaint⟩ := judge_null p
      obtain rfl := Option.some.inj (head.symm.trans first)
      rw [Entries.field_missing absent,complaint]
      simp [required]
    | wrong found looked bad =>
      rw [←blank_exact] at looked
      rw [Entries.field_found found]
      rw [if_neg (by simpa using looked)]
      exact exact_.mp bad
  · intro complaint
    cases found : Entries.field? entries p.name with
    | some v =>
      rw [Entries.field_found found] at complaint
      split at complaint
      · cases complaint
      · rename_i looked
        exact .wrong found (by simpa [←blank_exact] using looked) (exact_.mpr complaint)
    | none =>
      obtain ⟨rule,head,mismatch⟩ := judge_null p
      rw [Entries.field_missing found,mismatch] at complaint
      split at complaint
      · cases complaint
      · rename_i looked
        cases complaint
        exact .missing found (by simpa [isEmpty] using looked) head

mutual

theorem invalid_exact : (f : Field) → ∀ {v : Value} {steps : List Step} {r : Rule},
    Invalid f v steps r ↔ judge f v = some ⟨steps,r⟩
  | .array h lo hi item, v, steps, r => by
    rw [judge_some]
    constructor
    · intro invalid
      cases invalid with
      | here broken => exact .inl ⟨rfl,broken⟩
      | item kept good bad =>
        exact .inr ⟨kept,firstItem_some.mpr
          ⟨_,_,_,_,rfl,fun y member => (valid_exact item).mp (good y member),(invalid_exact item).mp bad,rfl⟩⟩
    · rintro (⟨rfl,broken⟩ | ⟨kept,found⟩)
      · exact .here broken
      · cases v with
        | list items =>
          obtain ⟨before,x,after,⟨below,rule⟩,rfl,good,bad,same⟩ := firstItem_some.mp found
          cases same
          exact .item kept (fun y member => (valid_exact item).mpr (good y member)) ((invalid_exact item).mpr bad)
        | _ => cases found
  | .object h properties, v, steps, r => by
    rw [judge_some]
    constructor
    · intro invalid
      cases invalid with
      | here broken => exact .inl ⟨rfl,broken⟩
      | property good bad =>
        rename_i before after p entries below
        refine .inr ⟨by simp [Field.rules,Rule.holds],firstProperty_some.mpr ⟨_,_,_,⟨_,_⟩,rfl,?_,?_,rfl⟩⟩
        · intro q member
          exact (supplied_exact (before ++ p :: after) q (List.mem_append_left _ member)).mp (good q member)
        · exact (unsupplied_exact (before ++ p :: after) p (List.mem_append_right _ List.mem_cons_self)).mp bad
    · rintro (⟨rfl,broken⟩ | ⟨kept,found⟩)
      · exact .here broken
      · cases v with
        | map entries =>
          obtain ⟨before,p,after,⟨below,rule⟩,rfl,good,bad,same⟩ := firstProperty_some.mp found
          cases same
          refine .property ?_ ?_
          · intro q member
            exact (supplied_exact (before ++ p :: after) q (List.mem_append_left _ member)).mpr (good q member)
          · exact (unsupplied_exact (before ++ p :: after) p (List.mem_append_right _ List.mem_cons_self)).mpr bad
        | _ => cases found
  | .record h inner, v, steps, r => by
    rw [judge_some]
    constructor
    · intro invalid
      cases invalid with
      | here broken => exact .inl ⟨rfl,broken⟩
      | entry good bad =>
        exact .inr ⟨by simp [Field.rules,Rule.holds],firstEntry_some.mpr
          ⟨_,_,_,_,_,rfl,fun entry member => (valid_exact inner).mp (good entry member),
            (invalid_exact inner).mp bad,rfl⟩⟩
    · rintro (⟨rfl,broken⟩ | ⟨kept,found⟩)
      · exact .here broken
      · cases v with
        | map entries =>
          obtain ⟨before,key,x,after,⟨below,rule⟩,rfl,good,bad,same⟩ := firstEntry_some.mp found
          cases same
          exact .entry (fun entry member => (valid_exact inner).mpr (good entry member))
            ((invalid_exact inner).mpr bad)
        | _ => cases found
  | .string .., _, _, _ => invalid_scalar rfl
  | .number .., _, _, _ => invalid_scalar rfl
  | .boolean _, _, _, _ => invalid_scalar rfl
  | .date .., _, _, _ => invalid_scalar rfl
  | .enum .., _, _, _ => invalid_scalar rfl

theorem unsupplied_exact : (properties : List Field) → ∀ p ∈ properties,
    ∀ {entries : Entries} {steps : List Step} {r : Rule},
      Unsupplied entries p steps r ↔ lacking entries p = some ⟨steps,r⟩
  | [] => by simp
  | q :: rest => by
    intro p member
    cases member with
    | head => exact unsupplied_lacking (invalid_exact q)
    | tail _ later => exact unsupplied_exact rest p later

end

end Verdicts

section Messages

theorem opened_given {opening rest : Text} (given : opening ≠ "") : opening ++ rest ≠ "" := by
  intro empty
  exact given (Text.append_empty.mp empty).1

theorem rule_message (r : Rule) : r.message ≠ "" := by
  cases r with
  | minLength | maxLength | minItems | maxItems => exact opened_given (opened_given (by decide))
  | atLeast | atMost | oneOf => exact opened_given (by decide)
  | _ => unfold Rule.message; decide

theorem message_labels (c : Complaint) :
    c.message = Text.intercalate ": " (c.steps.map Step.label ++ [c.rule.message]) := by
  obtain ⟨steps,r⟩ := c
  induction steps with
  | nil => rfl
  | cons step rest ih =>
    have behind : rest.map Step.label ++ [r.message] ≠ [] := by simp
    rw [List.map_cons,List.cons_append,Text.intercalate_cons behind,←ih]
    rfl

theorem message_given (c : Complaint) : c.message ≠ "" := by
  obtain ⟨steps,r⟩ := c
  cases steps with
  | nil => exact rule_message r
  | cons step rest =>
    -- The colon behind a label is there even if the label is empty.
    intro empty
    have colon := (Text.append_empty.mp (Text.append_empty.mp empty).1).2
    revert colon
    decide

end Messages

-- The judge decides whether a value is valid. Where it is not, its complaint leads to the place that
-- goes wrong first, and says what is broken there.
theorem judge_exact (f : Field) (v : Value) :
    (judge f v = none ↔ Valid f v) ∧ ∀ steps r, judge f v = some ⟨steps,r⟩ ↔ Invalid f v steps r :=
  ⟨(valid_exact f).symm,fun _ _ => (invalid_exact f).symm⟩

section Telling

variable {f : Field} {v : Value} {c d : Complaint} {e : Failure}

theorem written_exact : c.written = .ok d ↔ c = d ∧ c.isShort = true := by
  cases short : c.isShort <;> simp [Complaint.written,short]

theorem written_fails : c.written = .error e ↔ e = .digits 0 ∧ c.isShort = false := by
  cases short : c.isShort
  · simp only [Complaint.written,short,Bool.false_eq_true,if_false,Except.error.injEq,and_true]
    exact eq_comm
  · simp [Complaint.written,short]

theorem told_none (fine : judge f v = none) : told f v = .ok none := by
  rw [told,fine]

theorem told_complaint (judged : judge f v = some c) : told f v = c.written.map some := by
  rw [told,judged]

theorem told_nothing : told f v = .ok none ↔ judge f v = none := by
  cases judged : judge f v with
  | none => simp [told_none judged]
  | some c => simp [told_complaint judged,Success.map_exact]

theorem told_some : told f v = .ok (some d) ↔ judge f v = some d ∧ d.isShort = true := by
  cases judged : judge f v with
  | none => simp [told_none judged]
  | some c =>
    simp only [told_complaint judged,Success.map_exact,written_exact,Option.some.injEq]
    constructor
    · rintro ⟨_,⟨rfl,short⟩,rfl⟩
      exact ⟨rfl,short⟩
    · rintro ⟨rfl,short⟩
      exact ⟨c,⟨rfl,short⟩,rfl⟩

theorem told_fails : told f v = .error e ↔ e = .digits 0 ∧ ∃ c, judge f v = some c ∧ c.isShort = false := by
  cases judged : judge f v with
  | none => simp [told_none judged]
  | some c =>
    have failed : c.written.map some = .error e ↔ c.written = .error e := by
      cases c.written <;> simp [Except.map]
    simp only [told_complaint judged,failed,written_fails,Option.some.injEq,exists_eq_left']

end Telling

-- A value is told to be fine exactly where it is valid. Otherwise the text leads to the place that goes
-- wrong first, label by label, and says what is broken there; no such text is empty. There is none where
-- the text has to spell out an integer that is too long for that.
theorem told_exact (f : Field) (v : Value) :
    (told f v = .ok none ↔ Valid f v) ∧
      (∀ c, told f v = .ok (some c) ↔ Invalid f v c.steps c.rule ∧ c.isShort = true) ∧
      (∀ c, told f v = .ok (some c) →
        c.message = Text.intercalate ": " (c.steps.map Step.label ++ [c.rule.message]) ∧ c.message ≠ "") ∧
      ∀ e, told f v = .error e ↔ e = .digits 0 ∧ ∃ c : Complaint, Invalid f v c.steps c.rule ∧ c.isShort = false := by
  obtain ⟨fine,wrong⟩ := judge_exact f v
  refine ⟨told_nothing.trans fine,?_,?_,?_⟩
  · intro c
    rw [told_some,←wrong]
  · intro c _
    exact ⟨message_labels c,message_given c⟩
  · intro e
    simp only [told_fails,←wrong]

section Ledger

-- A ledger has a text under each of its keys.
def ledgerSchema : Value :=
  .map [(.text "fields",.map [(.text "ledger",.map [
    (.text "type",.text "record"),(.text "values",.map [(.text "type",.text "string")])])])]

def ledgerField : Field :=
  .record ⟨"ledger","",false,none⟩ (.string ⟨"ledgerValue","",false,none⟩ none none none)

-- An integer of 4301 digits.
def longKey : Value :=
  .int (Nat.pow 10 4300)

-- What is wrong under a key that is too long to be written is not told.
theorem ledger_untold : (Normal.schema ledgerSchema).outcome = .ok [(.text "ledger",ledgerField)] ∧
    Invalid ledgerField (.map [(longKey,.int 5)]) [.key longKey] .text ∧
    told ledgerField (.map [(longKey,.int 5)]) = .error (.digits 0) := by
  have judged : judge ledgerField (.map [(longKey,.int 5)]) = some ⟨[.key longKey],.text⟩ := rfl
  have long : (Complaint.mk [.key longKey] .text).isShort = false := by decide +kernel
  exact ⟨by cbv,(invalid_exact _).mpr judged,told_fails.mpr ⟨rfl,_,judged,long⟩⟩

end Ledger

end Document

end TemplateSchema
