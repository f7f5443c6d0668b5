import TemplateSchema.Proofs.Document.Blanks
import TemplateSchema.Proofs.Number.Rounding
/-!
Bounds of numbers at every magnitude. The fields compare numbers as they are; the shape rounds
values and bounds to binary64 numbers first. The verdicts are the same as long as a value is not
rounded to the very bound that it breaks.
-/
set_option autoImplicit false
namespace TemplateSchema

open Declaration (given?)

-- Rounding keeps a value apart from a bound that it breaks.
def AreTold (lo hi : Option Quantity) (v : Value) : Prop :=
  ∀ q x, Quantity.ofValue? v = some q → q.toBinary64? = some x →
    (∀ b y, lo = some b → b.toBinary64? = some y → q.lt b = true → x.same y = false) ∧
      ∀ b y, hi = some b → b.toBinary64? = some y → b.lt q = true → x.same y = false

def IsNumber (bound : Option Quantity) : Prop :=
  ∀ b, bound = some b → b.isNaN = false

section Numbers

variable {isMatch : Format → Text → Bool} {v : Value} {q : Quantity} {x : Binary64}

theorem value_rounded (converted : Shape.float? v = some x) :
    (Quantity.ofValue? v = none ∧ x.isNaN = true) ∨
      ∃ q, Quantity.ofValue? v = some q ∧ q.toBinary64? = some x ∧ x.isNaN = false := by
  cases v with
  | int n => exact .inr ⟨.int n,rfl,converted,Quantity.rounded_number converted⟩
  | float y =>
    cases converted
    cases nan : x.isNaN with
    | true => exact .inl ⟨by simp [Quantity.ofValue?,nan],rfl⟩
    | false => exact .inr ⟨.float x,by simp [Quantity.ofValue?,nan],rfl,rfl⟩
  | _ => cases converted

theorem bound_number {b : Quantity} {y : Binary64} (number : b.isNaN = false) (converted : b.toBinary64? = some y) :
    y.isNaN = false := by
  cases b with
  | int n => exact Quantity.rounded_number converted
  | float z => cases converted; exact number

theorem lower_rounded {lo : Option Quantity} {below : Option Binary64} (same : SameBound lo below)
    (isNumber : IsNumber lo) (converted : q.toBinary64? = some x) (number : x.isNaN = false)
    (told : ∀ b y, lo = some b → b.toBinary64? = some y → q.lt b = true → x.same y = false) :
    (∀ b, lo = some b → q.lt b = false) ↔ ∀ b, below = some b → b.le x = true := by
  cases lo with
  | none =>
    cases below with
    | none => simp
    | some y => cases same
  | some b =>
    cases below with
    | none => cases same
    | some y =>
      have rounded : b.toBinary64? = some y := Option.some.inj same
      simp [Quantity.le_rounded converted rounded number (bound_number (isNumber b rfl) rounded)
        (told b y rfl rounded)]

theorem upper_rounded {hi : Option Quantity} {above : Option Binary64} (same : SameBound hi above)
    (isNumber : IsNumber hi) (converted : q.toBinary64? = some x) (number : x.isNaN = false)
    (told : ∀ b y, hi = some b → b.toBinary64? = some y → b.lt q = true → x.same y = false) :
    (∀ b, hi = some b → b.lt q = false) ↔ ∀ b, above = some b → x.le b = true := by
  cases hi with
  | none =>
    cases above with
    | none => simp
    | some y => cases same
  | some b =>
    cases above with
    | none => cases same
    | some y =>
      have rounded : b.toBinary64? = some y := Option.some.inj same
      have apart : b.lt q = true → y.same x = false := fun less =>
        (Binary64.same_comm y x).trans (told b y rfl rounded less)
      simp [Quantity.le_rounded rounded converted (bound_number (isNumber b rfl) rounded) number apart]

theorem number_rounded {h : Header} {lo hi : Option Quantity} {below above : Option Binary64}
    {isInteger isPositive : Option Bool} (lower : SameBound lo below) (upper : SameBound hi above)
    (lowerNumber : IsNumber lo) (upperNumber : IsNumber hi) (converted : Shape.float? v = some x)
    (told : AreTold lo hi v) :
    Document.Conforms (.number h lo hi isInteger isPositive) v ↔
      Shape.Accepts isMatch
        (.number below above (isPositive.getD false) true (isInteger.getD false)) v := by
  rw [Document.conforms_number,Shape.accepts_number]
  rcases value_rounded converted with ⟨none_,nan⟩ | ⟨q,quantity,rounded,number⟩
  · simp [none_,converted,nan]
  · obtain ⟨toldLower,toldUpper⟩ := told q x quantity rounded
    simp only [quantity,converted,Option.some.injEq,exists_eq_left',Quantity.isIntegral_rounded rounded,
      Quantity.isPositive_rounded rounded,lower_rounded lower lowerNumber rounded number toldLower,
      upper_rounded upper upperNumber rounded number toldUpper,number]
    constructor
    · rintro ⟨whole,positive,least,most⟩
      exact ⟨most,least,positive,fun _ => trivial,whole⟩
    · rintro ⟨most,least,positive,_,whole⟩
      exact ⟨whole,positive,least,most⟩

end Numbers

section Documents

variable {declared v : Value} {name model : Text} {shape : Shape} {h : Header} {lo hi : Option Quantity}
  {isInteger isPositive : Option Bool} {x : Binary64}

theorem Twin.members {properties : List Field} (twin : Twin (.object h properties) shape) :
    ∃ (model : String) (rows : List (Field × Slot × Shape)), properties = rows.map Prod.fst ∧
      shape = .model model (rows.map memberOf) ∧ (∀ row ∈ rows, IsSlotOf row.1 row.2.1) ∧ ∀ row ∈ rows, Twin row.1 row.2.2 := by
  cases twin with
  | model slots each => exact ⟨_,_,rfl,rfl,slots,each⟩

-- A document with one field is judged by that field's value.
theorem alone_accepted (isMatch : Format → Text → Bool) {f : Field} (filled : Document.isEmpty v = false)
    (twin : Twin (.object h [f]) shape) :
    ∃ s, Twin f s ∧ (Shape.Accepts isMatch shape (.map [(.text f.name,v)]) ↔ Shape.Accepts isMatch s v) := by
  obtain ⟨model,rows,only,rfl,slots,each⟩ := twin.members
  obtain ⟨⟨f,slot,s⟩,rfl,rfl⟩ := List.map_eq_singleton_iff.mp only.symm
  have isRow : (f,slot,s) ∈ [(f,slot,s)] := List.mem_singleton_self _
  have found : Entries.field? [(.text f.name,v)] f.name = some v := by rw [Entries.field_cons,if_pos rfl]
  refine ⟨s,each _ isRow,?_⟩
  rw [Shape.accepts_model]
  simp only [Value.map.injEq,exists_eq_left',List.map_cons,List.map_nil,List.forall_mem_singleton]
  rw [member_found (slots _ isRow) found,member_filled filled]

theorem float_filled (converted : Shape.float? v = some x) : Document.isEmpty v = false := by
  cases v <;> first | rfl | cases converted

theorem number_judged (isMatch : Format → Text → Bool)
    (normalized : (Normal.schema declared).outcome = .ok [(.text name,.number h lo hi isInteger isPositive)])
    (compiled : (Shape.ofSchema declared (.text model)).outcome = .ok shape)
    (typed : Declaration.Throughout WellTyped declared) (lower : IsNumber lo) (upper : IsNumber hi)
    (converted : Shape.float? v = some x) (told : AreTold lo hi v) :
    Shape.report isMatch shape (.map [(.text name,v)]) = [] ↔
      Document.judge (.number h lo hi isInteger isPositive) v = none := by
  obtain ⟨twin,rows⟩ := twin_of_schema typed normalized compiled
  have named : Value.text name = .text (Field.number h lo hi isInteger isPositive).name :=
    rows _ (List.mem_singleton_self _)
  obtain ⟨s,inner,alone⟩ := alone_accepted isMatch (float_filled converted) twin
  rw [Shape.report_nil,named,alone]
  cases inner with
  | number below above => exact (number_rounded below above lower upper converted told).symm

end Documents

section Counters

-- A counter that starts at the first integer that is no binary64 number.
def counterSchema : Value :=
  .map [(.text "fields",.map [(.text "count",.map [(.text "type",.text "number"),(.text "min",.int 9007199254740993)])])]

def counterField : Field :=
  .number ⟨"count","",false,none⟩ (some (.int 9007199254740993)) none none none

-- Two to the power of 53, to which the bound is rounded.
def counterStart : Binary64 :=
  .finite false (2 ^ 52) 1 (by decide)

def counterShape : Shape :=
  .model "Counter" [(⟨"count",none⟩,.number (some counterStart) none false true false)]

theorem counter_declared : declarations counterSchema =
    .ok [(.text "count",.number [(.text "type",.text "number"),(.text "min",.int 9007199254740993)])] := by
  cbv

theorem counter_normalized : (Normal.schema counterSchema).outcome = .ok [(.text "count",counterField)] := by
  cbv

theorem start_rounded : Binary64.ofInt? 9007199254740993 = some counterStart := by
  rfl

theorem counter_drafted :
    Shape.numberDraft [(.text "type",.text "number"),(.text "min",.int 9007199254740993)] =
      some (.number (some counterStart) none false true false) := by
  simp [Shape.numberDraft,Shape.constraint?,given?,Entries.field_cons,Entries.field_nil,Entries.field_missing,
    Shape.bound?,Value.count?,start_rounded,Value.isTruthy]

theorem counter_compiled : (Shape.ofSchema counterSchema (.text "Counter")).outcome = .ok counterShape := by
  have drafted : (Shape.drafts 0 [(.text "count",.number
      [(.text "type",.text "number"),(.text "min",.int 9007199254740993)])]).outcome =
      .ok [(some ⟨"count",none⟩,some (.number (some counterStart) none false true false))] := by
    simp only [Shape.drafts,Shape.draft,counter_drafted]
    cbv
  exact Shape.ofSchema_built counter_declared drafted rfl (by decide)

theorem counter_typed : Declaration.Throughout WellTyped counterSchema := by
  rw [Declaration.throughout_exact counter_declared]
  simp [Declaration.EverywhereIn,Declaration.Everywhere,WellTyped,IsFlag,given?,Entries.field_cons,Entries.field_nil]

-- Three below the start; the bound is broken, and still told from the value once it is rounded.
theorem counter_told : AreTold (some (.int 9007199254740993)) none (.int 9007199254740990) := by
  have rounded : Binary64.ofInt? 9007199254740990 =
      some (.finite false 9007199254740990 0 (by decide)) := rfl
  rintro q x quantity converted
  cases quantity
  obtain rfl := Option.some.inj (rounded.symm.trans converted)
  refine ⟨?_,by simp⟩
  intro b y given start _
  cases given
  obtain rfl := Option.some.inj (start_rounded.symm.trans start)
  cbv

theorem counter_judged : Shape.report Format.isMatch counterShape (.map [(.text "count",.int 9007199254740990)]) = [] ↔
    Document.judge counterField (.int 9007199254740990) = none :=
  number_judged Format.isMatch counter_normalized counter_compiled counter_typed
    (by rintro b ⟨⟩; rfl) (by rintro b ⟨⟩) (x := .finite false 9007199254740990 0 (by decide)) rfl
    counter_told

-- One below its start the counter is accepted by the shape, and out of binary64's range it is not, while the
-- fields see both as they are.
theorem counter_values_differ :
    ((Normal.schema counterSchema).outcome = .ok [(.text "count",counterField)] ∧
      (Shape.ofSchema counterSchema (.text "Counter")).outcome = .ok counterShape ∧
      Declaration.Throughout WellTyped counterSchema) ∧
    (Shape.report Format.isMatch counterShape (.map [(.text "count",.int 9007199254740992)]) = [] ∧
      Document.judge counterField (.int 9007199254740992) ≠ none) ∧
    (Shape.report Format.isMatch counterShape (.map [(.text "count",.int (10 ^ 400))]) ≠ [] ∧
      Document.judge counterField (.int (10 ^ 400)) = none) := by
  have refused : (Document.judge counterField (.int 9007199254740992)).isSome = true := by decide +kernel
  have taken : (Document.judge counterField (.int (10 ^ 400))).isNone = true := by decide +kernel
  refine ⟨⟨counter_normalized,counter_compiled,counter_typed⟩,⟨?_,?_⟩,?_,Option.isNone_iff_eq_none.mp taken⟩
  · decide +kernel
  · exact Option.isSome_iff_ne_none.mp refused
  · decide +kernel

end Counters

end TemplateSchema
