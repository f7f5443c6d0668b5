import TemplateSchema.Proofs.Document.Agreement
import TemplateSchema.Proofs.Document.Initial
import TemplateSchema.Proofs.Schema.Names
/-!
One blank in a sound document. Null, empty text, or no entry at all, stands where a field had a
value; the rest is as sound as before, so the verdict on the document is the verdict on that place.
The two ways of judging differ there in two cases only, both meant: a default stands in for a
missing entry in the shape, but not among the fields, and null is an item or a record's value where
the shape takes it for optional.
-/
set_option autoImplicit false
namespace TemplateSchema

open Declaration (given?)

namespace Declaration

-- What both ways of judging can tell a value by.
@[mk_iff regular_exact]
structure IsRegular (d : Declaration) : Prop where
  plain : IsPlain d
  choice : HasChoice d
  names : HasDistinctNames d

end Declaration

namespace Field

structure IsRegular (f : Field) : Prop where
  plain : IsPlain f
  choice : HasChoice f
  names : HasDistinctNames f

end Field

inductive Blank where
  | null
  | text
  | gone

namespace Blank

def value? : Blank → Option Value
  | .null => some .null
  | .text => some (.text "")
  | .gone => none

-- A blank in the place of the entry under a name.
def put (b : Blank) (entries : Entries) (name : Text) : Entries :=
  match b.value? with
  | some v => Entries.insert entries (.text name) v
  | none => Entries.erase entries (.text name)

end Blank

-- Where a field's value stands: in the entry of a property, or inside a list or a record.
inductive Place where
  | member
  | inner

-- A value with a blank in one place, at any depth; the place is that of a value of the field `p`.
inductive Blanked (b : Blank) (p : Field) : Place → Field → Value → Value → Prop where
  | member {h : Header} {properties : List Field} {entries : Entries} (property : p ∈ properties) :
      Blanked b p .member (.object h properties) (.map entries) (.map (b.put entries p.name))
  | item {h : Header} {lo hi : Option Int} {before after : List Value} {v w : Value} (blank : b.value? = some w) :
      Blanked b p .inner (.array h lo hi p) (.list (before ++ v :: after)) (.list (before ++ w :: after))
  | value {h : Header} {before after : Entries} {key v w : Value} (blank : b.value? = some w) :
      Blanked b p .inner (.record h p) (.map (before ++ (key,v) :: after)) (.map (before ++ (key,w) :: after))
  | inMember {place : Place} {h : Header} {properties : List Field} {q : Field} {entries : Entries} {v w : Value}
      (property : q ∈ properties) (found : Entries.field? entries q.name = some v)
      (inside : Blanked b p place q v w) :
      Blanked b p place (.object h properties) (.map entries) (.map (Entries.insert entries (.text q.name) w))
  | inItem {place : Place} {h : Header} {lo hi : Option Int} {item : Field} {before after : List Value} {v w : Value}
      (inside : Blanked b p place item v w) :
      Blanked b p place (.array h lo hi item) (.list (before ++ v :: after)) (.list (before ++ w :: after))
  | inValue {place : Place} {h : Header} {inner : Field} {before after : Entries} {key v w : Value}
      (inside : Blanked b p place inner v w) :
      Blanked b p place (.record h inner) (.map (before ++ (key,v) :: after)) (.map (before ++ (key,w) :: after))

-- A blank that means the same for the fields and for the shape.
def Blank.IsShared (b : Blank) (place : Place) (p : Field) : Prop :=
  match b,place with
  | .gone,_ => p.isOptional = false → p.default? = none
  | .null,.inner => p.isOptional = false
  | _,_ => True

section Conditions

variable {name : Value} {d : Declaration} {f : Field}

theorem regular_field (regular : d.IsRegular) (read : (Normal.field name d).outcome = .ok f) : f.IsRegular :=
  ⟨plain_field regular.plain read,choice_field regular.choice read,distinct_field regular.names read⟩

theorem document_distinct {declared : Value} {schema : Schema} (named : Declaration.AreNamed declared)
    (rows : ∀ row ∈ schema, row.1 = .text row.2.name) (normalized : (Normal.schema declared).outcome = .ok schema) :
    schema.document.HasDistinctNames := by
  have apart := (Document.schema_named named normalized).2
  refine List.pairwise_map.mpr (List.pairwise_map.mpr (apart.imp_of_mem ?_))
  intro row other isRow isOther different same
  rw [rows row isRow,rows other isOther,Value.same_text,same,beq_self_eq_true] at different
  cases different

end Conditions

section Entries

variable {b : Blank} {entries : Entries} {name other : Text}

theorem Blank.put_own : Entries.field? (b.put entries name) name = b.value? := by
  unfold Blank.put
  cases b.value? with
  | some v => rw [Entries.field_insert,if_pos rfl]
  | none => rw [Entries.field_erase,if_pos rfl]

theorem Blank.put_other (different : name ≠ other) :
    Entries.field? (b.put entries name) other = Entries.field? entries other := by
  unfold Blank.put
  cases b.value? with
  | some v => rw [Entries.field_insert,if_neg different]
  | none => rw [Entries.field_erase,if_neg different]

end Entries

section Places

variable {isMatch : Format → Text → Bool} {f p : Field} {s t : Shape} {b : Blank} {place : Place}

-- The verdict on a blank by the shape of the field at its place.
def Blank.Accepted (isMatch : Format → Text → Bool) (b : Blank) (place : Place) (p : Field) (t : Shape) : Prop :=
  match b.value?,place with
  | none,_ => (p.default?.isSome || p.isOptional) = true
  | some v,.member => Shape.Accepts isMatch (Shape.ofMember p.isOptional t) v
  | some v,.inner => Shape.Accepts isMatch (Shape.ofInner p.isOptional t) v

-- The verdict on a blank by the field itself.
def Blank.Fits (b : Blank) (place : Place) (p : Field) : Prop :=
  match b.value?,place with
  | none,_ => Document.Fits p .null
  | some v,.member => Document.Fits p v
  | some v,.inner => Document.Conforms p v

theorem Blank.accepted_inner {w : Value} (blank : b.value? = some w) :
    b.Accepted isMatch .inner p t ↔ Shape.Accepts isMatch (Shape.ofInner p.isOptional t) w := by
  unfold Accepted
  rw [blank]

theorem Blank.fits_inner {w : Value} (blank : b.value? = some w) : b.Fits .inner p ↔ Document.Conforms p w := by
  unfold Fits
  rw [blank]

-- A member of a model takes what is nothing where the property is optional, and else what its shape takes.
theorem accepts_member {isOptional : Bool} {v : Value} :
    Shape.Accepts isMatch (Shape.ofMember isOptional s) v ↔
      (isOptional = true ∧ Document.isEmpty v = true) ∨ Shape.Accepts isMatch s v := by
  cases isOptional with
  | true =>
    rw [Shape.ofMember,if_pos rfl,Shape.accepts_orBlank,← or_assoc]
    refine or_congr ?_ Iff.rfl
    cases v <;> simp [Document.isEmpty,Text.isEmpty_exact]
  | false =>
    rw [Shape.ofMember,if_neg Bool.false_ne_true,Shape.accepts_withoutNumberCheck]
    simp

theorem accepts_nested {isOptional : Bool} {v : Value} :
    Shape.Accepts isMatch (Shape.ofInner isOptional s) v ↔
      (isOptional = true ∧ v = .null) ∨ Shape.Accepts isMatch s v := by
  cases isOptional with
  | true => rw [Shape.ofInner,if_pos rfl,Shape.accepts_orNull]; simp
  | false => rw [Shape.ofInner,if_neg Bool.false_ne_true]; simp

theorem Twin.null_refused (twin : Twin f s) : ¬ Shape.Accepts isMatch s .null := by
  cases twin with
  | @choice h options some_ whole =>
    rw [← choice_agrees (h := h) whole]
    exact Document.null_nonconforming _
  | _ => simp [Shape.accepts_text,Shape.accepts_number,Shape.float?,Shape.accepts_truth,Shape.accepts_moment,
      Shape.accepts_list,Shape.accepts_model,Shape.accepts_record,Shape.anyText]

theorem Twin.text_agrees (twin : Twin f s) (plain : f.IsPlain) (choice : f.HasChoice) {text : Text}
    (whole : text.isWhole = true) : Shape.Accepts isMatch s (.text text) ↔ Document.Conforms f (.text text) := by
  cases twin with
  | text =>
    obtain rfl : _ = none := plain
    rw [Shape.accepts_text,Document.conforms_string]
    simp only [least_nat,most_nat]
    simp [whole]
  | number => simp [Shape.accepts_number,Shape.float?,Document.conforms_number,Quantity.ofValue?]
  | truth => simp [Shape.accepts_truth,Document.conforms_boolean]
  | moment => simp [Shape.accepts_moment,Document.conforms_date]
  | list => simp [Shape.accepts_list,Document.conforms_array]
  | model => simp [Shape.accepts_model,Document.conforms_object]
  | anyChoice => exact absurd rfl choice
  | choice _ whole => exact (choice_agrees whole).symm
  | record => simp [Shape.accepts_record,Document.conforms_record]

theorem Blank.agree_exact (twin : Twin p t) (plain : p.IsPlain) (choice : p.HasChoice) :
    (b.Accepted isMatch place p t ↔ b.Fits place p) ↔ b.IsShared place p := by
  have null : ¬ Shape.Accepts isMatch t .null := twin.null_refused
  have nothing := Document.null_nonconforming p
  have text : Shape.Accepts isMatch t (.text "") ↔ Document.Conforms p (.text "") := twin.text_agrees plain choice rfl
  cases b with
  | gone =>
    simp only [Accepted,Fits,IsShared,value?,Document.fits_exact,Document.isEmpty]
    cases p.isOptional <;> simp [nothing]
  | null =>
    cases place with
    | member => simp [Accepted,Fits,IsShared,value?,accepts_member,Document.fits_exact,null,nothing]
    | inner => simp [Accepted,Fits,IsShared,value?,accepts_nested,null,nothing]
  | text =>
    cases place with
    | member => simp [Accepted,Fits,IsShared,value?,accepts_member,Document.fits_exact,text]
    | inner => simp [Accepted,Fits,IsShared,value?,accepts_nested,text]

end Places

section Containers

variable {α : Type} {isMatch : Format → Text → Bool} {entries others : Entries}

-- All hold as soon as one does, the others being known.
theorem forall_one {l : List α} {P : α → Prop} {a : α} (member : a ∈ l) (rest : ∀ x ∈ l, x ≠ a → P x) :
    (∀ x ∈ l, P x) ↔ P a := by
  constructor
  · intro all
    exact all a member
  · intro own x isMember
    by_cases same : x = a
    · exact same ▸ own
    · exact rest x isMember same

theorem forall_replaced {before after : List α} {P : α → Prop} {a b : α} (all : ∀ x ∈ before ++ a :: after, P x) :
    (∀ x ∈ before ++ b :: after, P x) ↔ P b := by
  rw [List.forall_mem_append,List.forall_mem_cons] at all ⊢
  exact ⟨fun replaced => replaced.2.1,fun own => ⟨all.1,own,all.2.2⟩⟩

-- In an object with one entry changed, all depends on the property of that entry.
theorem object_elsewhere {h : Header} {properties : List Field} {p : Field} (property : p ∈ properties)
    (distinct : (properties.map Field.name).Nodup)
    (same : ∀ name : Text, p.name ≠ name → Entries.field? others name = Entries.field? entries name)
    (conforms : Document.Conforms (.object h properties) (.map entries)) :
    Document.Conforms (.object h properties) (.map others) ↔ Document.Fits p (Entries.field others p.name) := by
  simp only [Document.conforms_object,Value.map.injEq,exists_eq_left'] at conforms ⊢
  refine forall_one property ?_
  intro q isProperty different
  have apart : p.name ≠ q.name := fun named =>
    different (List.inj_on_of_nodup_map distinct isProperty property named.symm)
  have kept := same q.name apart
  have fits := conforms q isProperty
  unfold Entries.field Entries.getOrNull at fits ⊢
  unfold Entries.field? at kept
  rwa [kept]

theorem model_elsewhere {name : String} {rows : List (Field × Slot × Shape)} {row : Field × Slot × Shape}
    (isRow : row ∈ rows) (slots : ∀ row ∈ rows, IsSlotOf row.1 row.2.1)
    (distinct : ((rows.map Prod.fst).map Field.name).Nodup)
    (same : ∀ name : Text, row.1.name ≠ name → Entries.field? others name = Entries.field? entries name)
    (accepted : Shape.Accepts isMatch (.model name (rows.map memberOf)) (.map entries)) :
    Shape.Accepts isMatch (.model name (rows.map memberOf)) (.map others) ↔
      Shape.AcceptsMember isMatch others (memberOf row) := by
  simp only [Shape.accepts_model,Value.map.injEq,exists_eq_left',List.forall_mem_map] at accepted ⊢
  refine forall_one isRow ?_
  intro other isOther different
  rw [List.map_map] at distinct
  have apart : row.1.name ≠ other.1.name := fun named =>
    different (List.inj_on_of_nodup_map distinct isOther isRow named.symm)
  have kept := same other.1.name apart
  have taken := accepted other isOther
  unfold Shape.AcceptsMember memberOf at taken ⊢
  simp only [(slots other isOther).key] at taken ⊢
  rwa [kept]

section Items

variable {h : Header} {lo hi : Option Int} {least most : Option Nat} {item : Field} {s : Shape}
  {before after : List Value} {v w : Value}

theorem array_elsewhere (conforms : Document.Conforms (.array h lo hi item) (.list (before ++ v :: after))) :
    Document.Conforms (.array h lo hi item) (.list (before ++ w :: after)) ↔ Document.Conforms item w := by
  simp only [Document.conforms_array,Value.list.injEq,exists_eq_left',List.length_append,List.length_cons]
    at conforms ⊢
  obtain ⟨enough,few,each⟩ := conforms
  rw [and_iff_right enough,and_iff_right few]
  exact forall_replaced each

theorem list_elsewhere (accepted : Shape.Accepts isMatch (.list least most s) (.list (before ++ v :: after))) :
    Shape.Accepts isMatch (.list least most s) (.list (before ++ w :: after)) ↔ Shape.Accepts isMatch s w := by
  simp only [Shape.accepts_list,Value.list.injEq,exists_eq_left',List.length_append,List.length_cons] at accepted ⊢
  obtain ⟨enough,few,each⟩ := accepted
  rw [and_iff_right enough,and_iff_right few]
  exact forall_replaced each

end Items

section Values

variable {h : Header} {inner : Field} {s : Shape} {before after : Entries} {key v w : Value}

theorem record_elsewhere (conforms : Document.Conforms (.record h inner) (.map (before ++ (key,v) :: after))) :
    Document.Conforms (.record h inner) (.map (before ++ (key,w) :: after)) ↔ Document.Conforms inner w := by
  simp only [Document.conforms_record,Value.map.injEq,exists_eq_left'] at conforms ⊢
  exact forall_replaced (b := (key,w)) conforms

theorem mapping_elsewhere (accepted : Shape.Accepts isMatch (.record s) (.map (before ++ (key,v) :: after))) :
    Shape.Accepts isMatch (.record s) (.map (before ++ (key,w) :: after)) ↔ Shape.Accepts isMatch s w := by
  simp only [Shape.accepts_record,Value.map.injEq,exists_eq_left'] at accepted ⊢
  have known : Shape.SpellsText key := (accepted (key,v) (by simp)).1
  rw [forall_replaced (b := (key,w)) accepted]
  exact and_iff_right known

end Values

-- The verdict on the entry of a property, where there is one.
theorem member_found {p : Field} {slot : Slot} {t : Shape} {v : Value} (isSlot : IsSlotOf p slot)
    (found : Entries.field? entries p.name = some v) :
    Shape.AcceptsMember isMatch entries (memberOf (p,slot,t)) ↔
      Shape.Accepts isMatch (Shape.ofMember p.isOptional t) v := by
  unfold Shape.AcceptsMember memberOf
  simp [isSlot.key,found]

theorem member_missing {p : Field} {slot : Slot} {t : Shape} (isSlot : IsSlotOf p slot)
    (missing : Entries.field? entries p.name = none) :
    Shape.AcceptsMember isMatch entries (memberOf (p,slot,t)) ↔ (p.default?.isSome || p.isOptional) = true := by
  unfold Shape.AcceptsMember memberOf
  simp [isSlot.key,isSlot.default_,missing]

end Containers

section Judging

variable {isMatch : Format → Text → Bool} {b : Blank} {place : Place} {f p : Field} {s t : Shape} {v w : Value}

-- A value that holds others is not nothing.
theorem Blanked.filled (blanked : Blanked b p place f v w) : Document.isEmpty v = false ∧ Document.isEmpty w = false := by
  cases blanked <;> exact ⟨rfl,rfl⟩

theorem fits_filled (filled : Document.isEmpty v = false) : Document.Fits f v ↔ Document.Conforms f v := by
  rw [Document.fits_exact,filled]
  simp

theorem member_filled {isOptional : Bool} (filled : Document.isEmpty v = false) :
    Shape.Accepts isMatch (Shape.ofMember isOptional s) v ↔ Shape.Accepts isMatch s v := by
  rw [accepts_member,filled]
  simp

theorem nested_filled {isOptional : Bool} (filled : Document.isEmpty v = false) :
    Shape.Accepts isMatch (Shape.ofInner isOptional s) v ↔ Shape.Accepts isMatch s v := by
  rw [accepts_nested]
  have some_ : v ≠ .null := by rintro rfl; cases filled
  simp [some_]

theorem Blank.taken {entries : Entries} {slot : Slot} (isSlot : IsSlotOf p slot)
    (own : Entries.field? entries p.name = b.value?) :
    Shape.AcceptsMember isMatch entries (memberOf (p,slot,t)) ↔ b.Accepted isMatch .member p t := by
  unfold Blank.Accepted
  cases blank : b.value? with
  | none => rw [blank] at own; exact member_missing isSlot own
  | some w => rw [blank] at own; exact member_found isSlot own

theorem Blank.fitting {entries : Entries} (own : Entries.field? entries p.name = b.value?) :
    Document.Fits p (Entries.field entries p.name) ↔ b.Fits .member p := by
  unfold Blank.Fits
  cases blank : b.value? with
  | none => rw [Entries.field_missing (own.trans blank)]
  | some w => rw [Entries.field_found (own.trans blank)]

-- By induction on the way to the blank: what stands beside the way is as sound as it was.
theorem Blanked.judged (isMatch : Format → Text → Bool) (blanked : Blanked b p place f v w) : ∀ {s : Shape},
    Twin f s → f.Everywhere Field.IsRegular → Shape.Accepts isMatch s v → Document.Conforms f v →
    ∃ t, Twin p t ∧ p.IsRegular ∧ (Shape.Accepts isMatch s w ↔ b.Accepted isMatch place p t) ∧
      (Document.Conforms f w ↔ b.Fits place p) := by
  induction blanked with
  | @member h properties entries property =>
    intro s twin regular accepted conforms
    cases twin with
    | @model _ name rows slots each =>
      obtain ⟨row,isRow,rfl⟩ := List.mem_map.mp property
      have other (name : Text) (different : row.1.name ≠ name) :
          Entries.field? (b.put entries row.1.name) name = Entries.field? entries name := b.put_other different
      have own : Entries.field? (b.put entries row.1.name) row.1.name = b.value? := Blank.put_own
      refine ⟨row.2.2,each row isRow,(Field.everywhereIn_exact.mp regular.2 _ property).here,?_,?_⟩
      · exact (model_elsewhere isRow slots regular.1.names other accepted).trans (Blank.taken (slots row isRow) own)
      · exact (object_elsewhere property regular.1.names other conforms).trans (Blank.fitting own)
  | @item h lo hi before after v w blank =>
    intro s twin regular accepted conforms
    cases twin with
    | @list _ _ _ _ t inner =>
      refine ⟨t,inner,regular.2.here,?_,?_⟩
      · rw [list_elsewhere accepted,Blank.accepted_inner blank]
      · rw [array_elsewhere conforms,Blank.fits_inner blank]
  | @value h before after key v w blank =>
    intro s twin regular accepted conforms
    cases twin with
    | @record _ _ t inner =>
      refine ⟨t,inner,regular.2.here,?_,?_⟩
      · rw [mapping_elsewhere accepted,Blank.accepted_inner blank]
      · rw [record_elsewhere conforms,Blank.fits_inner blank]
  | @inMember place h properties q entries v w property found inside ih =>
    intro s twin regular accepted conforms
    cases twin with
    | @model _ name rows slots each =>
      obtain ⟨row,isRow,rfl⟩ := List.mem_map.mp property
      have other (name : Text) (different : row.1.name ≠ name) :
          Entries.field? (Entries.insert entries (.text row.1.name) w) name = Entries.field? entries name := by
        rw [Entries.field_insert,if_neg different]
      have own : Entries.field? (Entries.insert entries (.text row.1.name) w) row.1.name = some w := by
        rw [Entries.field_insert,if_pos rfl]
      have inner := Field.everywhereIn_exact.mp regular.2 _ property
      have fits := Document.conforms_object.mp conforms
      simp only [Value.map.injEq,exists_eq_left'] at fits
      have fit := fits row.1 property
      rw [Entries.field_found found,fits_filled inside.filled.1] at fit
      have members := Shape.accepts_model.mp accepted
      simp only [Value.map.injEq,exists_eq_left',List.forall_mem_map] at members
      have member := members row isRow
      rw [member_found (slots row isRow) found,member_filled inside.filled.1] at member
      obtain ⟨t,twin,regularPlace,taken,fitting⟩ := ih (each row isRow) inner member fit
      refine ⟨t,twin,regularPlace,?_,?_⟩
      · rw [model_elsewhere isRow slots regular.1.names other accepted,member_found (slots row isRow) own,
          member_filled inside.filled.2]
        exact taken
      · rw [object_elsewhere property regular.1.names other conforms,Entries.field_found own,
          fits_filled inside.filled.2]
        exact fitting
  | @inItem place h lo hi item before after v w inside ih =>
    intro s twin regular accepted conforms
    have item := (array_elsewhere conforms).mp conforms
    cases twin with
    | @list _ _ _ _ t inner =>
      have taken := (list_elsewhere accepted).mp accepted
      rw [nested_filled inside.filled.1] at taken
      obtain ⟨t,twin,regularPlace,taken,fitting⟩ := ih inner regular.2 taken item
      refine ⟨t,twin,regularPlace,?_,?_⟩
      · rw [list_elsewhere accepted,nested_filled inside.filled.2]
        exact taken
      · rw [array_elsewhere conforms]
        exact fitting
  | @inValue place h inner before after key v w inside ih =>
    intro s twin regular accepted conforms
    have value := (record_elsewhere conforms).mp conforms
    cases twin with
    | @record _ _ t inner =>
      have taken := (mapping_elsewhere accepted).mp accepted
      rw [nested_filled inside.filled.1] at taken
      obtain ⟨t,twin,regularPlace,taken,fitting⟩ := ih inner regular.2 taken value
      refine ⟨t,twin,regularPlace,?_,?_⟩
      · rw [mapping_elsewhere accepted,nested_filled inside.filled.2]
        exact taken
      · rw [record_elsewhere conforms]
        exact fitting

end Judging

section Documents

variable {declared : Value} {name : Text} {schema : Schema} {shape : Shape} {entries others : Entries}
  {b : Blank} {place : Place} {p : Field}

-- Nothing is asked of the document but that neither the fields nor the shape find anything wrong with it.
theorem blank_judged (isMatch : Format → Text → Bool) (normalized : (Normal.schema declared).outcome = .ok schema)
    (compiled : (Shape.ofSchema declared (.text name)).outcome = .ok shape)
    (typed : Declaration.Throughout WellTyped declared)
    (regular : Declaration.Throughout Declaration.IsRegular declared) (named : Declaration.AreNamed declared)
    (valid : Document.validate schema (.map entries) = .ok [])
    (accepted : Shape.report isMatch shape (.map entries) = [])
    (blanked : Blanked b p place schema.document (.map entries) (.map others)) :
    (Shape.report isMatch shape (.map others) = [] ↔ Document.validate schema (.map others) = .ok []) ↔
      b.IsShared place p := by
  obtain ⟨twin,rows⟩ := twin_of_schema typed normalized compiled
  have regularly : schema.document.Everywhere Field.IsRegular :=
    document_everywhere (fun _ _ _ => regular_field)
      ⟨trivial,trivial,document_distinct named rows normalized⟩ regular normalized
  have conforms := (validate_exact rows).mp valid
  obtain ⟨t,twin,isRegular,taken,fitting⟩ :=
    blanked.judged isMatch twin regularly (Shape.report_nil.mp accepted) conforms
  rw [Shape.report_nil,validate_exact rows,taken,fitting]
  exact Blank.agree_exact twin isRegular.plain isRegular.choice

end Documents

section Parcels

-- Null in the place of the only size.
def unsizedParcel : Entries :=
  [(.text "tags",.list [.text "old"]),(.text "sizes",.map [(.text "height",.null)]),(.text "note",.text "")]

def sizeField : Field :=
  .number ⟨"sizesValue","",false,none⟩ (some (.int 0)) none none none

theorem unsized_blanked : Blanked .null sizeField .inner parcelFields.document (.map parcel) (.map unsizedParcel) := by
  have changed : unsizedParcel = Entries.insert parcel (.text "sizes") (.map [(.text "height",.null)]) := by cbv
  have property : Field.record ⟨"sizes","",false,none⟩ sizeField ∈ parcelFields.map Prod.snd := by
    simp [parcelFields,sizeField]
  have inside : Blanked .null sizeField .inner (.record ⟨"sizes","",false,none⟩ sizeField)
      (.map ([] ++ [(.text "height",.int 3)])) (.map ([] ++ [(.text "height",.null)])) := .value rfl
  rw [changed]
  exact .inMember property (by cbv) inside

theorem parcel_named : Declaration.AreNamed parcelSchema := by
  intro properties read
  obtain rfl := Except.ok.inj (parcel_declared.symm.trans read)
  simp [Value.same_text]

theorem parcel_regular : Declaration.Throughout Declaration.IsRegular parcelSchema := by
  rw [Declaration.throughout_exact parcel_declared]
  simp [Declaration.EverywhereIn,Declaration.Everywhere,Declaration.regular_exact,Declaration.IsPlain,
    Declaration.HasChoice,Declaration.HasDistinctNames,Normal.formatNamed?,Entries.field,Entries.getOrNull,
    Entries.get?,Value.same,Value.sameScalar,Value.count?,Value.membersOrNone?,Value.members?,Value.isTruthy]

theorem unsized_judged : Shape.report Format.isMatch parcelShape (.map unsizedParcel) = [] ↔
    Document.validate parcelFields (.map unsizedParcel) = .ok [] :=
  (blank_judged Format.isMatch parcel_normalized parcel_compiled parcel_typed parcel_regular parcel_named
    (by cbv) (by decide +kernel) unsized_blanked).mpr rfl

end Parcels

section Ballots

-- A number of votes that is nothing unless told, and marks of which any may be left out.
def ballotSchema : Value :=
  .map [(.text "fields",.map [
    (.text "votes",.map [(.text "type",.text "number"),(.text "default",.int 0)]),
    (.text "marks",.map [(.text "type",.text "array"),(.text "items",
      .map [(.text "type",.text "boolean"),(.text "optional",.bool true)])])])]

def votesField : Field :=
  .number ⟨"votes","",false,some (.int 0)⟩ none none none none

def markField : Field :=
  .boolean ⟨"marksItem","",true,none⟩

def ballotFields : Schema :=
  [(.text "votes",votesField),(.text "marks",.array ⟨"marks","",false,none⟩ none none markField)]

def ballotShape : Shape :=
  .model "Ballot" [
    (⟨"votes",some (.int 0)⟩,.number none none false true false),
    (⟨"marks",none⟩,.list none none (.orNull .truth))]

def ballot : Entries :=
  [(.text "votes",.int 3),(.text "marks",.list [.bool true])]

theorem ballot_declared : declarations ballotSchema = .ok [
    (.text "votes",.number [(.text "type",.text "number"),(.text "default",.int 0)]),
    (.text "marks",.array [(.text "type",.text "array"),(.text "items",
        .map [(.text "type",.text "boolean"),(.text "optional",.bool true)])]
      (.boolean [(.text "type",.text "boolean"),(.text "optional",.bool true)]))] := by
  cbv

theorem ballot_compiled : (Shape.ofSchema ballotSchema (.text "Ballot")).outcome = .ok ballotShape :=
  Shape.ofSchema_built ballot_declared (by cbv) rfl (by decide)

theorem ballot_typed : Declaration.Throughout WellTyped ballotSchema := by
  rw [Declaration.throughout_exact ballot_declared]
  simp [Declaration.EverywhereIn,Declaration.Everywhere,WellTyped,IsFlag,given?,Entries.field?,Entries.get?,
    Value.same,Value.sameScalar,Value.count?]

theorem ballot_regular : Declaration.Throughout Declaration.IsRegular ballotSchema := by
  rw [Declaration.throughout_exact ballot_declared]
  simp [Declaration.EverywhereIn,Declaration.Everywhere,Declaration.regular_exact,Declaration.IsPlain,
    Declaration.HasChoice,Declaration.HasDistinctNames]

theorem ballot_bounds : Declaration.Throughout Declaration.HasExactBounds ballotSchema := by
  rw [Declaration.throughout_exact ballot_declared]
  simp [Declaration.EverywhereIn,Declaration.Everywhere,Declaration.HasExactBounds,given?,Entries.field?,
    Entries.get?,Value.same,Value.sameScalar,Value.count?]

theorem ballot_named : Declaration.AreNamed ballotSchema := by
  intro properties read
  obtain rfl := Except.ok.inj (ballot_declared.symm.trans read)
  simp [Value.same_text]

theorem ballot_small : (Value.map ballot).HasSmallIntegers := by
  simp [ballot,Value.HasSmallIntegers,Value.HasSmallEntries,Value.HasSmallItems]

theorem ballot_keys : HasTextKeys ballotFields.document (.map ballot) := by
  simp [ballot,ballotFields,votesField,markField,Schema.document,HasTextKeys,HaveTextKeys]

def uncountedBallot : Entries :=
  [(.text "marks",.list [.bool true])]

def unmarkedBallot : Entries :=
  [(.text "votes",.int 3),(.text "marks",.list [.null])]

theorem uncounted_blanked :
    Blanked .gone votesField .member ballotFields.document (.map ballot) (.map uncountedBallot) := by
  have changed : uncountedBallot = Blank.gone.put ballot votesField.name := by cbv
  have property : votesField ∈ ballotFields.map Prod.snd := by simp [ballotFields]
  rw [changed]
  exact .member property

theorem unmarked_blanked :
    Blanked .null markField .inner ballotFields.document (.map ballot) (.map unmarkedBallot) := by
  have changed : unmarkedBallot = Entries.insert ballot (.text "marks") (.list [.null]) := by cbv
  have property : Field.array ⟨"marks","",false,none⟩ none none markField ∈ ballotFields.map Prod.snd := by
    simp [ballotFields]
  have inside : Blanked .null markField .inner (.array ⟨"marks","",false,none⟩ none none markField)
      (.list ([] ++ [.bool true])) (.list ([] ++ [.null])) := .item rfl
  rw [changed]
  exact .inMember property (by cbv) inside

-- Two blanks in a ballot that both engines accept, each of them refused by the fields and taken by the shape.
theorem ballot_blanks_differ :
    ((Normal.schema ballotSchema).outcome = .ok ballotFields ∧
      (Shape.ofSchema ballotSchema (.text "Ballot")).outcome = .ok ballotShape ∧
      Declaration.Throughout WellTyped ballotSchema ∧ Declaration.Throughout Declaration.IsRegular ballotSchema ∧
      Declaration.Throughout Declaration.HasExactBounds ballotSchema ∧ Declaration.AreNamed ballotSchema ∧
      (Value.map ballot).HasSmallIntegers ∧ HasTextKeys ballotFields.document (.map ballot) ∧
      Document.validate ballotFields (.map ballot) = .ok [] ∧
      Shape.report Format.isMatch ballotShape (.map ballot) = []) ∧
    (Blanked .gone votesField .member ballotFields.document (.map ballot) (.map uncountedBallot) ∧
      Shape.report Format.isMatch ballotShape (.map uncountedBallot) = [] ∧
      Document.validate ballotFields (.map uncountedBallot) ≠ .ok []) ∧
    (Blanked .null markField .inner ballotFields.document (.map ballot) (.map unmarkedBallot) ∧
      Shape.report Format.isMatch ballotShape (.map unmarkedBallot) = [] ∧
      Document.validate ballotFields (.map unmarkedBallot) ≠ .ok []) := by
  have uncounted : Document.validate ballotFields (.map uncountedBallot) = .ok [(.text "votes",⟨[],.number⟩)] := by
    cbv
  have unmarked : Document.validate ballotFields (.map unmarkedBallot) =
      .ok [(.text "marks",⟨[.item 1],.truth⟩)] := by
    cbv
  refine ⟨⟨by cbv,ballot_compiled,ballot_typed,ballot_regular,ballot_bounds,ballot_named,ballot_small,ballot_keys,
    by cbv,?_⟩,⟨uncounted_blanked,by cbv,by simp [uncounted]⟩,unmarked_blanked,?_,by simp [unmarked]⟩
  · decide +kernel
  · decide +kernel

end Ballots

end TemplateSchema
