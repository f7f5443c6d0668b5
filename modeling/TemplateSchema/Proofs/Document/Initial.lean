import Mathlib
import TemplateSchema.Document.Dates
import TemplateSchema.Document.Initial
import TemplateSchema.Document.Validation
import TemplateSchema.Proofs.Calendar.Reading
import TemplateSchema.Proofs.Json.Reread
import TemplateSchema.Proofs.Schema.Normalized
/-!
The initial values of a document, written down and read again, are the same document once its dates
are read: dates are written as text only where the schema expects them, and all other text is left
alone there.
-/
set_option autoImplicit false
namespace TemplateSchema

theorem Value.asMoment_read {s : Text} {m : Moment} (read : s.spelled?.bind Moment.read? = some m) :
    (Value.text s).asMoment = .moment m := by
  rw [asMoment,toMoment_text.mpr read]

theorem Value.asMoment_whole {s : String} {m : Moment} (read : Moment.read? s = some m) :
    (Value.text s).asMoment = .moment m :=
  asMoment_read read

theorem Value.asMoment_other {s : Text} (other : s.spelled?.bind Moment.read? = none) :
    (Value.text s).asMoment = .text s := by
  simp only [asMoment,toMoment,other]

namespace Declaration

-- Null, a truth value, an integer that is not too long to be read back, or text that is read back.
def IsPlainDefault : Value → Prop
  | .null => True
  | .bool _ => True
  | .int n => Json.IsShort n
  | .text s => s.IsApart
  | _ => False

def HaveApartNames (properties : List (Value × Declaration)) : Prop :=
  ∀ property ∈ properties, ∀ name, property.1 = .text name → name.IsApart

-- Only what holds one value has a default, and a plain one. Names and options are texts that are read
-- back, too.
def HasPlainDefault : Declaration → Prop
  | .array keys _ => Entries.field? keys defaultKey = none
  | .object keys properties => Entries.field? keys defaultKey = none ∧ HaveApartNames properties
  | .record keys _ => Entries.field? keys defaultKey = none
  | .enum keys => (∀ v, Entries.field? keys defaultKey = some v → IsPlainDefault v) ∧
      ∀ options, (Entries.field keys "options").membersOrNone? = some options →
        ∀ option, .text option ∈ options → option.IsApart
  | d => ∀ v, d.default? = some v → IsPlainDefault v

-- The fields of a schema are declared under texts, each of them once.
def AreNamed (declared : Value) : Prop :=
  ∀ properties, declarations declared = .ok properties →
    (∀ property ∈ properties, ∃ name, property.1 = .text name) ∧
      properties.Pairwise fun property other => Value.same property.1 other.1 = false

-- Their names are read back as they are written.
def AreApart (declared : Value) : Prop :=
  ∀ properties, declarations declared = .ok properties → HaveApartNames properties

end Declaration

namespace Field

-- The default of a date: a moment only if its text shows it in full, and text only if it denotes none.
inductive IsDateDefault : Value → Prop where
  | null : IsDateDefault .null
  | bool (b : Bool) : IsDateDefault (.bool b)
  | int {n : Int} (short : Json.IsShort n) : IsDateDefault (.int n)
  | text {s : Text} (apart : s.IsApart) (other : s.spelled?.bind Moment.read? = none) : IsDateDefault (.text s)
  | moment {m : Moment} (settled : m.IsSettled) : IsDateDefault (.moment m)

def HasPlainDefault : Field → Prop
  | .date h _ _ => ∀ v, h.default? = some v → IsDateDefault v
  | .array h _ _ _ => h.default? = none
  | .object h properties => h.default? = none ∧ ∀ p ∈ properties, p.name.IsApart
  | .record h _ => h.default? = none
  | .enum h options => (∀ v, h.default? = some v → Declaration.IsPlainDefault v) ∧ ∀ option ∈ options, option.IsApart
  | f => ∀ v, f.default? = some v → Declaration.IsPlainDefault v

end Field

namespace Normal

theorem dateDefault_plain {v : Value} (plain : Declaration.IsPlainDefault v) :
    Field.IsDateDefault (dateDefault v) := by
  cases v with
  | null => exact .null
  | bool b => exact .bool b
  | int n => exact .int plain
  | text s =>
    change Field.IsDateDefault (Value.asMoment (.text s))
    cases read : s.spelled?.bind Moment.read? with
    | none => rw [Value.asMoment_other read]; exact .text plain read
    | some m =>
      obtain ⟨_,_,settled⟩ := Option.bind_eq_some_iff.mp read
      rw [Value.asMoment_read read]
      exact .moment (Moment.read_settled settled)
  | _ => exact plain.elim

-- A text that is read from bytes is whole.
theorem text_apart {v : Value} {t : Text} (apart : ∀ own, v = .text own → own.IsApart)
    (read : Attribute.text v = .ok t) : t.IsApart := by
  cases v with
  | text s =>
    cases read
    exact apart t rfl
  | bytes bs =>
    simp only [Attribute.text] at read
    split at read
    · cases read
      exact Text.whole_apart _
    · cases read
  | _ => cases read

theorem options_apart {members : List Value} {options : List Text} (position : Nat)
    (apart : ∀ option, .text option ∈ members → option.IsApart)
    (read : Reading.items Attribute.text position members = .ok options) : ∀ option ∈ options, option.IsApart := by
  induction members generalizing position options with
  | nil => cases read; simp
  | cons v rest ih =>
    rw [Reading.items,Success.map_exact] at read
    obtain ⟨⟨first,others⟩,read,rfl⟩ := read
    rw [Reading.and_exact,Reading.under_exact] at read
    have here := text_apart (fun own same => apart own (same ▸ List.mem_cons_self)) read.1
    have behind := ih _ (fun option member => apart option (List.mem_cons_of_mem _ member)) read.2
    exact List.forall_mem_cons.mpr ⟨here,behind⟩

theorem names_apart {properties : List (Value × Declaration)} {fields : List Field}
    (apart : Declaration.HaveApartNames properties) (read : (fieldsOf properties).outcome = .ok fields) :
    ∀ p ∈ fields, p.name.IsApart := by
  induction properties generalizing fields with
  | nil => cases read; simp
  | cons property rest ih =>
    obtain ⟨name,d⟩ := property
    obtain ⟨f,_,first,others,rfl⟩ := fieldsOf_cons.mp read
    obtain ⟨here,behind⟩ := List.forall_mem_cons.mp apart
    exact List.forall_mem_cons.mpr ⟨text_apart here (field_header first).1,ih behind others⟩

theorem plain_default {name : Value} {d : Declaration} {f : Field} (plain : d.HasPlainDefault)
    (read : (field name d).outcome = .ok f) : f.HasPlainDefault := by
  have shared {keys : Entries} {h : Header} (head : header name keys = .ok h) :
      h.default? = Entries.field? keys Declaration.defaultKey := (headerWith_exact head).2.2.2
  cases field_exact read with
  | date head lower upper =>
    intro v default_
    have own := (headerWith_exact head).2.2.2
    obtain ⟨declared,found,rfl⟩ := Option.map_eq_some_iff.mp (own.symm.trans default_)
    exact dateDefault_plain (plain declared found)
  | string head lower upper => exact fun v default_ => plain v ((shared head).symm.trans default_)
  | number head lower upper integer positive => exact fun v default_ => plain v ((shared head).symm.trans default_)
  | boolean head => exact fun v default_ => plain v ((shared head).symm.trans default_)
  | enum head listed texts =>
    exact ⟨fun v default_ => plain.1 v ((shared head).symm.trans default_),options_apart 0 (plain.2 _ listed) texts⟩
  | unknown head => exact fun v default_ => plain v ((shared head).symm.trans default_)
  | array head lower upper nested => exact (shared head).trans plain
  | object head nested => exact ⟨(shared head).trans plain.1,names_apart plain.2 nested⟩
  | record head nested => exact (shared head).trans plain

end Normal

namespace Document

open Json (IsKept kept)

variable {now : Moment} {properties : List Field} {filled : Entries} {entry : Value × Value} {f p : Field}
  {v : Value}

section Defaults

theorem plain_kept (plain : Declaration.IsPlainDefault v) : IsKept v ∧ kept v = v := by
  cases v with
  | null => exact ⟨trivial,rfl⟩
  | bool b => exact ⟨trivial,rfl⟩
  | int n => exact ⟨plain,rfl⟩
  | text s => exact ⟨plain,rfl⟩
  | _ => exact plain.elim

theorem moment_kept {m : Moment} (settled : m.IsSettled) : (kept (.moment m)).asMoment = .moment m := by
  rw [kept,Value.asMoment_whole (Moment.iso_reread m),Moment.reread_settled settled]

theorem dateDefault_kept (isDefault : Field.IsDateDefault v) : IsKept v ∧ (kept v).asMoment = v := by
  cases isDefault with
  | null => exact ⟨trivial,rfl⟩
  | bool b => exact ⟨trivial,rfl⟩
  | int short => exact ⟨short,rfl⟩
  | text apart other => exact ⟨apart,Value.asMoment_other other⟩
  | moment settled => exact ⟨trivial,moment_kept settled⟩

end Defaults

section Objects

-- The last of the properties that have its name; it fills the entry of that name.
def IsLast (properties : List Field) (p : Field) : Prop :=
  ∃ before after, properties = before ++ p :: after ∧ ∀ q ∈ after, q.name ≠ p.name

theorem properties_distinct (distinct : Entries.AreDistinct filled) :
    Entries.AreDistinct (initialProperties now filled properties) := by
  induction properties generalizing filled with
  | nil => exact distinct
  | cons p rest ih => exact ih (Entries.insert_distinct distinct)

-- A later property of the same name fills the entry anew, so the induction keeps apart the entries
-- that none of the properties left will fill.
theorem filled_exact (distinct : Entries.AreDistinct filled)
    (member : entry ∈ initialProperties now filled properties) :
    (∃ p, IsLast properties p ∧ entry = (.text p.name,initial now p)) ∨
      entry ∈ filled ∧ ∀ p ∈ properties, entry.1 ≠ .text p.name := by
  induction properties generalizing filled with
  | nil => exact .inr ⟨member,by simp⟩
  | cons p rest ih =>
    rcases ih (Entries.insert_distinct distinct) member with ⟨q,⟨before,after,rfl,last⟩,rfl⟩ | ⟨old,others⟩
    · exact .inl ⟨q,⟨p :: before,after,rfl,last⟩,rfl⟩
    · rcases Entries.insert_member distinct old with rfl | ⟨older,different⟩
      · refine .inl ⟨p,⟨[],rest,rfl,?_⟩,rfl⟩
        intro q member same
        exact others q member (congrArg Value.text same.symm)
      · exact .inr ⟨older,List.forall_mem_cons.mpr ⟨different,others⟩⟩

-- Reading the dates of an entry goes by the last property of its name, too.
theorem coerce_last (last : IsLast properties p) :
    coerceProperty (.text p.name) v properties = coerce p v := by
  obtain ⟨before,after,rfl,last⟩ := last
  have own : isNamed (.text p.name) p = true := by rw [isNamed,Value.same_text,beq_self_eq_true]
  induction before with
  | nil =>
    have none_ : after.any (isNamed (.text p.name)) = false := by
      rw [List.any_eq_false]
      intro q member
      rw [isNamed,Value.same_text,beq_iff_eq]
      exact fun same => last q member same.symm
    rw [List.nil_append,coerceProperty,own,none_]
    rfl
  | cons q before ih =>
    have later : (before ++ p :: after).any (isNamed (.text p.name)) = true :=
      List.any_eq_true.mpr ⟨p,by simp,own⟩
    rw [List.cons_append,coerceProperty,later,Bool.not_true,Bool.and_false,if_neg Bool.false_ne_true]
    exact ih

end Objects

section Rereading

-- An initial value that its text gives back, once the dates in it are read.
def IsReread (now : Moment) (f : Field) : Prop :=
  IsKept (initial now f) ∧ coerce f (kept (initial now f)) = initial now f

-- The kinds whose values are read as they are written.
theorem plain_reread (fallback : Value) (own : initial now f = f.default?.getD fallback)
    (untouched : ∀ v, coerce f v = v) (plain : ∀ v, f.default? = some v → Declaration.IsPlainDefault v)
    (otherwise : Declaration.IsPlainDefault fallback) : IsReread now f := by
  have isPlain : Declaration.IsPlainDefault (initial now f) := by
    rw [own]
    cases default_ : f.default? with
    | none => exact otherwise
    | some v => exact plain v default_
  obtain ⟨isKept,same⟩ := plain_kept isPlain
  exact ⟨isKept,by rw [same,untouched]⟩

theorem date_reread {h : Header} {min max : Option Moment} (settled : now.IsSettled)
    (isDefault : ∀ v, h.default? = some v → Field.IsDateDefault v) : IsReread now (.date h min max) := by
  have isDate : Field.IsDateDefault (initial now (.date h min max)) := by
    rw [initial]
    cases default_ : h.default? with
    | none => exact .moment settled
    | some v => exact isDefault v default_
  obtain ⟨isKept,same⟩ := dateDefault_kept isDate
  exact ⟨isKept,by rw [coerce,same]⟩

theorem empty_reread (empty : Value) (own : initial now f = empty) (isKept : IsKept empty)
    (same : coerce f (kept empty) = empty) : IsReread now f := by
  unfold IsReread
  rw [own]
  exact ⟨isKept,same⟩

theorem object_reread {h : Header} (none_ : h.default? = none) (apart : ∀ p ∈ properties, p.name.IsApart)
    (each : ∀ p ∈ properties, IsReread now p) :
    IsReread now (.object h properties) := by
  have distinct : Entries.AreDistinct (initialProperties now [] properties) :=
    properties_distinct List.Pairwise.nil
  have filled : ∀ entry ∈ initialProperties now [] properties, ∃ p, p ∈ properties ∧ IsLast properties p ∧
      entry = (.text p.name,initial now p) := by
    intro entry member
    rcases filled_exact List.Pairwise.nil member with ⟨p,last,same⟩ | ⟨no,_⟩
    · obtain ⟨before,after,split_,_⟩ := id last
      exact ⟨p,by rw [split_]; simp,last,same⟩
    · cases no
  unfold IsReread
  rw [initial,none_,Option.getD_none]
  constructor
  · refine ⟨distinct,Json.entriesAreKept_exact.mpr ?_⟩
    intro entry member
    obtain ⟨p,inside,_,rfl⟩ := filled entry member
    exact ⟨⟨p.name,rfl,apart p inside⟩,(each p inside).1⟩
  · simp only [kept,Json.entriesKept_map,coerce,List.map_map]
    congr 1
    refine (List.map_congr_left ?_).trans (List.map_id _)
    intro entry member
    obtain ⟨p,inside,last,rfl⟩ := filled entry member
    simp only [Function.comp,coerce_last last,(each p inside).2]
    rfl

mutual

theorem field_reread (settled : now.IsSettled) :
    (f : Field) → f.Everywhere Field.HasPlainDefault → IsReread now f
  | .string .., plain => plain_reread (.text "") rfl (fun _ => rfl) plain (Text.whole_apart "")
  | .number .., plain => plain_reread (.int 0) rfl (fun _ => rfl) plain Json.zero_short
  | .boolean _, plain => plain_reread (.bool false) rfl (fun _ => rfl) plain trivial
  | .enum _ [], plain => plain_reread (.text "") rfl (fun _ => rfl) plain.1 (Text.whole_apart "")
  | .enum _ (option :: _), plain =>
    plain_reread (.text option) rfl (fun _ => rfl) plain.1 (plain.2 option List.mem_cons_self)
  | .date .., plain => date_reread settled plain
  | .array .., plain =>
    empty_reread (.list []) (by rw [initial,plain.1,Option.getD_none]) trivial rfl
  | .record .., plain =>
    empty_reread (.map []) (by rw [initial,plain.1,Option.getD_none]) ⟨List.Pairwise.nil,trivial⟩ rfl
  | .object _ properties, plain => object_reread plain.1.1 plain.1.2 (fields_reread settled properties plain.2)

theorem fields_reread (settled : now.IsSettled) : (properties : List Field) →
    Field.EverywhereIn Field.HasPlainDefault properties → ∀ p ∈ properties, IsReread now p
  | [], _ => by simp
  | f :: rest, plain =>
    List.forall_mem_cons.mpr ⟨field_reread settled f plain.1,fields_reread settled rest plain.2⟩

end

theorem get_row {schema : Schema} {row : Value × Field}
    (distinct : schema.Pairwise fun row other => Value.same row.1 other.1 = false)
    (named : ∃ name, row.1 = .text name) (member : row ∈ schema) : schema.get? row.1 = some row.2 := by
  obtain ⟨key,f⟩ := row
  obtain ⟨name,rfl⟩ : ∃ name, key = .text name := named
  rw [Schema.get?,Entries.find_row distinct member]
  rfl

theorem values_reread {schema : Schema} (named : ∀ row ∈ schema, ∃ name, row.1 = .text name ∧ name.IsApart)
    (distinct : schema.Pairwise fun row other => Value.same row.1 other.1 = false)
    (each : ∀ row ∈ schema, IsReread now row.2) :
    IsKept (initialValues now schema) ∧
      coerceDates schema (kept (initialValues now schema)) = .ok (initialValues now schema) := by
  unfold initialValues
  constructor
  · refine ⟨List.pairwise_map.mpr distinct,Json.entriesAreKept_exact.mpr ?_⟩
    intro entry member
    obtain ⟨row,isRow,rfl⟩ := List.mem_map.mp member
    exact ⟨named row isRow,(each row isRow).1⟩
  · simp only [kept,coerceDates,Json.entriesKept_map,List.map_map]
    congr 2
    apply List.map_congr_left
    intro row isRow
    have text : ∃ name, row.1 = .text name := (named row isRow).imp fun _ => And.left
    simp only [Function.comp,get_row distinct text isRow,(each row isRow).2]

-- The fields of a document have the keys that they are declared under.
theorem schema_named {declared : Value} {schema : Schema} (named : Declaration.AreNamed declared)
    (normalized : (Normal.schema declared).outcome = .ok schema) :
    (∀ row ∈ schema, ∃ name, row.1 = .text name) ∧
      schema.Pairwise fun row other => Value.same row.1 other.1 = false := by
  obtain ⟨properties,found,normalized⟩ := Normal.schema_exact.mp normalized
  obtain ⟨texts,distinct⟩ := named properties found
  have keys := (Normal.schemaOf_exact normalized).2
  constructor
  · intro row isRow
    have isKey : row.1 ∈ properties.map Prod.fst := by rw [← keys]; exact List.mem_map_of_mem isRow
    obtain ⟨property,isProperty,same⟩ := List.mem_map.mp isKey
    rw [← same]
    exact texts property isProperty
  · have apart : (properties.map Prod.fst).Pairwise fun key other => Value.same key other = false :=
      List.pairwise_map.mpr distinct
    rw [← keys] at apart
    exact List.pairwise_map.mp apart

theorem schema_apart {declared : Value} {schema : Schema} (apart : Declaration.AreApart declared)
    (normalized : (Normal.schema declared).outcome = .ok schema) :
    ∀ row ∈ schema, ∀ name, row.1 = .text name → name.IsApart := by
  obtain ⟨properties,found,normalized⟩ := Normal.schema_exact.mp normalized
  intro row isRow
  have isKey : row.1 ∈ properties.map Prod.fst := by
    rw [← (Normal.schemaOf_exact normalized).2]
    exact List.mem_map_of_mem isRow
  obtain ⟨property,isProperty,same⟩ := List.mem_map.mp isKey
  rw [← same]
  exact apart properties found property isProperty

theorem initial_reread {declared : Value} {schema : Schema} (named : Declaration.AreNamed declared)
    (apart : Declaration.AreApart declared) (plain : Declaration.Throughout Declaration.HasPlainDefault declared)
    (normalized : (Normal.schema declared).outcome = .ok schema) (settled : now.IsSettled) :
    ∃ text values, Json.write (initialValues now schema) = .ok text ∧ Json.read text = .ok values ∧
      coerceDates schema values = .ok (initialValues now schema) ∧
      (coerceDates schema values >>= validate schema) = validate schema (initialValues now schema) := by
  have plainly := Field.everywhereIn_exact.mp
    (Normal.everywhere_schema (fun _ _ _ => Normal.plain_default) plain normalized)
  obtain ⟨texts,distinct⟩ := schema_named named normalized
  have readable (row : Value × Field) (isRow : row ∈ schema) : ∃ name, row.1 = .text name ∧ name.IsApart := by
    obtain ⟨name,isText⟩ := texts row isRow
    exact ⟨name,isText,schema_apart apart normalized row isRow name isText⟩
  obtain ⟨isKept,coerced⟩ := values_reread readable distinct fun row isRow =>
    field_reread settled row.2 (plainly row.2 (List.mem_map_of_mem isRow))
  obtain ⟨text,written,read⟩ := Json.text_reread (initialValues now schema) isKept
  exact ⟨text,_,written,read,coerced,by rw [coerced]; rfl⟩

section Tasks

-- A task has a day on which it is due, and what it is repeated for; an end may be named in words.
def taskSchema : Value :=
  .map [(.text "fields",.map [
    (.text "due",.map [(.text "type",.text "date")]),
    (.text "repeat",.map [(.text "type",.text "object"),(.text "properties",.map [
      (.text "from",.map [(.text "type",.text "date"),(.text "default",.text "2031-05-06T07:08:09Z")]),
      (.text "end",.map [(.text "type",.text "date"),(.text "default",.text "never")]),
      (.text "count",.map [(.text "type",.text "number"),(.text "default",.int 3)])])])])]

def taskStart : Moment :=
  ⟨⟨2031,5,6,by decide⟩,⟨7,8,9,0,by decide⟩,some Offset.universal⟩

def taskFields : Schema :=
  [(.text "due",.date ⟨"due","",false,none⟩ none none),
    (.text "repeat",.object ⟨"repeat","",false,none⟩ [
      .date ⟨"from","",false,some (.moment taskStart)⟩ none none,
      .date ⟨"end","",false,some (.text "never")⟩ none none,
      .number ⟨"count","",false,some (.int 3)⟩ none none none none])]

-- Half past five hours ahead of universal time.
def taskClock : Moment :=
  ⟨⟨2024,3,4,by decide⟩,⟨5,6,7,89,by decide⟩,some ⟨19800000000,by decide⟩⟩

theorem task_declared : declarations taskSchema = .ok [
    (.text "due",.date [(.text "type",.text "date")]),
    (.text "repeat",.object [(.text "type",.text "object"),(.text "properties",.map [
        (.text "from",.map [(.text "type",.text "date"),(.text "default",.text "2031-05-06T07:08:09Z")]),
        (.text "end",.map [(.text "type",.text "date"),(.text "default",.text "never")]),
        (.text "count",.map [(.text "type",.text "number"),(.text "default",.int 3)])])] [
      (.text "from",.date [(.text "type",.text "date"),(.text "default",.text "2031-05-06T07:08:09Z")]),
      (.text "end",.date [(.text "type",.text "date"),(.text "default",.text "never")]),
      (.text "count",.number [(.text "type",.text "number"),(.text "default",.int 3)])])] := by
  cbv

theorem task_named : Declaration.AreNamed taskSchema := by
  intro properties read
  obtain rfl := Except.ok.inj (task_declared.symm.trans read)
  simp [Value.same_text]

theorem task_apart : Declaration.AreApart taskSchema := by
  intro properties read
  obtain rfl := Except.ok.inj (task_declared.symm.trans read)
  simp [Declaration.HaveApartNames,Text.whole_apart]

theorem task_plain : Declaration.Throughout Declaration.HasPlainDefault taskSchema := by
  have short : Json.IsShort 3 := by unfold Json.IsShort; decide
  rw [Declaration.throughout_exact task_declared]
  simp [Declaration.EverywhereIn,Declaration.Everywhere,Declaration.HasPlainDefault,Declaration.default?,
    Declaration.keys,Declaration.defaultKey,Declaration.IsPlainDefault,Entries.field_cons,Entries.field_nil,short,
    Declaration.HaveApartNames,Text.whole_apart]

theorem task_reread : ∃ text values, Json.write (initialValues taskClock taskFields) = .ok text ∧
    Json.read text = .ok values ∧ coerceDates taskFields values = .ok (initialValues taskClock taskFields) ∧
    (coerceDates taskFields values >>= validate taskFields) =
      validate taskFields (initialValues taskClock taskFields) :=
  initial_reread task_named task_apart task_plain (by cbv) ⟨_,rfl,.inr (by decide)⟩

def dueSchema : Value :=
  .map [(.text "fields",.map [(.text "due",.map [(.text "type",.text "date")])])]

def dueFields : Schema :=
  [(.text "due",.date ⟨"due","",false,none⟩ none none)]

-- A microsecond ahead of universal time.
def closeClock : Moment :=
  ⟨⟨2024,3,4,by decide⟩,⟨5,6,7,0,by decide⟩,some ⟨1,by decide⟩⟩

-- So near to universal time the offset is written, and not read again.
theorem close_clock_lost : (Normal.schema dueSchema).outcome = .ok dueFields ∧
    ∃ text values, Json.write (initialValues closeClock dueFields) = .ok text ∧ Json.read text = .ok values ∧
      coerceDates dueFields values ≠ .ok (initialValues closeClock dueFields) := by
  have isKept : IsKept (initialValues closeClock dueFields) :=
    ⟨List.pairwise_singleton _ _,⟨"due",rfl,Text.whole_apart "due"⟩,trivial,trivial⟩
  obtain ⟨text,written,read⟩ := Json.text_reread _ isKept
  refine ⟨by cbv,text,_,written,read,?_⟩
  have coerced : coerceDates dueFields (kept (initialValues closeClock dueFields)) =
      .ok (.map [(.text "due",.moment closeClock.reread)]) := by
    rw [← Value.asMoment_whole (Moment.iso_reread closeClock)]
    simp [initialValues,dueFields,initial,kept,Json.entriesKept,coerceDates,Schema.get?,Value.same_text,coerce]
  rw [coerced]
  intro same
  have kept_ : closeClock.reread = closeClock := by simpa [initialValues,dueFields,initial] using same
  exact absurd kept_ (by decide)

end Tasks

end Rereading

end Document

end TemplateSchema
