import Mathlib
import TemplateSchema.Proofs.Calendar.Reading
import TemplateSchema.Proofs.Schema.Normalized
import TemplateSchema.Proofs.Value.Entries
/-!
Schemas with their dates written out. Where a schema is kept as text there are no dates, only their
standard form; a schema that is written so declares the same fields, as long as every date in it is
a bound or the default of a date field, and no default lacks an offset.
-/
set_option autoImplicit false
namespace TemplateSchema

namespace Value

mutual

-- The value with every date in it, and every moment, as its text; keys stay what they are.
def written : Value → Value
  | .date d => .text d.iso
  | .moment m => .text m.iso
  | .list items => .list (writtenItems items)
  | .tuple items => .tuple (writtenItems items)
  | .set items => .set (writtenItems items)
  | .map entries => .map (writtenEntries entries)
  | v => v

def writtenItems : List Value → List Value
  | [] => []
  | v :: rest => written v :: writtenItems rest

def writtenEntries : List (Value × Value) → List (Value × Value)
  | [] => []
  | (k,v) :: rest => (k,written v) :: writtenEntries rest

end

mutual

def IsDateless : Value → Prop
  | .date _ | .moment _ => False
  | .list items | .tuple items | .set items => AreDateless items
  | .map entries => EntriesAreDateless entries
  | _ => True

def AreDateless : List Value → Prop
  | [] => True
  | v :: rest => IsDateless v ∧ AreDateless rest

def EntriesAreDateless : List (Value × Value) → Prop
  | [] => True
  | (_,v) :: rest => IsDateless v ∧ EntriesAreDateless rest

end

mutual

theorem written_dateless (v : Value) (dateless : v.IsDateless) : v.written = v := by
  cases v with
  | date d => exact dateless.elim
  | moment m => exact dateless.elim
  | list items => rw [written,writtenItems_dateless items dateless]
  | tuple items => rw [written,writtenItems_dateless items dateless]
  | set items => rw [written,writtenItems_dateless items dateless]
  | map entries => rw [written,writtenEntries_dateless entries dateless]
  | _ => rfl

theorem writtenItems_dateless (items : List Value) (dateless : AreDateless items) : writtenItems items = items := by
  match items with
  | [] => rfl
  | v :: rest => rw [writtenItems,written_dateless v dateless.1,writtenItems_dateless rest dateless.2]

theorem writtenEntries_dateless (entries : List (Value × Value)) (dateless : EntriesAreDateless entries) :
    writtenEntries entries = entries := by
  match entries with
  | [] => rfl
  | (k,v) :: rest => rw [writtenEntries,written_dateless v dateless.1,writtenEntries_dateless rest dateless.2]

end

theorem field_written (entries : Entries) (name : Text) :
    Entries.field? (writtenEntries entries) name = (Entries.field? entries name).map written := by
  induction entries with
  | nil => rfl
  | cons entry rest ih =>
    obtain ⟨key,v⟩ := entry
    unfold Entries.field? Entries.get? at ih ⊢
    rw [writtenEntries,List.find?_cons,List.find?_cons]
    cases same : Value.same key (.text name) with
    | true => rfl
    | false => exact ih

-- A date or a moment whose text denotes it; without an offset, universal time is meant.
def IsDay : Value → Prop
  | .date _ => True
  | .moment m => ∀ o, m.offset = some o → o.IsSettled
  | _ => False

theorem toMoment_written {v : Value} (day : v.IsDay) : v.written.toMoment = v.toMoment := by
  cases v with
  | date d => exact toMoment_whole.mpr (Moment.date_reread d)
  | moment m =>
    rw [written,toMoment_whole.mpr (Moment.iso_reread m)]
    obtain ⟨date,time,_ | o⟩ := m
    · rfl
    · exact congrArg Except.ok (Moment.reread_settled ⟨o,rfl,day o rfl⟩)
  | _ => exact day.elim

end Value

namespace Declaration

-- Where the keys of a declaration hold dates, or declarations that may hold them.
inductive Holds : Declaration → Text → Value → Prop where
  | date {keys : Entries} {key : Text} {v : Value} (place : key ∈ [Text.whole "min","max",defaultKey]) (day : v.IsDay) :
      Holds (.date keys) key v
  | item {keys : Entries} {item : Declaration} {v : Value} : Holds (.array keys item) itemsKey v
  | properties {keys : Entries} {properties : List (Value × Declaration)} {v : Value} :
      Holds (.object keys properties) propertiesKey v
  | value {keys : Entries} {value : Declaration} {v : Value} : Holds (.record keys value) valuesKey v

-- There are no dates in a declaration but where it holds them.
def HasDatesInPlace (d : Declaration) : Prop :=
  ∀ key v, Entries.field? d.keys key = some v → v.IsDateless ∨ d.Holds key v

-- A moment that a date is set to by default has an offset.
def HasAwareDefault : Declaration → Prop
  | .date keys => ∀ m, Entries.field? keys defaultKey = some (.moment m) → m.isAware = true
  | _ => True

mutual

def written : Declaration → Declaration
  | .broken gap => .broken gap
  | .string keys => .string (Value.writtenEntries keys)
  | .number keys => .number (Value.writtenEntries keys)
  | .boolean keys => .boolean (Value.writtenEntries keys)
  | .date keys => .date (Value.writtenEntries keys)
  | .array keys item => .array (Value.writtenEntries keys) (written item)
  | .object keys properties => .object (Value.writtenEntries keys) (writtenIn properties)
  | .enum keys => .enum (Value.writtenEntries keys)
  | .record keys value => .record (Value.writtenEntries keys) (written value)
  | .unknown keys => .unknown (Value.writtenEntries keys)

def writtenIn : List (Value × Declaration) → List (Value × Declaration)
  | [] => []
  | (name,d) :: rest => (name,written d) :: writtenIn rest

end

section Lookups

variable {d : Declaration} {keys others : Entries} {key : Text}

-- Where declarations stand inside one.
def innerKeys : List Text :=
  [itemsKey,propertiesKey,valuesKey]

def dateKeys : List Text :=
  ["min","max",defaultKey]

theorem Holds.inner {v : Value} (timeless : ∀ keys, d ≠ .date keys) (holds : d.Holds key v) : key ∈ innerKeys := by
  cases holds with
  | date _ _ => exact absurd rfl (timeless _)
  | item => simp [innerKeys]
  | properties => simp [innerKeys]
  | value => simp [innerKeys]

theorem Holds.dated {v : Value} (holds : (Declaration.date keys).Holds key v) : key ∈ dateKeys ∧ v.IsDay := by
  cases holds with
  | date place day => exact ⟨place,day⟩

-- A key that holds no dates finds what it found.
theorem found_written (inPlace : d.HasDatesInPlace) (free : ∀ v, ¬ d.Holds key v) :
    Entries.field? (Value.writtenEntries d.keys) key = Entries.field? d.keys key := by
  rw [Value.field_written]
  cases found : Entries.field? d.keys key with
  | none => rfl
  | some v =>
    rcases inPlace key v found with dateless | holds
    · rw [Option.map_some,Value.written_dateless v dateless]
    · exact absurd holds (free v)

-- The same is found under a key that no declarations stand under.
def AreAlike (others keys : Entries) : Prop :=
  ∀ key, key ∉ innerKeys → Entries.field? others key = Entries.field? keys key

theorem alike_written (inPlace : d.HasDatesInPlace) (timeless : ∀ keys, d ≠ .date keys) :
    AreAlike (Value.writtenEntries d.keys) d.keys := by
  intro key other
  refine found_written inPlace ?_
  intro v holds
  exact other (holds.inner timeless)

theorem given_same {key : String} (same : Entries.field? others key = Entries.field? keys key) :
    given? others key = given? keys key := by
  rw [given?,given?,same]

theorem field_same (same : Entries.field? others key = Entries.field? keys key) :
    Entries.field others key = Entries.field keys key := by
  unfold Entries.field? at same
  rw [Entries.field,Entries.field,Entries.getOrNull,Entries.getOrNull,same]

end Lookups

end Declaration

namespace Normal

open Declaration (AreAlike alike_written dateBound found_written given_same field_same descriptionKey optionalKey
  defaultKey innerKeys dateKeys)

section Keys

variable {name : Value} {keys others : Entries} {default? : Option Value}

theorem headerWith_same (about : Entries.field? others descriptionKey = Entries.field? keys descriptionKey)
    (optional : Entries.field? others optionalKey = Entries.field? keys optionalKey) :
    headerWith name others default? = headerWith name keys default? := by
  simp only [headerWith,description,field_same about,field_same optional]

theorem constraint_same {α : Type} {key stored : String} {read : Value → Reading α}
    (same : Entries.field? others key = Entries.field? keys key) :
    constraint others key stored read = constraint keys key stored read := by
  rw [constraint,constraint,given_same same]

theorem header_alike (alike : AreAlike others keys) : header name others = header name keys := by
  rw [header,header,alike defaultKey (by decide),
    headerWith_same (alike descriptionKey (by decide)) (alike optionalKey (by decide))]

theorem string_alike (alike : AreAlike others keys) : string name others = string name keys := by
  simp only [string,format,given_same (alike "format" (by decide)),header_alike alike,
    constraint_same (alike "minLength" (by decide)),constraint_same (alike "maxLength" (by decide))]

theorem number_alike (alike : AreAlike others keys) : number name others = number name keys := by
  simp only [number,header_alike alike,constraint_same (alike "min" (by decide)),
    constraint_same (alike "max" (by decide)),constraint_same (alike "integer" (by decide)),
    constraint_same (alike "positive" (by decide))]

theorem enum_alike (alike : AreAlike others keys) : enum name others = enum name keys := by
  simp only [enum,header_alike alike,field_same (alike "options" (by decide))]

theorem array_alike {item : Field} (alike : AreAlike others keys) : array name others item = array name keys item := by
  simp only [array,header_alike alike,constraint_same (alike "minItems" (by decide)),
    constraint_same (alike "maxItems" (by decide))]

end Keys

section Dates

variable {keys : Entries} {key : String} {v : Value}

theorem dateDefault_read {s : String} {m : Moment} (read : Moment.read? s = some m) :
    dateDefault (.text s) = .moment m := by
  rw [dateDefault,Value.asMoment,Value.toMoment_whole.mpr read]

theorem dateDefault_day (day : v.IsDay) (aware : ∀ m, v = .moment m → m.isAware = true) :
    dateDefault v.written = dateDefault v := by
  cases v with
  | date d =>
    rw [Value.written,dateDefault_read (Moment.date_reread d)]
    rfl
  | moment m =>
    obtain ⟨o,known⟩ := Option.isSome_iff_exists.mp (aware m rfl)
    rw [Value.written,dateDefault_read (Moment.iso_reread m),Moment.reread_settled ⟨o,known,day o known⟩]
    rfl
  | _ => exact day.elim

theorem date_found (inPlace : (Declaration.date keys).HasDatesInPlace) (found : Entries.field? keys key = some v) :
    v.written = v ∨ v.IsDay := by
  rcases inPlace key v found with dateless | holds
  · exact .inl (Value.written_dateless v dateless)
  · exact .inr holds.dated.2

theorem dateBound_written (inPlace : (Declaration.date keys).HasDatesInPlace) :
    dateBound (Value.writtenEntries keys) key = dateBound keys key := by
  have same := Value.field_written keys key
  unfold dateBound Declaration.given?
  cases found : Entries.field? keys key with
  | none => rw [same,found]; rfl
  | some v =>
    rw [same,found,Option.map_some]
    rcases date_found inPlace found with kept | day
    · rw [kept]
    · have moment := Value.toMoment_written day
      cases v with
      | date d => exact congrArg (Except.map some) moment
      | moment m => exact congrArg (Except.map some) moment
      | _ => exact day.elim

theorem dateDefault_written (inPlace : (Declaration.date keys).HasDatesInPlace)
    (aware : (Declaration.date keys).HasAwareDefault) :
    (Entries.field? (Value.writtenEntries keys) defaultKey).map dateDefault =
      (Entries.field? keys defaultKey).map dateDefault := by
  rw [Value.field_written]
  cases found : Entries.field? keys defaultKey with
  | none => rfl
  | some v =>
    rcases date_found inPlace found with kept | day
    · rw [Option.map_some,kept]
    · have same := dateDefault_day day (by rintro m rfl; exact aware m found)
      rw [Option.map_some,Option.map_some,Option.map_some,same]

theorem date_written {name : Value} (inPlace : (Declaration.date keys).HasDatesInPlace)
    (aware : (Declaration.date keys).HasAwareDefault) : date name (Value.writtenEntries keys) = date name keys := by
  have free (key : Text) (other : key ∉ dateKeys) :
      Entries.field? (Value.writtenEntries keys) key = Entries.field? keys key :=
    found_written inPlace fun _ holds => other holds.dated.1
  simp only [date,dateBound_written inPlace,dateDefault_written inPlace aware,
    headerWith_same (free descriptionKey (by decide)) (free optionalKey (by decide))]

end Dates

section Declarations

mutual

-- By recursion on the declaration: the declarations inside it normalize alike, and so do its own keys.
theorem field_written : (d : Declaration) → ∀ (name : Value), d.Everywhere Declaration.HasDatesInPlace →
    d.Everywhere Declaration.HasAwareDefault → field name d.written = field name d
  | .broken _, _, _, _ => rfl
  | .string _, _, inPlace, _ => string_alike (alike_written inPlace nofun)
  | .number _, _, inPlace, _ => number_alike (alike_written inPlace nofun)
  | .boolean keys, name, inPlace, _ => by
    have head : header name (Value.writtenEntries keys) = header name keys := header_alike (alike_written inPlace nofun)
    rw [Declaration.written,field,field,head]
  | .date _, _, inPlace, aware => date_written inPlace aware
  | .array keys item, name, inPlace, aware => by
    have inner := field_written item (Declaration.itemName name) inPlace.2 aware.2
    have own (f : Field) : array name (Value.writtenEntries keys) f = array name keys f :=
      array_alike (alike_written inPlace.1 nofun)
    rw [Declaration.written,field,field,inner]
    simp only [own]
  | .object keys properties, name, inPlace, aware => by
    have inner := fields_written properties inPlace.2 aware.2
    have head : header name (Value.writtenEntries keys) = header name keys :=
      header_alike (alike_written inPlace.1 nofun)
    rw [Declaration.written,field,field,inner,head]
  | .enum _, _, inPlace, _ => enum_alike (alike_written inPlace nofun)
  | .record keys value, name, inPlace, aware => by
    have inner := field_written value (Declaration.valueName name) inPlace.2 aware.2
    have head : header name (Value.writtenEntries keys) = header name keys :=
      header_alike (alike_written inPlace.1 nofun)
    rw [Declaration.written,field,field,inner,head]
  | .unknown keys, name, inPlace, _ => by
    have alike : AreAlike (Value.writtenEntries keys) keys := alike_written inPlace nofun
    rw [Declaration.written,field,field,header_alike alike,field_same (alike Declaration.typeKey (by decide))]

theorem fields_written : (properties : List (Value × Declaration)) →
    Declaration.EverywhereIn Declaration.HasDatesInPlace properties →
    Declaration.EverywhereIn Declaration.HasAwareDefault properties →
    fieldsOf (Declaration.writtenIn properties) = fieldsOf properties
  | [], _, _ => rfl
  | (name,d) :: rest, inPlace, aware => by
    rw [Declaration.writtenIn,fieldsOf,fieldsOf,field_written d name inPlace.1 aware.1,
      fields_written rest inPlace.2 aware.2]

end

end Declarations

end Normal

namespace Declaration

-- What can be read as a declaration.
def IsWhole (d : Declaration) : Prop :=
  ∀ gap, d ≠ .broken gap

mutual

-- What normalizes has been read, and so has all that stands inside it.
theorem whole_field : (d : Declaration) → ∀ {name : Value} {f : Field}, (Normal.field name d).outcome = .ok f →
    d.Everywhere IsWhole
  | .broken _, _, _, read => by cases read
  | .array _ item, _, _, read => by
    cases Normal.field_exact read with
    | array head lower upper nested => exact ⟨nofun,whole_field item nested⟩
  | .object _ properties, _, _, read => by
    cases Normal.field_exact read with
    | object head nested => exact ⟨nofun,whole_fields properties nested⟩
  | .record _ value, _, _, read => by
    cases Normal.field_exact read with
    | record head nested => exact ⟨nofun,whole_field value nested⟩
  | .string _, _, _, _ => fun _ => nofun
  | .number _, _, _, _ => fun _ => nofun
  | .boolean _, _, _, _ => fun _ => nofun
  | .date _, _, _, _ => fun _ => nofun
  | .enum _, _, _, _ => fun _ => nofun
  | .unknown _, _, _, _ => fun _ => nofun

theorem whole_fields : (properties : List (Value × Declaration)) → ∀ {fields : List Field},
    (Normal.fieldsOf properties).outcome = .ok fields → EverywhereIn IsWhole properties
  | [], _, _ => trivial
  | (_,d) :: rest, _, read => by
    obtain ⟨f,_,first,others,_⟩ := Normal.fieldsOf_cons.mp read
    exact ⟨whole_field d first,whole_fields rest others⟩

end

section Reading

variable {keys : Entries}

theorem inPlace_entries {d : Declaration}
    (held : ∀ key v, (.text key,v) ∈ d.keys → v.IsDateless ∨ d.Holds key v) : d.HasDatesInPlace :=
  fun key v found => held key v (Entries.found_entry found)

theorem type_free {d : Declaration} {v : Value} : ¬ d.Holds typeKey v := by
  intro holds
  by_cases dated : ∃ keys, d = .date keys
  · obtain ⟨keys,rfl⟩ := dated
    exact absurd holds.dated.1 (by decide)
  · exact absurd (holds.inner fun keys same => dated ⟨keys,same⟩) (by decide)

theorem keys_whole (whole : (ofValue (.map keys)).IsWhole) : (ofValue (.map keys)).keys = keys := by
  rw [ofValue] at whole ⊢
  cases found : Kind.read? (Entries.field keys typeKey) with
  | none => rfl
  | some kind =>
    cases kind with
    | object =>
      cases read : propertiesIn keys with
      | error gap =>
        simp only [found,read,ofProperties] at whole
        exact absurd rfl (whole gap)
      | ok properties => rfl
    | _ => rfl

theorem type_written (whole : (ofValue (.map keys)).IsWhole) (inPlace : (ofValue (.map keys)).HasDatesInPlace) :
    Entries.field (Value.writtenEntries keys) typeKey = Entries.field keys typeKey := by
  have same := found_written inPlace fun _ => type_free
  rw [keys_whole whole] at same
  exact field_same same

mutual

-- What is read of the written value is what was read, written: the type, which says what to read, is
-- no date.
theorem ofValue_written (v : Value) (whole : (ofValue v).Everywhere IsWhole)
    (inPlace : (ofValue v).Everywhere HasDatesInPlace) : ofValue v.written = (ofValue v).written := by
  cases v with
  | map keys =>
    have type := type_written whole.here inPlace.here
    rw [ofValue] at whole inPlace
    rw [Value.written,ofValue,ofValue,type]
    cases found : Kind.read? (Entries.field keys typeKey) with
    | none => rfl
    | some kind =>
      rw [found] at whole inPlace
      cases kind with
      | array => exact congrArg (Declaration.array _) (nested_written keys whole.2 inPlace.2)
      | record => exact congrArg (Declaration.record _) (nested_written keys whole.2 inPlace.2)
      | object =>
        cases read : propertiesIn keys with
        | error gap =>
          simp only [read,ofProperties] at whole
          exact absurd rfl (whole gap)
        | ok properties =>
          simp only [read,ofProperties] at whole inPlace ⊢
          rw [propertiesIn_written keys read whole.2 inPlace.2]
          rfl
      | _ => rfl
  | _ => rfl

theorem nested_written {key : String} (entries : List (Value × Value))
    (whole : (nested key entries).Everywhere IsWhole) (inPlace : (nested key entries).Everywhere HasDatesInPlace) :
    nested key (Value.writtenEntries entries) = (nested key entries).written := by
  match entries with
  | [] => rfl
  | (k,v) :: rest =>
    rw [Value.writtenEntries,nested,nested]
    rw [nested] at whole inPlace
    by_cases here : Value.same k (.text key) = true
    · rw [if_pos here] at whole inPlace
      rw [if_pos here,if_pos here,ofValue_written v whole inPlace]
    · rw [if_neg here] at whole inPlace
      rw [if_neg here,if_neg here,nested_written rest whole inPlace]

theorem propertiesIn_written (entries : List (Value × Value)) {properties : List (Value × Declaration)}
    (read : propertiesIn entries = .ok properties) (whole : EverywhereIn IsWhole properties)
    (inPlace : EverywhereIn HasDatesInPlace properties) :
    propertiesIn (Value.writtenEntries entries) = .ok (writtenIn properties) := by
  match entries with
  | [] => cases read
  | (k,v) :: rest =>
    rw [propertiesIn] at read
    rw [Value.writtenEntries,propertiesIn]
    by_cases here : Value.same k (.text propertiesKey) = true
    · rw [if_pos here] at read ⊢
      exact propertiesOf_written v read whole inPlace
    · rw [if_neg here] at read ⊢
      exact propertiesIn_written rest read whole inPlace

theorem propertiesOf_written (v : Value) {properties : List (Value × Declaration)}
    (read : propertiesOf v = .ok properties) (whole : EverywhereIn IsWhole properties)
    (inPlace : EverywhereIn HasDatesInPlace properties) : propertiesOf v.written = .ok (writtenIn properties) := by
  cases v with
  | map entries =>
    cases read
    exact congrArg Except.ok (members_written entries whole inPlace)
  | _ => cases read

theorem members_written (entries : List (Value × Value)) (whole : EverywhereIn IsWhole (members entries))
    (inPlace : EverywhereIn HasDatesInPlace (members entries)) :
    members (Value.writtenEntries entries) = writtenIn (members entries) := by
  match entries with
  | [] => rfl
  | (_,v) :: rest =>
    rw [Value.writtenEntries,members,members,writtenIn,ofValue_written v whole.1 inPlace.1,
      members_written rest whole.2 inPlace.2]

end

theorem declarations_written {declared : Value} {properties : List (Value × Declaration)}
    (read : declarations declared = .ok properties) (whole : EverywhereIn IsWhole properties)
    (inPlace : EverywhereIn HasDatesInPlace properties) :
    declarations declared.written = .ok (writtenIn properties) := by
  obtain ⟨entries,fields,rfl,found,rfl⟩ := declarations_exact.mp read
  have written := Value.field_written entries fieldsKey
  rw [found] at written
  rw [Value.written,declarations,written]
  exact congrArg Except.ok (members_written fields whole inPlace)

end Reading

end Declaration

namespace Normal

theorem schemaOf_written : (properties : List (Value × Declaration)) →
    Declaration.EverywhereIn Declaration.HasDatesInPlace properties →
    Declaration.EverywhereIn Declaration.HasAwareDefault properties →
    schemaOf (Declaration.writtenIn properties) = schemaOf properties
  | [], _, _ => rfl
  | (name,d) :: rest, inPlace, aware => by
    rw [Declaration.writtenIn,schemaOf,schemaOf,field_written d name inPlace.1 aware.1,
      schemaOf_written rest inPlace.2 aware.2]

-- A schema that is kept as text declares what it declared: only the moment that a date is set to by
-- default has to have an offset, as its text gets one when it is read.
theorem schema_written {declared : Value} {fields : Schema}
    (inPlace : Declaration.Throughout Declaration.HasDatesInPlace declared)
    (aware : Declaration.Throughout Declaration.HasAwareDefault declared)
    (normalized : (schema declared).outcome = .ok fields) : schema declared.written = schema declared := by
  cases read : declarations declared with
  | error failure =>
    rw [schema,read] at normalized
    cases normalized
  | ok properties =>
    rw [schema,read] at normalized
    have whole := Declaration.whole_fields properties (schemaOf_exact normalized).1
    have written := Declaration.declarations_written read whole (inPlace _ read)
    have same := schemaOf_written properties (inPlace _ read) (aware _ read)
    rw [schema,schema,read,written]
    exact same

section Rotas

-- Nine o'clock, where the clock says how far it is from universal time.
def nine (offset : Option Offset) : Moment :=
  ⟨⟨2024,3,1,by decide⟩,⟨9,0,0,0,by decide⟩,offset⟩

def anHourAhead : Offset :=
  ⟨3600000000,by decide⟩

def shiftKeys (offset : Option Offset) : Entries :=
  [(.text "type",.text "date"),(.text "min",.date ⟨2024,1,31,by decide⟩),
    (.text "max",.moment ⟨⟨2024,12,31,by decide⟩,⟨18,0,0,0,by decide⟩,none⟩),(.text "default",.moment (nine offset))]

-- Who starts when: shifts between a day and a moment of no known offset, at nine unless told.
def rotaKeys (offset : Option Offset) : Entries :=
  [(.text "type",.text "record"),(.text "values",.map (shiftKeys offset))]

def rotaSchema (offset : Option Offset) : Value :=
  .map [(.text "fields",.map [(.text "shifts",.map (rotaKeys offset))])]

def rotaFields (offset : Option Offset) : Schema :=
  [(.text "shifts",.record ⟨"shifts","",false,none⟩ (.date ⟨"shiftsValue","",false,some (.moment (nine offset))⟩
    (some (Moment.midnight ⟨2024,1,31,by decide⟩ (some Offset.universal)))
    (some ⟨⟨2024,12,31,by decide⟩,⟨18,0,0,0,by decide⟩,some Offset.universal⟩)))]

theorem rota_declared (offset : Option Offset) : declarations (rotaSchema offset) =
    .ok [(.text "shifts",.record (rotaKeys offset) (.date (shiftKeys offset)))] := by
  cbv

theorem rota_inPlace {offset : Option Offset} (settled : ∀ o, offset = some o → o.IsSettled) :
    Declaration.Throughout Declaration.HasDatesInPlace (rotaSchema offset) := by
  rw [Declaration.throughout_exact (rota_declared offset)]
  refine ⟨⟨Declaration.inPlace_entries ?_,Declaration.inPlace_entries ?_⟩,trivial⟩
  · intro key v member
    simp only [Declaration.keys,rotaKeys,List.mem_cons,Prod.mk.injEq,Value.text.injEq,List.not_mem_nil,or_false] at member
    rcases member with ⟨rfl,rfl⟩ | ⟨rfl,rfl⟩
    · exact .inl trivial
    · exact .inr .value
  · intro key v member
    simp only [Declaration.keys,shiftKeys,List.mem_cons,Prod.mk.injEq,Value.text.injEq,List.not_mem_nil,or_false] at member
    rcases member with ⟨rfl,rfl⟩ | ⟨rfl,rfl⟩ | ⟨rfl,rfl⟩ | ⟨rfl,rfl⟩
    · exact .inl trivial
    · exact .inr (.date (by simp) trivial)
    · exact .inr (.date (by simp) fun o known => by cases known)
    · exact .inr (.date (by simp [Declaration.defaultKey]) settled)

theorem rota_normalized (offset : Option Offset) : (schema (rotaSchema offset)).outcome = .ok (rotaFields offset) := by
  cbv

theorem rota_aware : Declaration.Throughout Declaration.HasAwareDefault (rotaSchema (some anHourAhead)) := by
  rw [Declaration.throughout_exact (rota_declared _)]
  refine ⟨⟨trivial,?_⟩,trivial⟩
  intro m found
  have own : m = nine (some anHourAhead) := by
    simpa [shiftKeys,Declaration.defaultKey] using Entries.found_entry found
  rw [own]
  rfl

theorem rota_written : schema (rotaSchema (some anHourAhead)).written = schema (rotaSchema (some anHourAhead)) :=
  schema_written (rota_inPlace (by rintro o ⟨⟩; exact .inr (by decide))) rota_aware (rota_normalized _)

-- By default a shift starts at nine of no known offset; written, at nine of universal time.
theorem rota_default_differs : Declaration.Throughout Declaration.HasDatesInPlace (rotaSchema none) ∧
    (schema (rotaSchema none)).outcome = .ok (rotaFields none) ∧
    (schema (rotaSchema none).written).outcome = .ok (rotaFields (some Offset.universal)) ∧
    rotaFields none ≠ rotaFields (some Offset.universal) := by
  refine ⟨rota_inPlace (fun _ known => by cases known),rota_normalized none,by cbv,?_⟩
  simp [rotaFields,nine]

end Rotas

end Normal

end TemplateSchema
