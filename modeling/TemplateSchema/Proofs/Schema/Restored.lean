import Mathlib
import TemplateSchema.Proofs.Schema.Data
import TemplateSchema.Schema.Stored
/-!
A normalized schema is restored from its stored form. Attributes are stored under names of their
own and found again by them, so that only what is never stored is lost: a default of null.
-/
set_option autoImplicit false
namespace TemplateSchema

-- The same header, without a default of null.
def Header.withoutNull (h : Header) : Header :=
  { h with default? := h.default?.filter fun v => !v.isNull }

namespace Field

mutual

-- The same field without defaults of null, at every depth.
def withoutNulls : Field → Field
  | .string h minLength maxLength format => .string h.withoutNull minLength maxLength format
  | .number h min max isInteger isPositive => .number h.withoutNull min max isInteger isPositive
  | .boolean h => .boolean h.withoutNull
  | .date h min max => .date h.withoutNull min max
  | .array h minItems maxItems item => .array h.withoutNull minItems maxItems (withoutNulls item)
  | .object h properties => .object h.withoutNull (allWithoutNulls properties)
  | .enum h options => .enum h.withoutNull options
  | .record h value => .record h.withoutNull (withoutNulls value)

def allWithoutNulls : List Field → List Field
  | [] => []
  | f :: rest => withoutNulls f :: allWithoutNulls rest

end

section Slots

-- Attributes by their names, those that are absent included.
abbrev Slots := List (String × Option Value)

def Slots.entries (slots : Slots) : Entries :=
  slots.flatMap fun (name,v) => present name v

def Slots.names (slots : Slots) : List String :=
  slots.map Prod.fst

variable {slots : Slots} {name : String} {v : Option Value} {entry : Value × Value}

theorem present_name (member : entry ∈ present name v) : entry.1 = .text name := by
  unfold present at member
  split at member
  · cases member
  · cases member
  · obtain rfl := List.mem_singleton.mp member; rfl

theorem present_field : Entries.field? (present name v) name = v.filter fun v => !v.isNull := by
  cases v with
  | none => rfl
  | some v => cases v <;> first | rfl | exact (Entries.field_cons name).trans (if_pos rfl)

theorem present_distinct : Entries.AreDistinct (present name v) := by
  unfold present Entries.AreDistinct
  split <;> simp

theorem Slots.entry_name (member : entry ∈ slots.entries) : ∃ name ∈ slots.names, entry.1 = .text name := by
  obtain ⟨⟨name,v⟩,slot,member⟩ := List.mem_flatMap.mp member
  exact ⟨name,List.mem_map_of_mem slot,present_name member⟩

theorem Slots.unnamed (other : name ∉ slots.names) : Entries.field? slots.entries name = none := by
  apply Entries.field_absent
  intro entry member
  obtain ⟨own,named,key⟩ := entry_name member
  rw [key,Value.same_text,beq_eq_false_iff_ne]
  rintro ⟨⟩
  exact other named

-- What is stored under a name is found again by it.
theorem Slots.found (distinct : slots.names.Nodup) (slot : (name,v) ∈ slots) :
    Entries.field? slots.entries name = v.filter fun v => !v.isNull := by
  induction slots with
  | nil => cases slot
  | cons first rest ih =>
    obtain ⟨own,w⟩ := first
    obtain ⟨fresh,distinct⟩ := List.nodup_cons.mp distinct
    change Entries.field? (present own w ++ Slots.entries rest) name = _
    rw [Entries.field_append]
    rcases List.mem_cons.mp slot with same | slot
    · cases same
      rw [present_field,unnamed fresh,Option.or_none]
    · have named : name ∈ Slots.names rest := List.mem_map.mpr ⟨_,slot,rfl⟩
      have absent : Entries.field? (present own w) name = none := by
        apply Entries.field_absent
        intro entry member
        rw [present_name member,Value.same_text,beq_eq_false_iff_ne]
        rintro ⟨⟩
        exact fresh named
      rw [absent,Option.none_or,ih distinct slot]

theorem Slots.distinct (distinct : slots.names.Nodup) : Entries.AreDistinct slots.entries := by
  induction slots with
  | nil => exact List.Pairwise.nil
  | cons first rest ih =>
    obtain ⟨own,w⟩ := first
    obtain ⟨fresh,distinct⟩ := List.nodup_cons.mp distinct
    refine List.pairwise_append.mpr ⟨present_distinct,ih distinct,?_⟩
    intro entry member other others
    obtain ⟨name,named,key⟩ := entry_name others
    rw [present_name member,key,Value.same_text,beq_eq_false_iff_ne]
    rintro ⟨⟩
    exact fresh named

end Slots

section Attributes

def headerSlots (h : Header) (kind : Kind) : Slots :=
  [(nameKey,some (.text h.name)),(descriptionKey,some (.text h.description)),
    (optionalKey,some (.bool h.isOptional)),(defaultKey,h.default?.map Value.stored),
    (typeKey,some (.text kind.name))]

def ownSlots : Field → Slots
  | .string _ minLength maxLength format =>
    [("min_length",minLength.map Value.int),("max_length",maxLength.map Value.int),
      ("format",format.map fun f => .text f.name)]
  | .number _ min max isInteger isPositive =>
    [("min",min.map Quantity.toValue),("max",max.map Quantity.toValue),("is_integer",isInteger.map Value.bool),
      ("is_positive",isPositive.map Value.bool)]
  | .boolean _ => []
  | .date _ min max => [("min",min.map Value.moment),("max",max.map Value.moment)]
  | .array _ minItems maxItems item =>
    [("min_items",minItems.map Value.int),("max_items",maxItems.map Value.int),
      (itemKey,some (.map (attributes item)))]
  | .object _ properties => [(propertiesKey,some (.tuple (attributesOfAll properties)))]
  | .enum _ options => [("options",some (.tuple (options.map Value.text)))]
  | .record _ value => [(valueKey,some (.map (attributes value)))]

def slots (f : Field) : Slots :=
  headerSlots f.header f.kind ++ f.ownSlots

variable {f : Field} {name : String} {v : Option Value}

theorem attributes_slots (f : Field) : f.attributes = f.slots.entries := by
  cases f <;>
    simp [attributes,slots,headerSlots,ownSlots,headerAttributes,Slots.entries,header,kind,present]

theorem slot_names (f : Field) :
    f.slots.names = [nameKey,descriptionKey,optionalKey,defaultKey,typeKey] ++ ownAttributes f.kind := by
  cases f <;> rfl

theorem names_distinct (f : Field) : f.slots.names.Nodup := by
  rw [slot_names]
  cases f.kind <;> decide

theorem attribute_found (slot : (name,v) ∈ f.slots) :
    Entries.field? f.attributes name = v.filter fun v => !v.isNull := by
  rw [attributes_slots]
  exact Slots.found (names_distinct f) slot

theorem attribute_given {v : Value} (slot : (name,some v) ∈ f.slots) (given : v.isNull = false) :
    Entries.field? f.attributes name = some v := by
  simp [attribute_found slot,given]

theorem attributes_distinct (f : Field) : Entries.AreDistinct f.attributes := by
  rw [attributes_slots]
  exact Slots.distinct (names_distinct f)

-- A field is stored under attributes of its kind and no others.
theorem attributes_known (f : Field) : extraProblems f.kind f.attributes = [] := by
  unfold extraProblems
  rw [List.filterMap_eq_nil_iff]
  intro entry member
  rw [attributes_slots] at member
  obtain ⟨name,named,key⟩ := Slots.entry_name member
  obtain ⟨_,v⟩ := entry
  cases key
  rw [slot_names] at named
  exact if_pos (List.contains_iff_mem.mpr named)

-- No attribute has half of a pair in its name.
theorem attributes_whole (f : Field) (reading : Reading Field) : withoutTorn f.attributes reading = reading := by
  refine if_neg ?_
  rw [List.any_eq_true]
  rintro ⟨⟨_,v⟩,member,torn⟩
  rw [attributes_slots] at member
  obtain ⟨name,_,key⟩ := Slots.entry_name member
  cases key
  cases torn

end Attributes

section Rereading

variable {f : Field} {name : String} {attributes : Entries}

theorem nullable_given {α : Type} {read : Value → Reading α} {v : Value} (given : v.isNull = false) :
    Reading.nullable read v = (read v).map some := by
  cases v with
  | null => cases given
  | _ => rfl

-- A constraint that is absent stays absent; one that is there is read from what was written for it.
theorem optional_reread {α : Type} {read : Value → Reading α} {write : α → Value} {x : Option α}
    (slot : (name,x.map write) ∈ f.slots) (given : ∀ a, (write a).isNull = false)
    (rereads : ∀ a, read (write a) = .ok a) : Reading.optional f.attributes name read = .ok x := by
  unfold Reading.optional Reading.orElse
  cases x with
  | none => rw [attribute_found slot]; rfl
  | some a =>
    rw [attribute_given slot (given a)]
    simp only [nullable_given (given a),rereads a]
    rfl

theorem integer_reread (n : Int) : Attribute.integer (.int n) = .ok n :=
  rfl

theorem quantity_reread (q : Quantity) : Attribute.quantity q.toValue = .ok q := by
  cases q <;> rfl

theorem format_reread (f : Format) : Attribute.format (.text f.name) = .ok f := by
  cases f <;> rfl

theorem texts_reread (position : Nat) (options : List Text) :
    Reading.items Attribute.text position (options.map Value.text) = .ok options := by
  induction options generalizing position with
  | nil => rfl
  | cons option rest ih => simp only [List.map_cons,Reading.items,ih]; rfl

theorem kind_reread (kind : Kind) : Kind.ofName? kind.name = some kind := by
  cases kind <;> rfl

theorem header_reread (data : f.HasDataDefault) : readHeader f.attributes = .ok f.header.withoutNull := by
  have named : Entries.field? f.attributes nameKey = some (.text f.header.name) :=
    attribute_given (by simp [slots,headerSlots]) rfl
  have about : Entries.field? f.attributes descriptionKey = some (.text f.header.description) :=
    attribute_given (by simp [slots,headerSlots]) rfl
  have optional : Entries.field? f.attributes optionalKey = some (.bool f.header.isOptional) :=
    attribute_given (by simp [slots,headerSlots]) rfl
  have default_ : Entries.field? f.attributes defaultKey = f.header.default?.filter fun v => !v.isNull := by
    have stored : f.header.default?.map Value.stored = f.header.default? := by
      cases own : f.header.default? with
      | none => rfl
      | some v => exact congrArg some (Value.stored_data v (data v own))
    rw [← stored]
    exact attribute_found (by simp [slots,headerSlots])
  unfold readHeader Reading.required Reading.orElse
  rw [named,about,optional,default_]
  cases kept : f.header.default?.filter fun v => !v.isNull <;>
    simp [Reading.under,Reading.and,Except.map,Except.mapError,Attribute.text,Attribute.truth,
      Header.withoutNull,kept]

theorem tag_reread (f : Field) : tag (.map f.attributes) = .ok f.kind := by
  have typed : Entries.field? f.attributes typeKey = some (.text f.kind.name) :=
    attribute_given (by simp [slots,headerSlots]) rfl
  have found : (Value.map f.attributes).entries?.bind (fun attributes => Entries.field? attributes typeKey) =
      some (.text f.kind.name) := typed
  rw [tag,found]
  simp only [Value.label,kind_reread]

-- The reader goes through the entries itself, since it recurses into them; what it comes to is what a
-- look-up finds.
theorem nestedIn_exact {key : String} {entries : List (Value × Value)} :
    nestedIn key entries = match Entries.field? entries key with
      | some v => readTagged v fun kind => ofAttributes kind v
      | none => Reading.misfit .required := by
  induction entries with
  | nil => rfl
  | cons entry rest ih =>
    obtain ⟨k,v⟩ := entry
    rw [nestedIn,ih]
    cases same : Value.same k (.text key) <;> simp [Entries.field?,Entries.get?,same]

theorem propertiesIn_exact {entries : List (Value × Value)} :
    propertiesIn entries = match Entries.field? entries propertiesKey with
      | some v => propertiesOf v
      | none => .ok [] := by
  induction entries with
  | nil => rfl
  | cons entry rest ih =>
    obtain ⟨k,v⟩ := entry
    rw [propertiesIn,ih]
    cases same : Value.same k (.text propertiesKey) <;> simp [Entries.field?,Entries.get?,same]

theorem tagged_reread (restored : ofAttributes f.kind (.map f.attributes) = .ok f.withoutNulls) :
    readTagged (.map f.attributes) (fun kind => ofAttributes kind (.map f.attributes)) = .ok f.withoutNulls := by
  unfold readTagged
  simp only [tag_reread,restored]
  rfl

theorem integer_slot {x : Option Int} (slot : (name,x.map Value.int) ∈ f.slots) :
    Reading.optional f.attributes name Attribute.integer = .ok x :=
  optional_reread slot (fun _ => rfl) integer_reread

theorem quantity_slot {x : Option Quantity} (slot : (name,x.map Quantity.toValue) ∈ f.slots) :
    Reading.optional f.attributes name Attribute.quantity = .ok x :=
  optional_reread slot (fun q => by cases q <;> rfl) quantity_reread

theorem truth_slot {x : Option Bool} (slot : (name,x.map Value.bool) ∈ f.slots) :
    Reading.optional f.attributes name Attribute.truth = .ok x :=
  optional_reread slot (fun _ => rfl) fun _ => rfl

theorem moment_slot {x : Option Moment} (slot : (name,x.map Value.moment) ∈ f.slots) :
    Reading.optional f.attributes name Attribute.moment = .ok x :=
  optional_reread slot (fun _ => rfl) fun _ => rfl

theorem format_slot {x : Option Format} (slot : (name,x.map fun f => Value.text f.name) ∈ f.slots) :
    Reading.optional f.attributes name Attribute.format = .ok x :=
  optional_reread slot (fun _ => rfl) format_reread

section Kinds

variable {h : Header} {item : Field}

theorem string_reread {minLength maxLength : Option Int} {format : Option Format}
    (own : f = .string h minLength maxLength format) (data : f.HasDataDefault) :
    readString f.attributes = .ok (.string h.withoutNull minLength maxLength format) := by
  have lower : Reading.optional f.attributes "min_length" Attribute.integer = .ok minLength :=
    integer_slot (by simp [own,slots,ownSlots])
  have upper : Reading.optional f.attributes "max_length" Attribute.integer = .ok maxLength :=
    integer_slot (by simp [own,slots,ownSlots])
  have shape : Reading.optional f.attributes "format" Attribute.format = .ok format :=
    format_slot (by simp [own,slots,ownSlots])
  simp only [readString,header_reread data,lower,upper,shape]
  rw [own]
  rfl

theorem number_reread {min max : Option Quantity} {isInteger isPositive : Option Bool}
    (own : f = .number h min max isInteger isPositive) (data : f.HasDataDefault) :
    readNumber f.attributes = .ok (.number h.withoutNull min max isInteger isPositive) := by
  have lower : Reading.optional f.attributes "min" Attribute.quantity = .ok min :=
    quantity_slot (by simp [own,slots,ownSlots])
  have upper : Reading.optional f.attributes "max" Attribute.quantity = .ok max :=
    quantity_slot (by simp [own,slots,ownSlots])
  have integer : Reading.optional f.attributes "is_integer" Attribute.truth = .ok isInteger :=
    truth_slot (by simp [own,slots,ownSlots])
  have positive : Reading.optional f.attributes "is_positive" Attribute.truth = .ok isPositive :=
    truth_slot (by simp [own,slots,ownSlots])
  simp only [readNumber,header_reread data,lower,upper,integer,positive]
  rw [own]
  rfl

theorem date_reread {min max : Option Moment} (own : f = .date h min max) (data : f.HasDataDefault) :
    readDate f.attributes = .ok (.date h.withoutNull min max) := by
  have lower : Reading.optional f.attributes "min" Attribute.moment = .ok min :=
    moment_slot (by simp [own,slots,ownSlots])
  have upper : Reading.optional f.attributes "max" Attribute.moment = .ok max :=
    moment_slot (by simp [own,slots,ownSlots])
  simp only [readDate,header_reread data,lower,upper]
  rw [own]
  rfl

theorem array_reread {minItems maxItems : Option Int} (own : f = .array h minItems maxItems item)
    (data : f.HasDataDefault) (inner : nestedIn itemKey f.attributes = .ok item.withoutNulls) :
    readArray f.attributes (nestedIn itemKey f.attributes) =
      .ok (.array h.withoutNull minItems maxItems item.withoutNulls) := by
  have lower : Reading.optional f.attributes "min_items" Attribute.integer = .ok minItems :=
    integer_slot (by simp [own,slots,ownSlots])
  have upper : Reading.optional f.attributes "max_items" Attribute.integer = .ok maxItems :=
    integer_slot (by simp [own,slots,ownSlots])
  simp only [readArray,header_reread data,lower,upper,inner]
  rw [own]
  rfl

theorem enum_reread {options : List Text} (own : f = .enum h options) (data : f.HasDataDefault) :
    readEnum f.attributes = .ok (.enum h.withoutNull options) := by
  have listed : Entries.field? f.attributes "options" = some (.tuple (options.map Value.text)) :=
    attribute_given (by simp [own,slots,ownSlots]) rfl
  have texts : Attribute.options (.tuple (options.map Value.text)) = .ok options := texts_reread 0 options
  simp only [readEnum,header_reread data,Reading.orElse,listed,texts]
  rw [own]
  rfl

-- A nested field is found under its key and read as its own tag says.
theorem nested_reread {key : String} (slot : (key,some (.map item.attributes)) ∈ f.slots)
    (restored : ofAttributes item.kind (.map item.attributes) = .ok item.withoutNulls) :
    nestedIn key f.attributes = .ok item.withoutNulls := by
  rw [nestedIn_exact,attribute_given slot rfl]
  exact tagged_reread restored

theorem properties_reread {properties : List Field}
    (slot : (propertiesKey,some (.tuple (attributesOfAll properties))) ∈ f.slots)
    (restored : taggedFields 0 (attributesOfAll properties) = .ok (allWithoutNulls properties)) :
    propertiesIn f.attributes = .ok (allWithoutNulls properties) := by
  rw [propertiesIn_exact,attribute_given slot rfl]
  exact restored

end Kinds

mutual

theorem attributes_reread : (f : Field) → f.Everywhere HasDataDefault →
    ofAttributes f.kind (.map f.attributes) = .ok f.withoutNulls
  | .string .., data => by
    unfold ofAttributes
    rw [attributes_whole,attributes_known]
    exact string_reread rfl data
  | .number .., data => by
    unfold ofAttributes
    rw [attributes_whole,attributes_known]
    exact number_reread rfl data
  | .boolean h, data => by
    have head := header_reread data
    unfold ofAttributes
    rw [attributes_whole,attributes_known]
    change (readHeader _).map Field.boolean = _
    rw [head]
    rfl
  | .date .., data => by
    unfold ofAttributes
    rw [attributes_whole,attributes_known]
    exact date_reread rfl data
  | .array h minItems maxItems item, data => by
    have slot : (itemKey,some (.map item.attributes)) ∈ (Field.array h minItems maxItems item).slots := by
      simp [slots,ownSlots]
    have inner := nested_reread slot (attributes_reread item data.2)
    unfold ofAttributes
    rw [attributes_whole,attributes_known]
    exact array_reread rfl data.1 inner
  | .object h properties, data => by
    have head := header_reread data.1
    have inner := properties_reread (f := .object h properties) (by simp [slots,ownSlots])
      (all_reread 0 properties data.2)
    unfold ofAttributes
    rw [attributes_whole,attributes_known]
    change ((readHeader _).and (Reading.under _ (propertiesIn _))).map _ = _
    rw [head,inner]
    rfl
  | .enum .., data => by
    unfold ofAttributes
    rw [attributes_whole,attributes_known]
    exact enum_reread rfl data
  | .record h value, data => by
    have head := header_reread data.1
    have slot : (valueKey,some (.map value.attributes)) ∈ (Field.record h value).slots := by
      simp [slots,ownSlots]
    have inner := nested_reread slot (attributes_reread value data.2)
    unfold ofAttributes
    rw [attributes_whole,attributes_known]
    change ((readHeader _).and (Reading.under _ (nestedIn _ _))).map _ = _
    rw [head,inner]
    rfl

theorem all_reread (position : Nat) : (properties : List Field) → EverywhereIn HasDataDefault properties →
    taggedFields position (attributesOfAll properties) = .ok (allWithoutNulls properties)
  | [], _ => rfl
  | f :: rest, data => by
    have first := tagged_reread (attributes_reread f data.1)
    have others := all_reread (position + 1) rest data.2
    rw [attributesOfAll,taggedFields,first,others]
    rfl

end

end Rereading

-- A type as it is stored is read like one that an author wrote.
theorem type_reread (kind : Kind) : Kind.read? (.text kind.name) = some kind := by
  cases kind <;> cbv

theorem stored_reread (f : Field) (data : f.Everywhere HasDataDefault) :
    ofStored (.map f.attributes) = .ok f.withoutNulls := by
  have typed : Entries.field f.attributes typeKey = .text f.kind.name :=
    Entries.field_found (attribute_given (by simp [slots,headerSlots]) rfl)
  unfold ofStored
  simp only [typed,type_reread,attributes_reread f data]
  rfl

end Field

namespace Schema

-- A stored field has a name of its own, so its key does not become one.
theorem named_reread (key : Value) (f : Field) : named key f.attributes = f.attributes := by
  have distinct := Field.attributes_distinct f
  obtain ⟨rest,own⟩ : ∃ rest, f.attributes = (.text Field.nameKey,.text f.name) :: rest := by
    cases f <;> exact ⟨_,rfl⟩
  rw [own] at distinct ⊢
  have replaced : Entries.insert [(.text Field.nameKey,key)] (.text Field.nameKey) (.text f.name) =
      [(.text Field.nameKey,.text f.name)] := by
    rw [Entries.insert,if_pos (by simp [Value.same_text])]
  rw [named,List.foldl_cons,replaced]
  exact Entries.insert_all distinct

theorem entries_reread (schema : Schema)
    (data : Field.EverywhereIn Field.HasDataDefault (schema.map Prod.snd)) :
    ofStoredEntries schema.attributes = .ok (schema.map fun (key,f) => (key,f.withoutNulls)) := by
  induction schema with
  | nil => rfl
  | cons entry rest ih =>
    obtain ⟨key,f⟩ := entry
    have others := ih data.2
    rw [Schema.attributes] at others ⊢
    simp only [List.map_cons,ofStoredEntries,named_reread,Field.stored_reread f data.1,others]
    rfl

theorem schema_restored {declared : Value} {schema : Schema} (data : declared.IsData)
    (normalized : (Normal.schema declared).outcome = .ok schema) :
    ofStored (.map schema.attributes) = .ok (schema.map fun (key,f) => (key,f.withoutNulls)) := by
  have defaults := Normal.everywhere_schema (fun _ _ _ => Normal.data_default)
    (Declaration.data_throughout data) normalized
  exact entries_reread schema defaults

-- Orders of labelled lines. The label is null unless it is given, and one piece is meant where no
-- count is.
def orderSchema : Value :=
  .map [(.text "fields",.map [
    (.text "lines",.map [(.text "type",.text "array"),(.text "minItems",.int 1),(.text "items",
      .map [(.text "type",.text "object"),(.text "properties",.map [
        (.text "label",.map [(.text "type",.text "string"),(.text "optional",.bool true),
          (.text "default",.null)]),
        (.text "count",.map [(.text "type",.text "number"),(.text "min",.int 1),
          (.text "default",.int 1)])])])])])]

def orderFields : Schema :=
  [(.text "lines",.array ⟨"lines","",false,none⟩ (some 1) none (.object ⟨"linesItem","",false,none⟩ [
    .string ⟨"label","",true,some .null⟩ none none none,
    .number ⟨"count","",false,some (.int 1)⟩ (some (.int 1)) none none none]))]

theorem order_data : orderSchema.IsData := by
  simp [orderSchema,Value.IsData,Value.EntriesAreData]

theorem order_normalized : (Normal.schema orderSchema).outcome = .ok orderFields := by
  cbv

theorem order_restored : ofStored (.map orderFields.attributes) = .ok
    [(.text "lines",.array ⟨"lines","",false,none⟩ (some 1) none (.object ⟨"linesItem","",false,none⟩ [
      .string ⟨"label","",true,none⟩ none none none,
      .number ⟨"count","",false,some (.int 1)⟩ (some (.int 1)) none none none]))] :=
  schema_restored order_data order_normalized

end Schema

end TemplateSchema
