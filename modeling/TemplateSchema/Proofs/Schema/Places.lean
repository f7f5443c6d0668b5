import TemplateSchema.Proofs.Document.Coercion
import TemplateSchema.Proofs.Document.Initial
import TemplateSchema.Proofs.Schema.Names
/-!
The places of a schema. A declaration holds others inside it, and its field holds a field at each of these
places and at no other; the way to a place gives what stands there its name, and what is declared at the
place says what it is made of.
-/
set_option autoImplicit false
namespace TemplateSchema

-- A step to what stands inside a declaration, or inside a field.
inductive Descent where
  | item
  | value
  | property (name : Text)
  deriving DecidableEq

namespace Descent

def property? : Descent → Option Text
  | .property name => some name
  | _ => none

def suffix : Descent → String
  | .item => "Item"
  | .value => "Value"
  | .property _ => ""

-- The last property on a way, or else the name where the way begins, and a suffix for each step behind.
def nameAt (start : Text) (way : List Descent) : Text :=
  let behind := (way.reverse.takeWhile fun step => step.property?.isNone).reverse
  behind.foldl (fun name step => name ++ step.suffix) ((way.reverse.findSome? property?).getD start)

-- The name of what is one step inside something of a name.
def inside (name : Text) : Descent → Text
  | .item => name ++ "Item"
  | .value => name ++ "Value"
  | .property own => own

theorem nameAt_further (start : Text) (way : List Descent) (step : Descent) :
    nameAt start (way ++ [step]) = inside (nameAt start way) step := by
  cases step <;> simp [nameAt,inside,property?,suffix,List.findSome?_cons]

example : nameAt "grid" [.item,.property "cells",.item,.value] = "cellsItemValue" := by
  decide

section Ways

variable {α β : Type} {Inner : Descent → α → α → Prop} {Outer : Descent → β → β → Prop}

-- What stands at the end of a way.
inductive Reaches (Inner : Descent → α → α → Prop) (start : α) : List Descent → α → Prop where
  | here : Reaches Inner start [] start
  | further {way : List Descent} {step : Descent} {a b : α} (reached : Reaches Inner start way a)
      (inner : Inner step a b) : Reaches Inner start (way ++ [step]) b

-- What matches at every step matches at the end of every way.
theorem reaches_matched {R : List Descent → α → β → Prop} {a b : α} {c : β} {way : List Descent}
    (further : ∀ {way step a b c}, R way a c → Inner step a b → ∃ d, Outer step c d ∧ R (way ++ [step]) b d)
    (here : R [] a c) (reached : Reaches Inner a way b) : ∃ d, Reaches Outer c way d ∧ R way b d := by
  induction reached with
  | here => exact ⟨c,.here,here⟩
  | further _ inner ih =>
    obtain ⟨d,reached,matched⟩ := ih
    obtain ⟨next,inner,matched⟩ := further matched inner
    exact ⟨next,.further reached inner,matched⟩

end Ways

end Descent

namespace Declaration

-- The kind that the type of a declaration names, if it has a type that names one.
def kind? (keys : Entries) : Option Kind :=
  (Entries.field? keys typeKey).bind Kind.read?

-- The declarations inside one, as they are written.
inductive Inner : Descent → Value → Value → Prop where
  | item {keys : Entries} {v : Value} (typed : kind? keys = some .array)
      (items : Entries.field? keys itemsKey = some v) : Inner .item (.map keys) v
  | value {keys : Entries} {v : Value} (typed : kind? keys = some .record)
      (values : Entries.field? keys valuesKey = some v) : Inner .value (.map keys) v
  | property {keys entries : Entries} {name : Text} {v : Value} (typed : kind? keys = some .object)
      (declared : Entries.field? keys propertiesKey = some (.map entries)) (member : (.text name,v) ∈ entries) :
      Inner (.property name) (.map keys) v

section Reading

variable {keys : Entries} {P : Declaration → Prop} {step : Descent} {v w : Value}

theorem kind_read (keys : Entries) : Kind.read? (Entries.field keys typeKey) = kind? keys := by
  cases found : Entries.field? keys typeKey with
  | none =>
    rw [Entries.field_missing found,kind?,found]
    decide
  | some v =>
    rw [Entries.field_found found,kind?,found,Option.bind_some]

theorem propertiesIn_found {properties : List (Value × Declaration)} (read : propertiesIn keys = .ok properties) :
    ∃ entries, Entries.field? keys propertiesKey = some (.map entries) ∧ properties = members entries := by
  rw [propertiesIn_exact] at read
  cases found : Entries.field? keys propertiesKey with
  | none =>
    rw [found] at read
    cases read
  | some v =>
    rw [found] at read
    cases v <;> cases read
    exact ⟨_,rfl,rfl⟩

-- What holds of every declaration, from one on, holds from each one inside it on.
theorem Inner.everywhere (inner : Inner step v w) (everywhere : (ofValue v).Everywhere P) :
    (ofValue w).Everywhere P := by
  cases inner with
  | item typed items =>
    rw [ofValue,kind_read,typed] at everywhere
    have nested := everywhere.2
    rwa [nested_exact,items] at nested
  | value typed values =>
    rw [ofValue,kind_read,typed] at everywhere
    have nested := everywhere.2
    rwa [nested_exact,values] at nested
  | property typed declared member =>
    rw [ofValue,kind_read,typed,propertiesIn_exact,declared] at everywhere
    have nested := everywhereIn_exact.mp everywhere.2
    rw [members_map] at nested
    exact nested _ (List.mem_map_of_mem member)

end Reading

end Declaration

-- The fields inside one.
inductive Field.Inner : Descent → Field → Field → Prop where
  | item {h : Header} {lo hi : Option Int} {item : Field} : Inner .item (.array h lo hi item) item
  | value {h : Header} {value : Field} : Inner .value (.record h value) value
  | property {h : Header} {properties : List Field} {p : Field} (member : p ∈ properties) :
      Inner (.property p.name) (.object h properties) p

namespace Normal

open Declaration (kind? ofValue dateBound itemsKey valuesKey propertiesKey)
open Descent (Reaches nameAt)

-- A field of a name, by what its declaration holds.
inductive Formed (name : Text) (keys : Entries) : Field → Prop where
  | untyped {h : Header} (unknown : kind? keys = none) : Formed name keys (.string h none none none)
  | string {h : Header} {lo hi : Option Int} {format : Option Format} (typed : kind? keys = some .string)
      (chosen : ∀ f, format = some f → Entries.field? keys "format" = some (.text f.name)) :
      Formed name keys (.string h lo hi format)
  | number {h : Header} {lo hi : Option Quantity} {isInteger isPositive : Option Bool}
      (typed : kind? keys = some .number) : Formed name keys (.number h lo hi isInteger isPositive)
  | boolean {h : Header} (typed : kind? keys = some .boolean) : Formed name keys (.boolean h)
  | date {h : Header} {lo hi : Option Moment} (typed : kind? keys = some .date)
      (lower : ∀ m, lo = some m → m.isAware = true) (upper : ∀ m, hi = some m → m.isAware = true) :
      Formed name keys (.date h lo hi)
  | array {h : Header} {lo hi : Option Int} {v : Value} {item : Field} (typed : kind? keys = some .array)
      (items : Entries.field? keys itemsKey = some v)
      (nested : (field (.text (name ++ "Item")) (ofValue v)).outcome = .ok item) :
      Formed name keys (.array h lo hi item)
  -- The properties have the names that they are declared by, in that order.
  | object {h : Header} {entries : Entries} {properties : List Field} (typed : kind? keys = some .object)
      (declared : Entries.field? keys propertiesKey = some (.map entries))
      (named : entries.map Prod.fst = properties.map fun p => .text p.name)
      (distinct : (properties.map Field.name).Nodup)
      (nested : List.Forall₂ (fun entry p => (field entry.1 (ofValue entry.2)).outcome = .ok p) entries properties) :
      Formed name keys (.object h properties)
  | enum {h : Header} {options : List Text} (typed : kind? keys = some .enum) : Formed name keys (.enum h options)
  | record {h : Header} {v : Value} {value : Field} (typed : kind? keys = some .record)
      (values : Entries.field? keys valuesKey = some v)
      (nested : (field (.text (name ++ "Value")) (ofValue v)).outcome = .ok value) : Formed name keys (.record h value)

section Forming

variable {name : Text} {keys : Entries} {key : Value} {g : Field}

theorem nested_formed {own : String} (read : (field key (Declaration.nested own keys)).outcome = .ok g) :
    ∃ v, Entries.field? keys own = some v ∧ (field key (ofValue v)).outcome = .ok g := by
  rw [Declaration.nested_exact] at read
  cases found : Entries.field? keys own with
  | none =>
    rw [found] at read
    cases read
  | some v =>
    rw [found] at read
    exact ⟨v,rfl,read⟩

theorem fieldsOf_members {entries : Entries} {fields : List Field} :
    (fieldsOf (Declaration.members entries)).outcome = .ok fields ↔
      List.Forall₂ (fun entry f => (field entry.1 (ofValue entry.2)).outcome = .ok f) entries fields := by
  induction entries generalizing fields with
  | nil =>
    rw [List.forall₂_nil_left_iff]
    constructor
    · intro read
      cases read
      rfl
    · rintro rfl
      rfl
  | cons entry rest ih =>
    rw [Declaration.members,fieldsOf_cons,List.forall₂_cons_left_iff]
    simp only [ih]

theorem dateBound_aware {own : String} {found : Option Moment} (read : dateBound keys own = .ok found) :
    ∀ m, found = some m → m.isAware = true := by
  rintro m rfl
  unfold dateBound at read
  split at read
  · cases read
  · obtain ⟨_,denotes,same⟩ := Success.map_exact.mp read
    cases same
    exact Value.toMoment_aware denotes

theorem format_chosen {f : Format} (named : formatNamed? (Entries.field keys "format") = some f) :
    Entries.field? keys "format" = some (.text f.name) := by
  cases found : Entries.field? keys "format" with
  | none =>
    rw [Entries.field_missing found] at named
    cases named
  | some v =>
    rw [Entries.field_found found] at named
    cases v with
    | text s =>
      cases s with
      | whole s =>
        have same : f.name = s := by simpa using List.find?_some named
        rw [same]
      | torn => cases named
    | _ => cases named

-- One step of normalizing makes a field by what the declaration holds.
theorem field_formed {v : Value} (same : v = .map keys) (distinct : (ofValue v).HasDistinctNames)
    (read : (field (.text name) (ofValue v)).outcome = .ok g) : Formed name keys g := by
  have distinct_ := distinct_field distinct read
  rw [same,ofValue,Declaration.kind_read] at read distinct
  cases typed : kind? keys with
  | none =>
    rw [typed] at read
    cases field_exact read with
    | unknown head => exact .untyped typed
  | some kind =>
    rw [typed] at read distinct
    cases kind with
    | string =>
      cases field_exact read with
      | string head lower upper => exact .string typed fun _ => format_chosen
    | number =>
      cases field_exact read with
      | number head lower upper integer positive => exact .number typed
    | boolean =>
      cases field_exact read with
      | boolean head => exact .boolean typed
    | date =>
      cases field_exact read with
      | date head lower upper => exact .date typed (dateBound_aware lower) (dateBound_aware upper)
    | array =>
      cases field_exact read with
      | array head lower upper nested =>
        obtain ⟨v,items,nested⟩ := nested_formed nested
        exact .array typed items nested
    | object =>
      cases declared : Declaration.propertiesIn keys with
      | error gap =>
        simp only [declared,Declaration.ofProperties] at read
        cases read
      | ok properties =>
        simp only [declared,Declaration.ofProperties] at read distinct
        obtain ⟨entries,found,rfl⟩ := Declaration.propertiesIn_found declared
        cases field_exact read with
        | object head nested =>
          have named := fields_named distinct.1 nested
          rw [Declaration.members_map,List.map_map] at named
          exact .object typed found named distinct_ (fieldsOf_members.mp nested)
    | enum =>
      cases field_exact read with
      | enum head listed texts => exact .enum typed
    | record =>
      cases field_exact read with
      | record head nested =>
        obtain ⟨v,values,nested⟩ := nested_formed nested
        exact .record typed values nested

end Forming

section Places

variable {name : Text} {v w : Value} {f g p : Field} {step : Descent} {way : List Descent}

theorem Formed.typed {keys : Entries} {kind : Kind} (formed : Formed name keys g) (typed : kind? keys = some kind) :
    g.kind = kind := by
  cases formed with
  | untyped unknown =>
    rw [unknown] at typed
    cases typed
  | _ known => exact Option.some.inj (known.symm.trans typed)

-- A property is declared under its name.
theorem property_entry {entries : Entries} {properties : List Field}
    (named : entries.map Prod.fst = properties.map fun p => .text p.name)
    (nested : List.Forall₂ (fun entry p => (field entry.1 (ofValue entry.2)).outcome = .ok p) entries properties)
    (member : p ∈ properties) :
    ∃ w, (.text p.name,w) ∈ entries ∧ (field (.text p.name) (ofValue w)).outcome = .ok p := by
  obtain ⟨⟨key,w⟩,isEntry,read⟩ := Success.row_made nested.flip member
  have isKey : key ∈ entries.map Prod.fst := List.mem_map_of_mem isEntry
  rw [named] at isKey
  obtain ⟨q,_,rfl⟩ := List.mem_map.mp isKey
  have same : q.name = p.name := Except.ok.inj (field_header read).1
  rw [same] at isEntry read
  exact ⟨w,isEntry,read⟩

-- Where a field has another inside, its declaration has the declaration for that one.
theorem formed_declared {keys : Entries} (formed : Formed name keys g) (inner : Field.Inner step g p) :
    ∃ w, Declaration.Inner step (.map keys) w ∧ (field (.text (Descent.inside name step)) (ofValue w)).outcome = .ok p := by
  cases inner with
  | item =>
    cases formed with
    | array typed items nested => exact ⟨_,.item typed items,nested⟩
  | value =>
    cases formed with
    | record typed values nested => exact ⟨_,.value typed values,nested⟩
  | property member =>
    cases formed with
    | object typed declared named distinct nested =>
      obtain ⟨w,isEntry,read⟩ := property_entry named nested member
      exact ⟨w,.property typed declared isEntry,read⟩

-- Where a declaration has another inside, its field has the field for that one.
theorem formed_normalized {keys : Entries} (formed : Formed name keys g) (inner : Declaration.Inner step (.map keys) w) :
    ∃ p, Field.Inner step g p ∧ (field (.text (Descent.inside name step)) (ofValue w)).outcome = .ok p := by
  cases inner with
  | item typed items =>
    have isArray := formed.typed typed
    cases formed with
    | array _ found nested =>
      cases items.symm.trans found
      exact ⟨_,.item,nested⟩
    | _ => cases isArray
  | value typed values =>
    have isRecord := formed.typed typed
    cases formed with
    | record _ found nested =>
      cases values.symm.trans found
      exact ⟨_,.value,nested⟩
    | _ => cases isRecord
  | property typed declared member =>
    have isObject := formed.typed typed
    cases formed with
    | object _ found _ _ nested =>
      cases declared.symm.trans found
      obtain ⟨p,isProperty,read⟩ := Success.row_made nested member
      have named := Except.ok.inj (field_header read).1
      refine ⟨p,?_,read⟩
      rw [named]
      exact .property isProperty
    | _ => cases isObject

-- A field of a name stands where a declaration does, if it is what the declaration is normalized to.
structure Stands (name : Text) (v : Value) (g : Field) : Prop where
  normalized : (field (.text name) (ofValue v)).outcome = .ok g
  distinct : (ofValue v).Everywhere Declaration.HasDistinctNames

theorem stands_formed (stands : Stands name v g) : ∃ keys, v = .map keys ∧ g.name = name ∧ Formed name keys g := by
  obtain ⟨normalized,distinct⟩ := stands
  have named : name = g.name := Except.ok.inj (field_header normalized).1
  have isMap : ∃ keys, v = .map keys := by
    cases v with
    | map keys => exact ⟨keys,rfl⟩
    | _ => cases normalized
  obtain ⟨keys,same⟩ := isMap
  exact ⟨keys,same,named.symm,field_formed same distinct.here normalized⟩

theorem field_inner (stands : Stands name v g) (inner : Field.Inner step g p) :
    ∃ w, Declaration.Inner step v w ∧ Stands (Descent.inside name step) w p := by
  obtain ⟨keys,same,_,formed⟩ := stands_formed stands
  obtain ⟨w,declared,read⟩ := formed_declared formed inner
  rw [← same] at declared
  exact ⟨w,declared,read,declared.everywhere stands.distinct⟩

theorem declaration_inner (stands : Stands name v g) (inner : Declaration.Inner step v w) :
    ∃ p, Field.Inner step g p ∧ Stands (Descent.inside name step) w p := by
  obtain ⟨keys,same,_,formed⟩ := stands_formed stands
  have everywhere := inner.everywhere stands.distinct
  rw [same] at inner
  obtain ⟨p,normalized,read⟩ := formed_normalized formed inner
  exact ⟨p,normalized,read,everywhere⟩

-- A place: the way to it from a start, the declaration there, and the field.
def IsPlace (start : Text) (way : List Descent) (w : Value) (g : Field) : Prop :=
  ∃ keys, w = .map keys ∧ g.name = nameAt start way ∧ Formed (nameAt start way) keys g

-- The fields from one on are at the places of the declarations from one on.
structure IsTree (start : Text) (v : Value) (f : Field) : Prop where
  declared : ∀ way g, Reaches Field.Inner f way g → ∃ w, Reaches Declaration.Inner v way w ∧ IsPlace start way w g
  normalized : ∀ way w, Reaches Declaration.Inner v way w → ∃ g, Reaches Field.Inner f way g ∧ IsPlace start way w g

theorem stands_tree (stands : Stands name v f) : IsTree name v f := by
  have here : Stands (nameAt name []) v f := stands
  constructor
  · have further {way : List Descent} {step : Descent} {a b : Field} {c : Value} (stands : Stands (nameAt name way) c a)
        (inner : Field.Inner step a b) :
        ∃ d, Declaration.Inner step c d ∧ Stands (nameAt name (way ++ [step])) d b := by
      rw [Descent.nameAt_further]
      exact field_inner stands inner
    intro way g reached
    obtain ⟨w,matched,stands⟩ :=
      Descent.reaches_matched (R := fun way g w => Stands (nameAt name way) w g) further here reached
    exact ⟨w,matched,stands_formed stands⟩
  · have further {way : List Descent} {step : Descent} {a b : Value} {c : Field} (stands : Stands (nameAt name way) a c)
        (inner : Declaration.Inner step a b) :
        ∃ d, Field.Inner step c d ∧ Stands (nameAt name (way ++ [step])) b d := by
      rw [Descent.nameAt_further]
      exact declaration_inner stands inner
    intro way w reached
    obtain ⟨g,matched,stands⟩ :=
      Descent.reaches_matched (R := fun way w g => Stands (nameAt name way) w g) further here reached
    exact ⟨g,matched,stands_formed stands⟩

end Places

section Schemas

variable {declared : Value} {schema : Schema}

-- A row of a schema, for an entry that declares it: they have one name, and their trees have the same places.
def IsRow (entry : Value × Value) (row : Value × Field) : Prop :=
  ∃ name, entry.1 = .text name ∧ row.1 = .text name ∧ IsTree name entry.2 row.2

theorem schemaOf_rows {entries : Entries}
    (texts : ∀ property ∈ Declaration.members entries, ∃ name, property.1 = .text name)
    (distinct : Declaration.EverywhereIn Declaration.HasDistinctNames (Declaration.members entries))
    (read : (schemaOf (Declaration.members entries)).outcome = .ok schema) : List.Forall₂ IsRow entries schema := by
  induction entries generalizing schema with
  | nil =>
    cases read
    exact .nil
  | cons entry rest ih =>
    obtain ⟨key,v⟩ := entry
    rw [Declaration.members] at texts distinct read
    obtain ⟨f,rows,first,others,rfl⟩ := schemaOf_cons.mp read
    obtain ⟨⟨name,named⟩,behind⟩ := List.forall_mem_cons.mp texts
    obtain rfl : key = .text name := named
    exact .cons ⟨name,rfl,rfl,stands_tree ⟨first,distinct.1⟩⟩ (ih behind distinct.2 others)

-- What a schema is normalized to is a row for each entry, in that order; at every depth its fields are at
-- the places of the declarations, named by the way to them and made of what is declared there.
theorem schema_wellFormed (named : Declaration.AreNamed declared)
    (distinct : Declaration.Throughout Declaration.HasDistinctNames declared)
    (normalized : (Normal.schema declared).outcome = .ok schema) :
    ∃ entries fields, declared = .map entries ∧ Entries.field? entries Declaration.fieldsKey = some (.map fields) ∧
      List.Forall₂ IsRow fields schema := by
  obtain ⟨properties,read,rows⟩ := schema_exact.mp normalized
  have texts := (named properties read).1
  have everywhere := distinct properties read
  obtain ⟨entries,fields,same,found,rfl⟩ := Declaration.declarations_exact.mp read
  exact ⟨entries,fields,same,found,schemaOf_rows texts everywhere rows⟩

end Schemas

section Boards

def cellKeys : Entries :=
  [(.text "type",.text "date"),(.text "min",.date ⟨2028,10,11,by decide⟩)]

def cellsKeys : Entries :=
  [(.text "type",.text " Array "),(.text "items",.map cellKeys)]

def boardProperties : Entries :=
  [(.text "cells",.map cellsKeys),(.text "title",.map [(.text "type",.text "memo")])]

def boardKeys : Entries :=
  [(.text "type",.text "object"),(.text "properties",.map boardProperties)]

def boardsKeys : Entries :=
  [(.text "type",.text "record"),(.text "values",.map boardKeys)]

-- Boards by name: dated cells, and a title of a type that there is not.
def boardsSchema : Value :=
  .map [(.text "fields",.map [(.text "boards",.map boardsKeys)])]

def cellField : Field :=
  .date ⟨"cellsItem","",false,none⟩ (some (Moment.midnight ⟨2028,10,11,by decide⟩ (some Offset.universal))) none

def boardsField : Field :=
  .record ⟨"boards","",false,none⟩ (.object ⟨"boardsValue","",false,none⟩
    [.array ⟨"cells","",false,none⟩ none none cellField,.string ⟨"title","",false,none⟩ none none none])

theorem boards_declared : declarations boardsSchema = .ok [(.text "boards",.record boardsKeys
    (.object boardKeys [(.text "cells",.array cellsKeys (.date cellKeys)),
      (.text "title",.unknown [(.text "type",.text "memo")])]))] := by
  cbv

theorem boards_normalized : (schema boardsSchema).outcome = .ok [(.text "boards",boardsField)] := by
  cbv

theorem boards_named : Declaration.AreNamed boardsSchema := by
  intro properties read
  cases boards_declared.symm.trans read
  simp

theorem boards_distinct : Declaration.Throughout Declaration.HasDistinctNames boardsSchema := by
  rw [Declaration.throughout_exact boards_declared]
  simp [Declaration.EverywhereIn,Declaration.Everywhere,Declaration.HasDistinctNames,Value.same_text]

def cellWay : List Descent :=
  [.value,.property "cells",.item]

theorem cells_reached : Reaches Declaration.Inner (.map boardsKeys) cellWay (.map cellKeys) := by
  have board : Declaration.Inner .value (.map boardsKeys) (.map boardKeys) :=
    .value (by decide +kernel) (by simp [boardsKeys,valuesKey,Entries.field_cons])
  have declared : Entries.field? boardKeys propertiesKey = some (.map boardProperties) := by
    simp [boardKeys,propertiesKey,Entries.field_cons]
  have cells : Declaration.Inner (.property "cells") (.map boardKeys) (.map cellsKeys) :=
    .property (by decide +kernel) declared List.mem_cons_self
  have cell : Declaration.Inner .item (.map cellsKeys) (.map cellKeys) :=
    .item (by decide +kernel) (by simp [cellsKeys,itemsKey,Entries.field_cons])
  exact ((Reaches.here.further board).further cells).further cell

-- The cells are named for the property that they are the items of.
theorem boards_wellFormed : Declaration.AreNamed boardsSchema ∧
    Declaration.Throughout Declaration.HasDistinctNames boardsSchema ∧
    (schema boardsSchema).outcome = .ok [(.text "boards",boardsField)] ∧
    ∃ g, Reaches Field.Inner boardsField cellWay g ∧ g.name = "cellsItem" ∧ Formed "cellsItem" cellKeys g := by
  refine ⟨boards_named,boards_distinct,boards_normalized,?_⟩
  obtain ⟨entries,fields,same,found,rows⟩ := schema_wellFormed boards_named boards_distinct boards_normalized
  cases same
  have found_ : Entries.field? [(.text "fields",.map [(.text "boards",.map boardsKeys)])] Declaration.fieldsKey =
      some (.map [(.text "boards",.map boardsKeys)]) := Entries.field_cons "fields"
  cases found_.symm.trans found
  obtain ⟨⟨name,_,named,tree⟩,_⟩ := List.forall₂_cons.mp rows
  cases named
  obtain ⟨g,reached,keys,isCell,own,formed⟩ := tree.normalized cellWay _ cells_reached
  cases isCell
  have name : nameAt "boards" cellWay = "cellsItem" := by decide
  rw [name] at own formed
  exact ⟨g,reached,own,formed⟩

end Boards

end Normal

end TemplateSchema
