import TemplateSchema.Proofs.Document.Conformance
import TemplateSchema.Proofs.Document.Initial
import TemplateSchema.Proofs.Schema.Names
import TemplateSchema.Proofs.Value.Proper
/-!
Reading the dates of a document that has what it should. Nothing but moments stands where its dates
are, so reading them only gives universal time to those without an offset, and no judge minds that.
-/
set_option autoImplicit false
namespace TemplateSchema.Document

variable {f g p : Field} {v w key : Value} {properties : List Field} {entries : Entries}

-- The same value but for moments, some of which have been given universal time.
inductive Settles : Value → Value → Prop where
  | same (v : Value) : Settles v v
  | moment (m : Moment) : Settles (.moment m) (.moment m.inUniversal)
  | list {items : List Value} {change : Value → Value} (each : ∀ x ∈ items, Settles x (change x)) :
      Settles (.list items) (.list (items.map change))
  | map {entries : Entries} {change : Value × Value → Value}
      (each : ∀ entry ∈ entries, Settles entry.2 (change entry)) :
      Settles (.map entries) (.map (entries.map fun entry => (entry.1,change entry)))

section Judging

theorem Settles.empty (settles : Settles v w) : isEmpty w = isEmpty v := by
  cases settles <;> rfl

theorem Settles.fitting (settles : Settles v w) (kept : Conforms g v → Conforms g w) (fits : Fits g v) :
    Fits g w := by
  rw [fits_exact] at fits ⊢
  rcases fits with ⟨optional,empty⟩ | conforms
  · exact .inl ⟨optional,settles.empty.trans empty⟩
  · exact .inr (kept conforms)

-- A judge asks of a moment that it is one, and no more.
theorem Settles.conforms (settles : Settles v w) : ∀ {g : Field}, Conforms g v → Conforms g w := by
  induction settles with
  | same v => exact id
  | moment m =>
    intro g conforms
    cases g <;> exact conforms
  | @list items change each ih =>
    intro g conforms
    cases g with
    | array h lo hi item =>
      simp only [conforms_array,Value.list.injEq,exists_eq_left',List.length_map,List.forall_mem_map] at conforms ⊢
      obtain ⟨least,most,sound⟩ := conforms
      refine ⟨least,most,?_⟩
      intro x member
      exact ih x member (sound x member)
    | _ => exact conforms
  | @map entries change each ih =>
    intro g conforms
    cases g with
    | object h properties =>
      simp only [conforms_object,Value.map.injEq,exists_eq_left'] at conforms ⊢
      intro p member
      have fits := conforms p member
      unfold Entries.field Entries.getOrNull at fits ⊢
      rw [Entries.get_rows]
      unfold Entries.get? at fits
      cases found : entries.find? fun entry => Value.same entry.1 (.text p.name) with
      | none => rwa [found] at fits
      | some entry =>
        rw [found] at fits
        have inside := List.mem_of_find?_eq_some found
        exact (each entry inside).fitting (ih entry inside) fits
    | record h inner =>
      simp only [conforms_record,Value.map.injEq,exists_eq_left',List.forall_mem_map] at conforms ⊢
      intro entry member
      exact ih entry member (conforms entry member)
    | _ => exact conforms

theorem Settles.fits (settles : Settles v w) (fits : Fits g v) : Fits g w :=
  settles.fitting settles.conforms fits

end Judging

section Reading

theorem coerce_empty (f : Field) (empty : isEmpty v = true) : coerce f v = v := by
  cases v with
  | null => cases f <;> rfl
  | text s =>
    obtain rfl : s = "" := (Text.isEmpty_exact s).mp empty
    cases f with
    | date => exact Value.asMoment_other (by decide)
    | _ => rfl
  | _ => cases empty

-- A property is read by the last field of its name; what has another name is left alone.
theorem coerceProperty_cases (key v : Value) (properties : List Field) :
    coerceProperty key v properties = v ∨
      ∃ p ∈ properties, key = .text p.name ∧ coerceProperty key v properties = coerce p v := by
  induction properties with
  | nil => exact .inl rfl
  | cons p rest ih =>
    rw [coerceProperty]
    split
    · rename_i last
      simp only [Bool.and_eq_true] at last
      exact .inr ⟨p,List.mem_cons_self,Value.same_name.mp last.1,rfl⟩
    · rcases ih with same | ⟨q,member,named,read⟩
      · exact .inl same
      · exact .inr ⟨q,List.mem_cons_of_mem _ member,named,read⟩

theorem fitting_settles (conforming : Conforms f v → Settles v (coerce f v)) (fits : Fits f v) :
    Settles v (coerce f v) := by
  rcases fits_exact.mp fits with ⟨_,empty⟩ | conforms
  · rw [coerce_empty f empty]
    exact .same v
  · exact conforming conforms

mutual

theorem coerce_settles : (f : Field) → ∀ {v : Value}, v.IsProper → Conforms f v → Settles v (coerce f v)
  | .date .., _, _, conforms => by
    obtain ⟨m,rfl⟩ := conforms_date.mp conforms
    exact .moment m
  | .array _ _ _ item, _, proper, conforms => by
    obtain ⟨items,rfl,_,_,each⟩ := conforms_array.mp conforms
    apply Settles.list
    intro x member
    exact coerce_settles item (Value.areProper_exact.mp proper x member) (each x member)
  | .record _ inner, _, proper, conforms => by
    obtain ⟨entries,rfl,each⟩ := conforms_record.mp conforms
    apply Settles.map
    intro entry member
    exact coerce_settles inner (Value.entriesAreProper_exact.mp proper.2 entry member) (each entry member)
  | .object _ properties, _, proper, conforms => by
    obtain ⟨entries,rfl,each⟩ := conforms_object.mp conforms
    apply Settles.map
    rintro ⟨key,x⟩ member
    rcases coerceProperty_cases key x properties with same | ⟨p,property,rfl,read⟩
    · rw [same]
      exact .same x
    · -- The entry is the one that the judge has looked at.
      have fits := each p property
      rw [Entries.field_found (Entries.entry_found proper.1 member)] at fits
      rw [read]
      exact coerced_settle properties p property (Value.entriesAreProper_exact.mp proper.2 _ member) fits
  | .string .., v, _, _ => .same v
  | .number .., v, _, _ => .same v
  | .boolean _, v, _, _ => .same v
  | .enum .., v, _, _ => .same v

theorem coerced_settle : (properties : List Field) → ∀ p ∈ properties, ∀ {v : Value}, v.IsProper → Fits p v →
    Settles v (coerce p v)
  | [] => by simp
  | p :: rest =>
    List.forall_mem_cons.mpr ⟨fun proper => fitting_settles (coerce_settles p proper),coerced_settle rest⟩

end

end Reading

section Documents

variable {schema : Schema}

-- What becomes of an entry of a document.
def coerceEntry (schema : Schema) (entry : Value × Value) : Value :=
  match schema.get? entry.1 with
  | some f => coerce f entry.2
  | none => entry.2

def coerced (schema : Schema) (entries : Entries) : Entries :=
  entries.map fun entry => (entry.1,coerceEntry schema entry)

theorem coerceDates_map (schema : Schema) (entries : Entries) :
    coerceDates schema (.map entries) = .ok (.map (coerced schema entries)) := by
  simp only [coerceDates,coerced,coerceEntry]
  congr 2
  apply List.map_congr_left
  rintro ⟨key,v⟩ _
  cases schema.get? key <;> rfl

-- By the field that an entry is read for: it is one of those under its key, and all of them fit.
theorem coerceEntry_settles {entry : Value × Value} (names : schema.HasNames) (proper : entry.2.IsProper)
    (fits : ∀ f, (entry.1,f) ∈ schema → Fits f entry.2) : Settles entry.2 (coerceEntry schema entry) := by
  unfold coerceEntry
  cases known : schema.get? entry.1 with
  | none => exact .same entry.2
  | some f => exact fitting_settles (coerce_settles f proper) (fits f (row_found names known))

theorem coerced_fits {g : Field} (names : schema.HasNames) (proper : (Value.map entries).IsProper)
    (row : (key,g) ∈ schema) (fits : ∀ f, (key,f) ∈ schema → Fits f (Entries.getOrNull entries key)) :
    Fits g (Entries.getOrNull (coerced schema entries) key) := by
  unfold Entries.getOrNull at fits ⊢
  rw [coerced,Entries.get_rows]
  unfold Entries.get? at fits
  cases found : entries.find? fun entry => Value.same entry.1 key with
  | none =>
    rw [found] at fits
    exact fits g row
  | some entry =>
    obtain ⟨name,read⟩ := names _ row
    have same : Value.same entry.1 key = true := by simpa using List.find?_some found
    obtain rfl := (Value.same_read read).mp same
    rw [found] at fits
    have inside := Value.entriesAreProper_exact.mp proper.2 entry (List.mem_of_find?_eq_some found)
    exact (coerceEntry_settles names inside fits).fits (fits g row)

-- A field whose value no judge has refused is not complained about once the dates are read.
theorem coercion_kept {declared : Value} (normalized : (Normal.schema declared).outcome = .ok schema)
    (proper : (Value.map entries).IsProper) :
    ∃ before coerced after, validate schema (.map entries) = .ok before ∧
      coerceDates schema (.map entries) = .ok coerced ∧ validate schema coerced = .ok after ∧
      ∀ key, (∀ c, (key,c) ∉ before) → ∀ c, (key,c) ∉ after := by
  refine ⟨_,_,_,validate_map _ _,coerceDates_map _ _,validate_map _ _,?_⟩
  intro key unreported c reported
  obtain ⟨g,row,misfit⟩ := reported_exact.mp ⟨c,reported⟩
  apply misfit
  apply coerced_fits (schema_names normalized) proper row
  intro f own
  by_contra misfit
  obtain ⟨c,complaint⟩ := reported_exact.mpr ⟨f,own,misfit⟩
  exact unreported c complaint

end Documents

section Trips

def tripSchema : Value :=
  .map [(.text "fields",.map [
    (.text "start",.map [(.text "type",.text "date")]),
    (.text "stops",.map [(.text "type",.text "array"),(.text "items",.map [(.text "type",.text "object"),
      (.text "properties",.map [
        (.text "place",.map [(.text "type",.text "string")]),
        (.text "until",.map [(.text "type",.text "date"),(.text "optional",.bool true)])])])]),
    (.text "marks",.map [(.text "type",.text "record"),(.text "values",.map [(.text "type",.text "date")])])])]

def tripFields : Schema :=
  [(.text "start",.date ⟨"start","",false,none⟩ none none),
    (.text "stops",.array ⟨"stops","",false,none⟩ none none (.object ⟨"stopsItem","",false,none⟩ [
      .string ⟨"place","",false,none⟩ none none none,.date ⟨"until","",true,none⟩ none none])),
    (.text "marks",.record ⟨"marks","",false,none⟩ (.date ⟨"marksValue","",false,none⟩ none none))]

-- The start has no offset, one stop has no end, and the marks are no mapping.
def trip : Entries :=
  [(.text "start",.moment ⟨⟨2026,7,8,by decide⟩,⟨9,10,11,0,by decide⟩,none⟩),
    (.text "stops",.list [
      .map [(.text "place",.text "2026-07-08"),(.text "until",.text "")],
      .map [(.text "until",.moment (Moment.midnight ⟨2026,7,9,by decide⟩ none)),(.text "place",.text "")]]),
    (.text "marks",.text "2026-07-10"),
    (.text "note",.text "2026-07-11")]

theorem trip_proper : (Value.map trip).IsProper := by
  simp [trip,Value.IsProper,Value.AreProper,Value.EntriesAreProper,Entries.AreDistinct,Value.same_text]

theorem trip_kept : ∃ before coerced after, validate tripFields (.map trip) = .ok before ∧
    coerceDates tripFields (.map trip) = .ok coerced ∧ validate tripFields coerced = .ok after ∧
    ∀ key, (∀ c, (key,c) ∉ before) → ∀ c, (key,c) ∉ after := by
  have normalized : (Normal.schema tripSchema).outcome = .ok tripFields := by cbv
  exact coercion_kept normalized trip_proper

end Trips

end TemplateSchema.Document
