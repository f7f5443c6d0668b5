import TemplateSchema.Proofs.Document.Settled
import TemplateSchema.Proofs.Document.Start
/-!
The defaults of a schema that JSON can spell out. JSON has no moments, so a date is text there. The
default of a date field is read with the schema; what stands where a date should inside the default
of another field stays text, and a new document is wrong in that field from the start.
-/
set_option autoImplicit false
namespace TemplateSchema

namespace Declaration

theorem json_named {declared : Value} (json : declared.IsJson) : AreNamed declared := by
  intro properties read
  obtain ⟨entries,fields,rfl,found,rfl⟩ := declarations_exact.mp read
  obtain ⟨distinct,each⟩ := Entries.json_found json found
  rw [members_map]
  constructor
  · intro property member
    obtain ⟨entry,inside,rfl⟩ := List.mem_map.mp member
    exact (Value.entriesAreJson_exact.mp each entry inside).1
  · exact List.pairwise_map.mpr distinct

theorem json_default {declared name v : Value} {properties : List (Value × Declaration)} {d : Declaration}
    (json : declared.IsJson) (read : declarations declared = .ok properties) (member : (name,d) ∈ properties)
    (default_ : d.default? = some v) : v.IsJson := by
  obtain ⟨entries,fields,rfl,found,rfl⟩ := declarations_exact.mp read
  rw [members_map] at member
  obtain ⟨⟨own,value⟩,inside,same⟩ := List.mem_map.mp member
  cases same
  have whole := (Value.entriesAreJson_exact.mp (Entries.json_found json found).2 _ inside).2
  obtain ⟨keys,rfl,own⟩ := default_found default_
  exact Entries.json_found whole own

end Declaration

theorem Normal.dateDefault_json {v : Value} (json : v.IsJson) : dateDefault v = v.asMoment := by
  cases v with
  | date d => cases json
  | moment m => cases json
  | _ => rfl

namespace Document

variable {schema : Schema} {f : Field} {v w : Value}

-- There is no moment in it that could be given universal time.
theorem Settles.json (settles : Settles v w) (json : v.IsJson) : w = v := by
  induction settles with
  | same v => rfl
  | moment m => cases json
  | @list items change each ih =>
    have same : items.map change = items :=
      (List.map_congr_left fun x member => ih x member (Value.areJson_exact.mp json x member)).trans
        (List.map_id' items)
    rw [same]
  | @map entries change each ih =>
    have same : entries.map (fun entry => (entry.1,change entry)) = entries := by
      refine (List.map_congr_left ?_).trans (List.map_id' entries)
      intro entry member
      rw [ih entry member (Value.entriesAreJson_exact.mp json.2 entry member).2]
    rw [same]

-- What fits as it is has no text that reading dates would change.
theorem json_fits (json : v.IsJson) (accepted : Conforms f (coerce f v)) : Fits f v ↔ coerce f v = v := by
  constructor
  · intro fits
    exact (fitting_settles (coerce_settles f (Value.json_proper v json)) fits).json json
  · intro same
    rw [same] at accepted
    exact fits_exact.mpr (.inr accepted)

theorem adopted_fits (json : v.IsJson) (accepted : Conforms f (coerce f v)) :
    Fits f (Normal.adopted f v) ↔ (f.kind ≠ .date → coerce f v = v) := by
  cases f with
  | date h lo hi =>
    rw [Normal.adopted,Normal.dateDefault_json json]
    exact iff_of_true (fits_exact.mpr (.inr accepted)) fun other => absurd rfl other
  | _ => simpa [Field.kind,Normal.adopted] using json_fits json accepted

theorem coerce_single {key : Value} (known : schema.get? key = some f)
    (coerced : coerceDates schema (.map [(key,v)]) = .ok (.map [(key,w)])) : w = coerce f v := by
  rw [coerceDates_map,Document.coerced,List.map_singleton] at coerced
  simp only [Except.ok.injEq,Value.map.injEq,List.cons.injEq,Prod.mk.injEq,true_and,and_true] at coerced
  rw [← coerced,coerceEntry,known]

-- A default that would do if its dates were read does at the start where it is that of a date, or
-- has no dates to be read.
theorem default_judged {declared key : Value} {properties : List (Value × Declaration)} {d : Declaration}
    (json : declared.IsJson) (normalized : (Normal.schema declared).outcome = .ok schema)
    (read : declarations declared = .ok properties) (member : (key,d) ∈ properties) (default_ : d.default? = some v)
    (known : schema.get? key = some f)
    (coerced : coerceDates schema (.map [(key,v)]) = .ok (.map [(key,w)])) (accepted : judge f w = none)
    (now : Moment) :
    ∃ found, validate schema (initialValues now schema) = .ok found ∧
      ((∃ c, (key,c) ∈ found) ↔ f.kind ≠ .date ∧ w ≠ v) := by
  have named := Declaration.json_named json
  have start := initial_declared now (default_adopted named normalized read member default_ known)
  obtain rfl := coerce_single known coerced
  refine ⟨_,validate_map _ _,(start_reported named normalized now).trans ?_⟩
  have fits := adopted_fits (Declaration.json_default json read member default_) accepted
  constructor
  · rintro ⟨g,again,misfit⟩
    obtain rfl : f = g := Option.some.inj (known.symm.trans again)
    rw [start,fits] at misfit
    simpa using misfit
  · rintro ⟨other,changed⟩
    refine ⟨f,known,?_⟩
    rw [start,fits]
    intro same
    exact changed (same other)

section Holidays

def holidayText : Value :=
  .text "2024-12-24"

def holiday : Value :=
  .moment (Moment.midnight ⟨2024,12,24,by decide⟩ (some Offset.universal))

-- A list of days, which starts with one, and the last day to ask for another.
def holidaySchema : Value :=
  .map [(.text "fields",.map [
    (.text "days",.map [(.text "type",.text "array"),(.text "items",.map [(.text "type",.text "date")]),
      (.text "default",.list [holidayText])]),
    (.text "due",.map [(.text "type",.text "date"),(.text "default",holidayText)])])]

def holidayDays : Field :=
  .array ⟨"days","",false,some (.list [holidayText])⟩ none none (.date ⟨"daysItem","",false,none⟩ none none)

def holidayFields : Schema :=
  [(.text "days",holidayDays),(.text "due",.date ⟨"due","",false,some holiday⟩ none none)]

theorem holiday_declared : declarations holidaySchema = .ok [
    (.text "days",.array [(.text "type",.text "array"),(.text "items",.map [(.text "type",.text "date")]),
        (.text "default",.list [holidayText])] (.date [(.text "type",.text "date")])),
    (.text "due",.date [(.text "type",.text "date"),(.text "default",holidayText)])] := by
  cbv

theorem holiday_json : holidaySchema.IsJson := by
  simp [holidaySchema,holidayText,Value.IsJson,Value.AreJson,Value.EntriesAreJson,Entries.AreDistinct,
    Value.same_text]

theorem holiday_normalized : (Normal.schema holidaySchema).outcome = .ok holidayFields := by
  cbv

theorem holiday_coerced : coerceDates holidayFields (.map [(.text "days",.list [holidayText])]) =
    .ok (.map [(.text "days",.list [holiday])]) := by
  cbv

theorem holiday_judged : ∃ found, validate holidayFields (initialValues loanClock holidayFields) = .ok found ∧
    ((∃ c, (.text "days",c) ∈ found) ↔ holidayDays.kind ≠ .date ∧ Value.list [holiday] ≠ .list [holidayText]) :=
  default_judged holiday_json holiday_normalized holiday_declared List.mem_cons_self (by cbv) (by cbv) holiday_coerced
    (by cbv) loanClock

-- The days would do if they were read; the start of the document has them as text.
theorem holidays_start_wrong : holidaySchema.IsJson ∧
    (Normal.schema holidaySchema).outcome = .ok holidayFields ∧ holidayFields.get? (.text "days") = some holidayDays ∧
    holidayDays.default? = some (.list [holidayText]) ∧
    coerceDates holidayFields (.map [(.text "days",.list [holidayText])]) =
      .ok (.map [(.text "days",.list [holiday])]) ∧
    judge holidayDays (.list [holiday]) = none ∧
    validate holidayFields (initialValues loanClock holidayFields) =
      .ok [(.text "days",⟨[.item 1],.moment⟩)] :=
  ⟨holiday_json,holiday_normalized,by cbv,rfl,holiday_coerced,by cbv,by cbv⟩

end Holidays

end Document

end TemplateSchema
