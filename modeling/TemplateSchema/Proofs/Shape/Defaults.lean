import TemplateSchema.Proofs.Document.Start
import TemplateSchema.Proofs.Schema.Data
import TemplateSchema.Proofs.Shape.Acceptance
import TemplateSchema.Proofs.Shape.Compiled
/-!
What stands in for a missing value. The model of a schema takes a default as it is declared, and a
new document takes it from the field: they part where a date is given by default as something that
has to be read to be a moment, and where a builder chain stands in the default.
-/
set_option autoImplicit false
namespace TemplateSchema

-- What is not a moment, but is read as one.
inductive Value.ReadsAsMoment : Value → Prop where
  | date (d : Date) : ReadsAsMoment (.date d)
  | text {s : Text} {m : Moment} (read : s.spelled?.bind Moment.read? = some m) : ReadsAsMoment (.text s)

theorem Normal.dateDefault_same {v : Value} : dateDefault v = v ↔ ¬ v.ReadsAsMoment := by
  cases v with
  | date d =>
    refine iff_of_false ?_ (not_not_intro (.date d))
    intro same
    cases same
  | text s =>
    change (Value.text s).asMoment = .text s ↔ _
    cases read : s.spelled?.bind Moment.read? with
    | none =>
      rw [Value.asMoment_other read]
      refine iff_of_true rfl ?_
      intro reads
      cases reads with
      | text again => cases read.symm.trans again
    | some m =>
      rw [Value.asMoment_read read]
      refine iff_of_false ?_ (not_not_intro (.text read))
      intro same
      cases same
  | _ =>
    refine iff_of_true rfl ?_
    rintro ⟨⟩

namespace Shape

variable {isMatch : Format → Text → Bool} {entries : Entries} {members : List (Slot × Shape)}
  {found : List (String × Parsed)}

theorem both_exact {α β : Type} {x : Checked α} {y : Checked β} {a : α} {b : β} :
    both x y = .ok (a,b) ↔ x = .ok a ∧ y = .ok b := by
  cases x <;> cases y <;> simp [both]

-- The members of an accepted model are found under the keys of its slots, one for each of them.
theorem members_keys (accepted : checkMembers isMatch entries members = .ok found) :
    found.map (fun member => Value.text member.1) = members.map fun member => Value.text member.1.key := by
  induction members generalizing found with
  | nil => cases accepted; rfl
  | cons member rest ih =>
    rw [checkMembers,Success.map_exact] at accepted
    obtain ⟨⟨first,others⟩,accepted,rfl⟩ := accepted
    rw [both_exact] at accepted
    rw [List.map_cons,List.map_cons,ih accepted.2]

theorem missing_member {slot : Slot} {s : Shape} {v : Value}
    (accepted : checkMembers isMatch entries members = .ok found) (member : (slot,s) ∈ members)
    (missing : Entries.field? entries slot.key = none) (default_ : slot.default? = some v) :
    (slot.key,.value v) ∈ found := by
  induction members generalizing found with
  | nil => cases member
  | cons first rest ih =>
    rw [checkMembers,Success.map_exact] at accepted
    obtain ⟨⟨p,others⟩,accepted,rfl⟩ := accepted
    rw [both_exact,under,Success.mapError_exact] at accepted
    rcases List.mem_cons.mp member with rfl | behind
    · rw [missing,default_] at accepted
      obtain ⟨filled,_⟩ := accepted
      cases filled
      exact List.mem_cons_self
    · exact List.mem_cons_of_mem _ (ih accepted.2 behind)

theorem slots_of_declarations {properties : List (Value × Declaration)} {position : Nat}
    {drafted : List (Option Slot × Draft)} (texts : ∀ property ∈ properties, ∃ name, property.1 = .text name)
    (compiled : (drafts position properties).outcome = .ok drafted) (all : allUsable drafted = some members) :
    members.map (fun member => Value.text member.1.key) = properties.map Prod.fst ∧
      ∀ property ∈ properties, ∃ member ∈ members, property.1 = .text member.1.key ∧
        member.1.default? = property.2.default?.or (if property.2.isOptional then some .null else none) := by
  induction properties generalizing position drafted members with
  | nil =>
    cases compiled
    cases all
    exact ⟨rfl,by simp⟩
  | cons property rest ih =>
    obtain ⟨key,d⟩ := property
    obtain ⟨⟨name,named⟩,others⟩ := List.forall_mem_cons.mp texts
    obtain rfl : key = .text name := named
    obtain ⟨slot,s,_,_,slotted,_,tail,usables,rfl⟩ := drafts_cons compiled all
    obtain ⟨keyed,fallback⟩ := slot_exact slotted
    obtain rfl := slotKey_text keyed
    obtain ⟨keys,each⟩ := ih others tail usables
    refine ⟨by simp [keys],List.forall_mem_cons.mpr ⟨⟨_,List.mem_cons_self,rfl,fallback⟩,?_⟩⟩
    intro property member
    obtain ⟨own,inside,same⟩ := each property member
    exact ⟨own,List.mem_cons_of_mem _ inside,same⟩

end Shape

theorem Parsed.dumpMembers_exact {done : Entries} (members : List (String × Parsed)) : dumpMembers done members =
    (members.map fun member => (Value.text member.1,member.2.dump)).foldl
      (fun all entry => Entries.insert all entry.1 entry.2) done := by
  induction members generalizing done with
  | nil => rfl
  | cons member rest ih => exact ih

-- Members with keys of their own are dumped side by side.
theorem Parsed.members_dumped {members : List (String × Parsed)}
    (distinct : (members.map fun member => Value.text member.1).Pairwise fun key other => Value.same key other = false) :
    dumpMembers [] members = members.map fun member => (Value.text member.1,member.2.dump) := by
  rw [dumpMembers_exact]
  apply Entries.ofList_distinct
  exact List.pairwise_map.mpr (List.pairwise_map.mp distinct)

theorem Parsed.member_dumped {members : List (String × Parsed)} {key : String} {p : Parsed}
    (distinct : (members.map fun member => Value.text member.1).Pairwise fun key other => Value.same key other = false)
    (member : (key,p) ∈ members) : Entries.field? (dumpMembers [] members) key = some p.dump := by
  rw [members_dumped distinct]
  apply Entries.entry_found
  · exact List.pairwise_map.mpr (List.pairwise_map.mp distinct)
  · exact List.mem_map_of_mem (f := fun member => (Value.text member.1,member.2.dump)) member

section Documents

variable {declared key v : Value} {properties : List (Value × Declaration)} {d : Declaration} {schema : Schema}
  {f : Field} {entries : Entries}

theorem default_dumped {isMatch : Format → Text → Bool} {model : Text} {shape : Shape} {parsed : Parsed}
    (named : Declaration.AreNamed declared) (read : declarations declared = .ok properties)
    (compiled : (Shape.ofSchema declared (.text model)).outcome = .ok shape)
    (member : (key,d) ∈ properties) (default_ : d.default? = some v) (missing : Entries.get? entries key = none)
    (accepted : Shape.checkWith isMatch shape (.map entries) = .ok parsed) :
    ∃ dumped, parsed.dump = .map dumped ∧ Entries.get? dumped key = some v.stored := by
  obtain ⟨own,again,drafted,members,_,reread,drafts,all,rfl⟩ := Shape.ofSchema_exact compiled
  obtain rfl := Except.ok.inj (read.symm.trans reread)
  obtain ⟨texts,apart⟩ := named properties read
  rw [Shape.checkWith,Success.map_exact] at accepted
  obtain ⟨found,accepted,rfl⟩ := accepted
  obtain ⟨keys,each⟩ := Shape.slots_of_declarations texts drafts all
  obtain ⟨⟨slot,s⟩,isMember,same,fallback⟩ := each _ member
  obtain rfl : key = .text slot.key := same
  have filled := Shape.missing_member accepted isMember missing (fallback.trans (by rw [default_]; rfl))
  have distinct : (found.map fun member => Value.text member.1).Pairwise fun key other =>
      Value.same key other = false := by
    rw [Shape.members_keys accepted,keys]
    exact List.pairwise_map.mpr apart
  exact ⟨_,rfl,Parsed.member_dumped distinct filled⟩

theorem stored_adopted (f : Field) (v : Value) :
    v.stored = Normal.adopted f v ↔ v.IsData ∧ (f.kind = .date → ¬ v.ReadsAsMoment) := by
  cases f with
  | date h lo hi =>
    by_cases reads : v.ReadsAsMoment
    · -- Nothing is stored in another form that could be read.
      have same : v.stored = v := by cases reads <;> rfl
      rw [same,Normal.adopted,eq_comm,Normal.dateDefault_same]
      simp [Field.kind,reads]
    · rw [Normal.adopted,Normal.dateDefault_same.mpr reads,Value.stored_same]
      simp [reads]
  | _ => simp [Normal.adopted,Value.stored_same,Field.kind]

-- The model of a schema and a new document agree on a default that is plain data, unless it is that
-- of a date and would have to be read.
theorem default_filled {isMatch : Format → Text → Bool} {model : Text} {shape : Shape} {parsed : Parsed}
    (named : Declaration.AreNamed declared) (normalized : (Normal.schema declared).outcome = .ok schema)
    (compiled : (Shape.ofSchema declared (.text model)).outcome = .ok shape)
    (read : declarations declared = .ok properties) (member : (key,d) ∈ properties) (default_ : d.default? = some v)
    (known : schema.get? key = some f) (missing : Entries.get? entries key = none)
    (accepted : Shape.checkWith isMatch shape (.map entries) = .ok parsed) (now : Moment) :
    ∃ dumped initials filled given, parsed.dump = .map dumped ∧ Document.initialValues now schema = .map initials ∧
      Entries.get? dumped key = some filled ∧ Entries.get? initials key = some given ∧
      (filled = given ↔ v.IsData ∧ (f.kind = .date → ¬ v.ReadsAsMoment)) := by
  obtain ⟨dumped,whole,filled⟩ := default_dumped named read compiled member default_ missing accepted
  have given : Entries.get? (schema.map fun row => (row.1,Document.initial now row.2)) key =
      some (Normal.adopted f v) := by
    rw [Document.initial_get,known,Option.map_some,
      Document.initial_declared now (Document.default_adopted named normalized read member default_ known)]
  exact ⟨dumped,_,_,_,whole,rfl,filled,given,stored_adopted f v⟩

section Notes

open Document (loanClock)

def noteDay : Value :=
  .text "2027-08-09"

def noteMidnight : Value :=
  .moment (Moment.midnight ⟨2027,8,9,by decide⟩ (some Offset.universal))

-- A note has to be read by a day, and need not have a title of its own.
def noteSchema : Value :=
  .map [(.text "fields",.map [
    (.text "due",.map [(.text "type",.text "date"),(.text "default",noteDay)]),
    (.text "title",.map [(.text "type",.text "string"),(.text "default",.text "Note")])])]

def noteTitle : Field :=
  .string ⟨"title","",false,some (.text "Note")⟩ none none none

def noteFields : Schema :=
  [(.text "due",.date ⟨"due","",false,some noteMidnight⟩ none none),(.text "title",noteTitle)]

def noteShape : Shape :=
  .model "Note" [(⟨"due",some noteDay⟩,.moment none none),(⟨"title",some (.text "Note")⟩,Shape.anyText)]

def noteParsed : Parsed :=
  .model [("due",.value noteDay),("title",.value (.text "Note"))]

theorem note_declared : declarations noteSchema = .ok [
    (.text "due",.date [(.text "type",.text "date"),(.text "default",noteDay)]),
    (.text "title",.string [(.text "type",.text "string"),(.text "default",.text "Note")])] := by
  cbv

theorem note_named : Declaration.AreNamed noteSchema := by
  intro properties read
  obtain rfl := Except.ok.inj (note_declared.symm.trans read)
  simp [Value.same_text]

theorem note_normalized : (Normal.schema noteSchema).outcome = .ok noteFields := by
  cbv

theorem note_compiled : (Shape.ofSchema noteSchema (.text "Note")).outcome = .ok noteShape :=
  Shape.ofSchema_built note_declared (by cbv) rfl (by decide)

theorem note_accepted : Shape.checkWith Format.isMatch noteShape (.map []) = .ok noteParsed := by
  cbv

theorem note_filled : ∃ dumped initials filled given, noteParsed.dump = .map dumped ∧
    Document.initialValues loanClock noteFields = .map initials ∧
    Entries.get? dumped (.text "title") = some filled ∧ Entries.get? initials (.text "title") = some given ∧
    (filled = given ↔ (Value.text "Note").IsData ∧ (noteTitle.kind = .date → ¬ (Value.text "Note").ReadsAsMoment)) :=
  default_filled note_named note_normalized note_compiled note_declared (List.mem_cons_of_mem _ List.mem_cons_self)
    (by cbv) (by cbv) rfl note_accepted loanClock

-- The model leaves the day as text, and the new document has it read.
theorem note_day_parted : (Normal.schema noteSchema).outcome = .ok noteFields ∧
    (Shape.ofSchema noteSchema (.text "Note")).outcome = .ok noteShape ∧
    Shape.checkWith Format.isMatch noteShape (.map []) = .ok noteParsed ∧
    (∃ dumped, noteParsed.dump = .map dumped ∧ Entries.get? dumped (.text "due") = some noteDay) ∧
    (∃ initials, Document.initialValues loanClock noteFields = .map initials ∧
      Entries.get? initials (.text "due") = some noteMidnight) ∧
    noteDay ≠ noteMidnight := by
  refine ⟨note_normalized,note_compiled,note_accepted,⟨_,rfl,by cbv⟩,⟨_,rfl,by cbv⟩,?_⟩
  intro same
  cases same

end Notes

end Documents

end TemplateSchema
