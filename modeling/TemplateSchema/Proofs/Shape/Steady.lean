import TemplateSchema.Proofs.Document.Agreement
import TemplateSchema.Proofs.Shape.Defaults
/-!
What a check makes of a document, and checking that again. The document has the fields of the schema
at every level, in their order. One constructor of shapes at a time, what a value is made into is
accepted again and made into itself, if members go by keys of their own and take their own defaults
for what they are.
-/
set_option autoImplicit false
namespace TemplateSchema

namespace Declaration

-- The constraints are of their types, the properties are declared under names of their own, and
-- nothing stands in for a missing value.
@[mk_iff bare_exact]
structure IsBare (d : Declaration) : Prop where
  typed : WellTyped d
  named : d.HasDistinctNames
  undefaulted : d.default? = none

-- At every level, an object has its properties and nothing else, in the order of their declaration.
mutual

def IsKeyed : Declaration → Value → Prop
  | .array _ item, v => ∃ items, v = .list items ∧
      ∀ x ∈ items, item.isOptional = true ∧ x = .null ∨ IsKeyed item x
  | .record _ value, v => ∃ entries, v = .map entries ∧
      ∀ entry ∈ entries, value.isOptional = true ∧ entry.2 = .null ∨ IsKeyed value entry.2
  | .object _ properties, v => ∃ entries, v = .map entries ∧ AreKeyed properties entries
  | _, _ => True

def AreKeyed : List (Value × Declaration) → Entries → Prop
  | [], entries => entries = []
  | (name,d) :: rest, entries => ∃ v others, entries = (name,v) :: others ∧
      (d.isOptional = true ∧ v = .null ∨ IsKeyed d v) ∧ AreKeyed rest others

end

end Declaration

namespace Shape

variable {isMatch : Format → Text → Bool} {s : Shape} {v : Value} {p : Parsed}

-- What the shape makes of a value is accepted by the shape, and made into nothing else.
def IsSteady (isMatch : Format → Text → Bool) (s : Shape) : Prop :=
  ∀ v p, checkWith isMatch s v = .ok p → checkWith isMatch s p.dump = .ok p

-- The shape makes nothing else of a value than the value itself.
def IsFaithful (isMatch : Format → Text → Bool) (s : Shape) : Prop :=
  ∀ v p, checkWith isMatch s v = .ok p → p.dump = v

theorem faithful_steady (faithful : IsFaithful isMatch s) : IsSteady isMatch s := by
  intro v p accepted
  rw [faithful v p accepted]
  exact accepted

section Scalars

theorem unlessFlawed_same {α : Type} {flaws : List (Bool × Flaw)} {a b : α} (found : unlessFlawed flaws a = .ok b) :
    a = b := by
  unfold unlessFlawed at found
  split at found
  · cases found
  · exact Except.ok.inj found

theorem faithful_text {lo hi : Option Nat} {format : Option Format} :
    IsFaithful isMatch (.text lo hi format) := by
  intro v p accepted
  cases v with
  | text s => rw [← unlessFlawed_same accepted]; rfl
  | _ => cases accepted

theorem faithful_truth : IsFaithful isMatch .truth := by
  intro v p accepted
  cases v with
  | bool b => cases accepted; rfl
  | _ => cases accepted

theorem faithful_moment {lo hi : Option Moment} : IsFaithful isMatch (.moment lo hi) := by
  intro v p accepted
  cases v with
  | moment m => rw [← unlessFlawed_same accepted]; rfl
  | _ => cases accepted

theorem option_same {options : List Value} {o : Value} (found : option? options v = some o) :
    o ∈ options ∧ Value.same o v = true := by
  apply List.mem_filter.mp
  unfold option? at found
  generalize options.filter (fun o => Value.same o v) = equal at found ⊢
  simp only [Option.or_eq_some_iff] at found
  rcases found with alike | ⟨_,other | ⟨_,last⟩⟩
  · split at alike
    · exact List.mem_of_find?_eq_some alike
    · cases alike
  · exact List.mem_of_find?_eq_some other
  · exact List.mem_of_getLast? last

theorem choice_checked {options : List Value} (accepted : checkWith isMatch (.choice options) v = .ok p) :
    ∃ o, option? options v = some o ∧ p = .value o := by
  change checkChoice options v = .ok p at accepted
  unfold checkChoice at accepted
  split at accepted
  · cases accepted
  · cases found : option? options v with
    | none => rw [found] at accepted; cases accepted
    | some o => rw [found] at accepted; exact ⟨o,rfl,(Except.ok.inj accepted).symm⟩

theorem faithful_choice {options : List Value} (texts : ∀ o ∈ options, ∃ s, o = .text s) :
    IsFaithful isMatch (.choice options) := by
  intro v p accepted
  obtain ⟨o,found,rfl⟩ := choice_checked accepted
  obtain ⟨member,same⟩ := option_same found
  obtain ⟨s,rfl⟩ := texts o member
  exact (text_same.mp same).symm

theorem number_checked {lo hi : Option Binary64} {isPositive isNumber isInteger : Bool}
    (accepted : checkWith isMatch (.number lo hi isPositive isNumber isInteger) v = .ok p) :
    ∃ x, float? v = some x ∧ p = .value (.float x) := by
  change checkNumber lo hi isPositive isNumber isInteger v = .ok p at accepted
  unfold checkNumber at accepted
  cases number : float? v with
  | none => rw [number] at accepted; cases accepted
  | some x =>
    rw [number] at accepted
    exact ⟨x,rfl,(unlessFlawed_same accepted).symm⟩

-- An integer is made into a number with a fraction, which counts for the same.
theorem steady_number {lo hi : Option Binary64} {isPositive isNumber isInteger : Bool} :
    IsSteady isMatch (.number lo hi isPositive isNumber isInteger) := by
  intro v p accepted
  obtain ⟨x,number,rfl⟩ := number_checked accepted
  change checkNumber lo hi isPositive isNumber isInteger (.float x) = _
  change checkNumber lo hi isPositive isNumber isInteger v = _ at accepted
  unfold checkNumber at accepted ⊢
  rw [number] at accepted
  exact accepted

end Scalars

section Compounds

theorem under_exact {α : Type} {segment : Segment} {x : Checked α} {a : α} :
    under segment x = .ok a ↔ x = .ok a :=
  Success.mapError_exact

variable {check : Value → Checked Parsed}

theorem items_cons {position : Nat} {rest : List Value} {ps : List Parsed} :
    checkItems check position (v :: rest) = .ok ps ↔
      ∃ p others, check v = .ok p ∧ checkItems check (position + 1) rest = .ok others ∧ ps = p :: others := by
  rw [checkItems,Success.map_exact]
  constructor
  · intro accepted
    obtain ⟨⟨p,others⟩,accepted,rfl⟩ := accepted
    rw [both_exact,under_exact] at accepted
    exact ⟨p,others,accepted.1,accepted.2,rfl⟩
  · intro accepted
    obtain ⟨p,others,first,behind,rfl⟩ := accepted
    exact ⟨(p,others),both_exact.mpr ⟨under_exact.mpr first,behind⟩,rfl⟩

theorem items_steady (steady : ∀ v p, check v = .ok p → check p.dump = .ok p) {position : Nat} {items : List Value}
    {ps : List Parsed} (accepted : checkItems check position items = .ok ps) :
    checkItems check position (Parsed.dumpItems ps) = .ok ps ∧ (Parsed.dumpItems ps).length = items.length := by
  induction items generalizing position ps with
  | nil => cases accepted; exact ⟨rfl,rfl⟩
  | cons v rest ih =>
    obtain ⟨p,others,first,behind,rfl⟩ := items_cons.mp accepted
    obtain ⟨again,length⟩ := ih behind
    exact ⟨items_cons.mpr ⟨p,others,steady v p first,again,rfl⟩,congrArg (· + 1) length⟩

theorem item_made {position : Nat} {items : List Value} {ps : List Parsed} {x : Value}
    (accepted : checkItems check position items = .ok ps) (member : x ∈ Parsed.dumpItems ps) :
    ∃ v p, check v = .ok p ∧ x = p.dump := by
  induction items generalizing position ps with
  | nil => cases accepted; cases member
  | cons v rest ih =>
    obtain ⟨p,others,first,behind,rfl⟩ := items_cons.mp accepted
    rcases List.mem_cons.mp member with rfl | later
    · exact ⟨v,p,first,rfl⟩
    · exact ih behind later

theorem list_exact {lo hi : Option Nat} {items : List Value} {checked : Checked (List Parsed)}
    (accepted : checkList lo hi items checked = .ok p) : ∃ parsed, checked = .ok parsed ∧ p = .list parsed := by
  unfold checkList at accepted
  split at accepted
  · cases accepted
  · obtain ⟨parsed,found,accepted⟩ := Success.bind_exact.mp accepted
    exact ⟨parsed,found,(unlessFlawed_same accepted).symm⟩

-- Of the items themselves, a list is checked for their number only.
theorem list_length {lo hi : Option Nat} {items others : List Value} {checked : Checked (List Parsed)}
    (length : items.length = others.length) : checkList lo hi items checked = checkList lo hi others checked := by
  simp only [checkList,length]

theorem list_checked {lo hi : Option Nat} {item : Shape} (accepted : checkWith isMatch (.list lo hi item) v = .ok p) :
    ∃ items parsed, v = .list items ∧ p = .list parsed ∧
      checkItems (checkWith isMatch item) 0 items = .ok parsed ∧ checkList lo hi items (.ok parsed) = .ok p := by
  cases v with
  | list items =>
    change checkList lo hi items (checkItems (checkWith isMatch item) 0 items) = .ok p at accepted
    obtain ⟨parsed,found,rfl⟩ := list_exact accepted
    rw [found] at accepted
    exact ⟨items,parsed,rfl,rfl,found,accepted⟩
  | _ => cases accepted

theorem steady_list {lo hi : Option Nat} {item : Shape} (steady : IsSteady isMatch item) :
    IsSteady isMatch (.list lo hi item) := by
  intro v p accepted
  obtain ⟨items,parsed,rfl,rfl,found,accepted⟩ := list_checked accepted
  obtain ⟨again,length⟩ := items_steady steady found
  change checkList lo hi (Parsed.dumpItems parsed) (checkItems (checkWith isMatch item) 0 (Parsed.dumpItems parsed)) = _
  rw [again,list_length length]
  exact accepted

theorem entries_cons {key : Value} {rest : Entries} {ps : List (Value × Parsed)} :
    checkEntries check ((key,v) :: rest) = .ok ps ↔ ∃ known p others, checkKey key = .ok known ∧ check v = .ok p ∧
      checkEntries check rest = .ok others ∧ ps = (known,p) :: others := by
  rw [checkEntries,Success.map_exact]
  constructor
  · intro accepted
    obtain ⟨⟨⟨known,p⟩,others⟩,accepted,rfl⟩ := accepted
    rw [both_exact,under_exact,both_exact] at accepted
    exact ⟨known,p,others,accepted.1.1,accepted.1.2,accepted.2,rfl⟩
  · intro accepted
    obtain ⟨known,p,others,isKey,first,behind,rfl⟩ := accepted
    exact ⟨((known,p),others),both_exact.mpr ⟨under_exact.mpr (both_exact.mpr ⟨isKey,first⟩),behind⟩,rfl⟩

theorem key_known {key known : Value} (accepted : checkKey key = .ok known) : IsTextKey known := by
  rcases key_exact.mp accepted with ⟨text,rfl⟩ | ⟨_,s,_,_,rfl⟩
  · exact text
  · exact ⟨s,rfl⟩

-- A row of a record: a text, with what the check makes of a value.
theorem entry_made {entries : Entries} {ps : List (Value × Parsed)} {row : Value × Parsed}
    (accepted : checkEntries check entries = .ok ps) (member : row ∈ ps) :
    IsTextKey row.1 ∧ ∃ v, check v = .ok row.2 := by
  induction entries generalizing ps with
  | nil => cases accepted; cases member
  | cons own rest ih =>
    obtain ⟨key,v⟩ := own
    obtain ⟨known,p,others,isKey,first,behind,rfl⟩ := entries_cons.mp accepted
    rcases List.mem_cons.mp member with rfl | later
    · exact ⟨key_known isKey,v,first⟩
    · exact ih behind later

theorem entries_steady {ps : List (Value × Parsed)}
    (steady : ∀ row ∈ ps, IsTextKey row.1 ∧ check row.2.dump = .ok row.2) :
    checkEntries check (Parsed.dumpEntries ps) = .ok ps := by
  induction ps with
  | nil => rfl
  | cons row rest ih =>
    obtain ⟨⟨text,same⟩,behind⟩ := List.forall_mem_cons.mp steady
    exact entries_cons.mpr ⟨_,_,_,key_exact.mpr (.inl ⟨text,rfl⟩),same,ih behind,rfl⟩

theorem record_checked {inner : Shape} (accepted : checkWith isMatch (.record inner) v = .ok p) :
    ∃ entries rows, v = .map entries ∧ p = recordOf rows ∧
      checkEntries (checkWith isMatch inner) entries = .ok rows := by
  cases v with
  | map entries =>
    change (checkEntries (checkWith isMatch inner) entries).map recordOf = .ok p at accepted
    obtain ⟨rows,found,rfl⟩ := Success.map_exact.mp accepted
    exact ⟨entries,rows,rfl,rfl,found⟩
  | _ => cases accepted

theorem dumpEntries_exact (rows : List (Value × Parsed)) :
    Parsed.dumpEntries rows = rows.map fun row => (row.1,row.2.dump) := by
  induction rows with
  | nil => rfl
  | cons row rest ih => rw [Parsed.dumpEntries,ih]; rfl

theorem record_made {entries dumped : Entries} {rows : List (Value × Parsed)} {entry : Value × Value}
    (found : checkEntries check entries = .ok rows) (made : (recordOf rows).dump = .map dumped)
    (member : entry ∈ dumped) : ∃ v p, check v = .ok p ∧ entry.2 = p.dump := by
  obtain rfl : Parsed.dumpEntries (Entries.ofList rows) = dumped := Value.map.inj made
  rw [dumpEntries_exact] at member
  obtain ⟨row,isRow,rfl⟩ := List.mem_map.mp member
  obtain ⟨_,last,isLast,value⟩ := Entries.ofList_made isRow
  obtain ⟨_,v,accepted⟩ := entry_made found isLast
  exact ⟨v,_,accepted,congrArg Parsed.dump value⟩

-- What is left of the rows of a record is known by texts, each of them once.
theorem steady_record {inner : Shape} (steady : IsSteady isMatch inner) : IsSteady isMatch (.record inner) := by
  intro v p accepted
  obtain ⟨entries,rows,rfl,rfl,found⟩ := record_checked accepted
  have texts : ∀ row ∈ rows, IsTextKey row.1 := fun row member => (entry_made found member).1
  have again : checkEntries (checkWith isMatch inner) (Parsed.dumpEntries (Entries.ofList rows)) =
      .ok (Entries.ofList rows) := by
    apply entries_steady
    intro row member
    obtain ⟨isText,made⟩ := Entries.ofList_made member
    obtain ⟨first,isFirst,key⟩ := isText
    obtain ⟨last,isLast,value⟩ := made
    obtain ⟨_,v,accepted⟩ := entry_made found isLast
    exact ⟨key ▸ texts first isFirst,value ▸ steady v _ accepted⟩
  refine Success.map_exact.mpr ⟨_,again,?_⟩
  rw [recordOf,recordOf,Entries.ofList_distinct (Entries.ofList_apart texts)]

variable {entries : Entries} {members : List (Slot × Shape)} {found : List (String × Parsed)}

-- What a member is made into: what stands under its key, or the default.
def IsMade (isMatch : Format → Text → Bool) (entries : Entries) (slot : Slot) (s : Shape) (p : Parsed) : Prop :=
  (∃ v, Entries.field? entries slot.key = some v ∧ checkWith isMatch s v = .ok p) ∨
    Entries.field? entries slot.key = none ∧ ∃ v, slot.default? = some v ∧ p = .value v

theorem members_cons {slot : Slot} : checkMembers isMatch entries ((slot,s) :: members) = .ok found ↔
    ∃ p others, IsMade isMatch entries slot s p ∧ checkMembers isMatch entries members = .ok others ∧
      found = (slot.key,p) :: others := by
  rw [checkMembers,Success.map_exact]
  simp only [both_exact,under_exact,Prod.exists]
  unfold IsMade
  cases Entries.field? entries slot.key with
  | some v => simp [and_assoc,eq_comm (a := found)]
  | none => cases slot.default? <;> simp [flaw,and_assoc,eq_comm (a := found),eq_comm (b := Parsed.value _)]

-- A member is steady if its shape is, and if it takes its own default for what it is.
def IsSteadyMember (isMatch : Format → Text → Bool) (member : Slot × Shape) : Prop :=
  IsSteady isMatch member.2 ∧
    ∀ v, member.1.default? = some v → checkWith isMatch member.2 v.stored = .ok (.value v)

theorem members_steady {dumped : Entries} (steady : ∀ member ∈ members, IsSteadyMember isMatch member)
    (accepted : checkMembers isMatch entries members = .ok found)
    (kept : ∀ member ∈ found, Entries.field? dumped member.1 = some member.2.dump) :
    checkMembers isMatch dumped members = .ok found := by
  induction members generalizing found with
  | nil => cases accepted; rfl
  | cons member rest ih =>
    obtain ⟨slot,s⟩ := member
    obtain ⟨p,others,made,behind,rfl⟩ := members_cons.mp accepted
    obtain ⟨⟨own,default_⟩,steady⟩ := List.forall_mem_cons.mp steady
    obtain ⟨first,kept⟩ := List.forall_mem_cons.mp kept
    refine members_cons.mpr ⟨p,others,.inl ⟨_,first,?_⟩,ih steady behind kept,rfl⟩
    rcases made with ⟨v,_,accepted⟩ | ⟨_,v,declared,rfl⟩
    · exact own v p accepted
    · exact default_ v declared

theorem model_checked {name : String} (accepted : checkWith isMatch (.model name members) v = .ok p) :
    ∃ entries found, v = .map entries ∧ p = .model found ∧ checkMembers isMatch entries members = .ok found := by
  cases v with
  | map entries =>
    change (checkMembers isMatch entries members).map Parsed.model = .ok p at accepted
    obtain ⟨found,each,rfl⟩ := Success.map_exact.mp accepted
    exact ⟨entries,found,rfl,rfl,each⟩
  | _ => cases accepted

-- Members go by different keys.
def HaveOwnKeys (members : List (Slot × Shape)) : Prop :=
  (members.map fun member => Value.text member.1.key).Pairwise fun key other => Value.same key other = false

theorem members_apart (distinct : HaveOwnKeys members) (accepted : checkMembers isMatch entries members = .ok found) :
    (found.map fun member => Value.text member.1).Pairwise fun key other => Value.same key other = false := by
  rw [members_keys accepted]
  exact distinct

theorem steady_model {name : String} (distinct : HaveOwnKeys members)
    (steady : ∀ member ∈ members, IsSteadyMember isMatch member) : IsSteady isMatch (.model name members) := by
  intro v p accepted
  obtain ⟨entries,found,rfl,rfl,each⟩ := model_checked accepted
  refine Success.map_exact.mpr ⟨found,members_steady steady each ?_,rfl⟩
  intro member inside
  exact Parsed.member_dumped (members_apart distinct each) inside

end Compounds

section Optional

theorem dump_null (null : p.dump = .null) : p = .value .null := by
  cases p with
  | value v => cases v <;> first | rfl | cases null
  | _ => cases null

theorem dump_text {t : Text} (text : p.dump = .text t) : p = .value (.text t) := by
  cases p with
  | value v => cases v <;> cases text; rfl
  | _ => cases text

theorem orNull_exact : checkWith isMatch (.orNull s) v = .ok p ↔
    v = .null ∧ p = .value .null ∨ v ≠ .null ∧ checkWith isMatch s v = .ok p := by
  cases v <;> simp [checkWith,eq_comm (a := p)]

theorem orBlank_exact : checkWith isMatch (.orBlank s) v = .ok p ↔
    (v = .null ∨ v = .text "") ∧ p = .value .null ∨
      (v ≠ .null ∧ v ≠ .text "") ∧ checkWith isMatch s v = .ok p := by
  cases v with
  | text t => by_cases empty : t = "" <;> simp [checkWith,Text.isEmpty_exact,empty,eq_comm (a := p)]
  | _ => simp [checkWith,eq_comm (a := p)]

-- Text is made of that text only, whatever the shape.
theorem text_checked (s : Shape) {t : Text} (accepted : checkWith isMatch s v = .ok (.value (.text t))) :
    v = .text t := by
  match s with
  | .text .. => exact (faithful_text v _ accepted).symm
  | .truth => exact (faithful_truth v _ accepted).symm
  | .moment .. => exact (faithful_moment v _ accepted).symm
  | .number .. =>
    obtain ⟨_,_,same⟩ := number_checked accepted
    cases same
  | .choice _ =>
    obtain ⟨_,found,same⟩ := choice_checked accepted
    cases same
    exact text_same.mp (option_same found).2
  | .list .. =>
    obtain ⟨_,_,_,same,_⟩ := list_checked accepted
    cases same
  | .record _ =>
    obtain ⟨_,_,_,same,_⟩ := record_checked accepted
    cases same
  | .model .. =>
    obtain ⟨_,_,_,same,_⟩ := model_checked accepted
    cases same
  | .orNull inner =>
    rcases orNull_exact.mp accepted with ⟨_,same⟩ | ⟨_,given⟩
    · cases same
    · exact text_checked inner given
  | .orBlank inner =>
    rcases orBlank_exact.mp accepted with ⟨_,same⟩ | ⟨_,given⟩
    · cases same
    · exact text_checked inner given

theorem steady_orNull (steady : IsSteady isMatch s) : IsSteady isMatch (.orNull s) := by
  intro v p accepted
  rcases orNull_exact.mp accepted with ⟨_,rfl⟩ | ⟨_,given⟩
  · rfl
  · apply orNull_exact.mpr
    by_cases null : p.dump = .null
    · exact .inl ⟨null,dump_null null⟩
    · exact .inr ⟨null,steady v p given⟩

theorem steady_orBlank (steady : IsSteady isMatch s) : IsSteady isMatch (.orBlank s) := by
  intro v p accepted
  rcases orBlank_exact.mp accepted with ⟨_,rfl⟩ | ⟨⟨_,solid⟩,given⟩
  · rfl
  · apply orBlank_exact.mpr
    by_cases null : p.dump = .null
    · exact .inl ⟨.inl null,dump_null null⟩
    · refine .inr ⟨⟨null,?_⟩,steady v p given⟩
      intro blank
      obtain rfl := dump_text blank
      exact solid (text_checked s given)

-- A value is made into one number, whichever shape accepts it.
theorem number_accepted {lo hi least most : Option Binary64}
    {isPositive isNumber isInteger positive number integer : Bool}
    (accepted : checkWith isMatch (.number lo hi isPositive isNumber isInteger) v = .ok p)
    (accepts : ∃ q, checkWith isMatch (.number least most positive number integer) v = .ok q) :
    checkWith isMatch (.number least most positive number integer) v = .ok p := by
  obtain ⟨q,again⟩ := accepts
  obtain ⟨x,read,rfl⟩ := number_checked accepted
  obtain ⟨y,reread,rfl⟩ := number_checked again
  obtain rfl := Option.some.inj (read.symm.trans reread)
  exact again

theorem withoutNumberCheck_checked : checkWith isMatch (withoutNumberCheck s) v = .ok p ↔
    checkWith isMatch s v = .ok p := by
  cases s with
  | number lo hi isPositive isNumber isInteger =>
    constructor
    · intro accepted
      exact number_accepted accepted (accepts_withoutNumberCheck.mp ⟨p,accepted⟩)
    · intro accepted
      exact number_accepted accepted (accepts_withoutNumberCheck.mpr ⟨p,accepted⟩)
  | _ => rfl

-- A value in its place is null where that is allowed, or what its own shape makes it.
theorem member_checked {isOptional : Bool} (accepted : checkWith isMatch (ofMember isOptional s) v = .ok p) :
    isOptional = true ∧ p = .value .null ∨ checkWith isMatch s v = .ok p := by
  cases isOptional with
  | false => exact .inr (withoutNumberCheck_checked.mp accepted)
  | true =>
    rcases orBlank_exact.mp accepted with ⟨_,null⟩ | ⟨_,given⟩
    · exact .inl ⟨rfl,null⟩
    · exact .inr given

theorem inner_checked {isOptional : Bool} (accepted : checkWith isMatch (ofInner isOptional s) v = .ok p) :
    isOptional = true ∧ p = .value .null ∨ checkWith isMatch s v = .ok p := by
  cases isOptional with
  | false => exact .inr accepted
  | true =>
    rcases orNull_exact.mp accepted with ⟨_,null⟩ | ⟨_,given⟩
    · exact .inl ⟨rfl,null⟩
    · exact .inr given

theorem steady_inner (isOptional : Bool) (steady : IsSteady isMatch s) : IsSteady isMatch (ofInner isOptional s) := by
  cases isOptional with
  | false => exact steady
  | true => exact steady_orNull steady

theorem steady_member (isOptional : Bool) (steady : IsSteady isMatch s) :
    IsSteady isMatch (ofMember isOptional s) := by
  cases isOptional with
  | false =>
    intro v p accepted
    exact withoutNumberCheck_checked.mpr (steady v p (withoutNumberCheck_checked.mp accepted))
  | true => exact steady_orBlank steady

end Optional

end Shape

end TemplateSchema
