import TemplateSchema.Proofs.Schema.Normalized
import TemplateSchema.Shape.Compile
/-!
What the shape of a declaration is, for each kind of declaration.
-/
set_option autoImplicit false
namespace TemplateSchema.Shape

open Declaration (given? dateBound)

theorem format_exact {keys : Entries} {found : Option Format} (read : format keys = .ok found) :
    found = Normal.formatNamed? (Entries.field keys "format") := by
  unfold format at read
  cases value : Entries.field keys "format" with
  | text s => rw [value] at read; cases read; rfl
  | _ =>
    rw [value] at read
    simp only at read
    split at read
    · cases read; rfl
    · cases read

theorem constraint_exact {α : Type} {keys : Entries} {key : String} {read? : Value → Option α} {found : Option α} :
    constraint? keys key read? = some found ↔
      (given? keys key = none ∧ found = none) ∨
        ∃ v a, given? keys key = some v ∧ read? v = some a ∧ found = some a := by
  unfold constraint?
  cases given? keys key <;> simp [eq_comm]

theorem string_drafted {name : Value} {keys : Entries} {s : Shape}
    (drafted : (draft name (.string keys)).outcome = .ok (some s)) :
    ∃ lo hi, s = .text lo hi (Normal.formatNamed? (Entries.field keys "format")) ∧
      constraint? keys "minLength" length? = some lo ∧ constraint? keys "maxLength" length? = some hi := by
  change (textDraft keys).outcome = _ at drafted
  rw [textDraft,Traced.bind_outcome] at drafted
  obtain ⟨found,formatted,drafted⟩ := drafted
  rw [Traced.ofExcept_outcome] at formatted
  simp only [Traced.pure_outcome,Except.ok.injEq,Option.bind_eq_bind,Option.bind_eq_some_iff,
    Option.some.injEq] at drafted
  obtain ⟨lo,lower,hi,upper,rfl⟩ := drafted
  exact ⟨lo,hi,by rw [format_exact formatted],lower,upper⟩

theorem number_drafted {name : Value} {keys : Entries} {s : Shape}
    (drafted : (draft name (.number keys)).outcome = .ok (some s)) :
    ∃ lo hi, s = .number lo hi (Entries.field keys "positive").isTruthy true (Entries.field keys "integer").isTruthy ∧
      constraint? keys "min" bound? = some lo ∧ constraint? keys "max" bound? = some hi := by
  change Except.ok (numberDraft keys) = _ at drafted
  simp only [numberDraft,Except.ok.injEq,Option.bind_eq_bind,Option.bind_eq_some_iff,
    Option.some.injEq] at drafted
  obtain ⟨lo,lower,hi,upper,rfl⟩ := drafted
  exact ⟨lo,hi,rfl,lower,upper⟩

theorem date_drafted {name : Value} {keys : Entries} {s : Shape}
    (drafted : (draft name (.date keys)).outcome = .ok (some s)) :
    ∃ lo hi, s = .moment lo hi ∧ dateBound keys "min" = .ok lo ∧ dateBound keys "max" = .ok hi := by
  obtain ⟨shape,read,drafted⟩ := Traced.bind_outcome.mp drafted
  rw [Traced.ofExcept_outcome,momentShape,Success.bind_exact] at read
  obtain ⟨lo,lower,read⟩ := read
  rw [Success.bind_exact] at read
  obtain ⟨hi,upper,read⟩ := read
  cases read
  cases drafted
  exact ⟨lo,hi,rfl,lower,upper⟩

theorem array_drafted {name : Value} {keys : Entries} {item : Declaration} {s : Shape}
    (drafted : (draft name (.array keys item)).outcome = .ok (some s)) :
    ∃ lo hi inner, s = .list lo hi (ofInner item.isOptional inner) ∧
      constraint? keys "minItems" length? = some lo ∧ constraint? keys "maxItems" length? = some hi ∧
      (draft (Declaration.itemName name) item).outcome = .ok (some inner) := by
  obtain ⟨inner?,nested,drafted⟩ := Traced.bind_outcome.mp drafted
  simp only [listDraft,Traced.pure_outcome,Except.ok.injEq,Option.bind_eq_bind,Option.bind_eq_some_iff,
    Option.map_eq_some_iff,Option.some.injEq] at drafted
  obtain ⟨_,⟨inner,rfl,rfl⟩,lo,lower,hi,upper,rfl⟩ := drafted
  exact ⟨lo,hi,inner,rfl,lower,upper,nested⟩

theorem build_exact {name : Text} {members : List (Option Slot × Draft)} {s : Shape}
    (built : (build name members).outcome = .ok s) :
    ∃ own usable, name = .whole own ∧ allUsable members = some usable ∧ s = .model own usable := by
  cases name with
  | torn => cases built
  | whole own =>
    simp only [build] at built
    split at built
    · cases built
    · cases usable : allUsable members with
      | none => rw [usable] at built; cases built
      | some found => rw [usable] at built; cases built; exact ⟨own,found,rfl,rfl,rfl⟩

theorem object_drafted {name : Value} {keys : Entries} {properties : List (Value × Declaration)} {s : Shape}
    (drafted : (draft name (.object keys properties)).outcome = .ok (some s)) :
    ∃ model members usable, s = .model model usable ∧ modelName name = .ok (.whole model) ∧
      (drafts 0 properties).outcome = .ok members ∧ allUsable members = some usable := by
  obtain ⟨model,named,drafted⟩ := Traced.bind_outcome.mp drafted
  rw [Traced.bind_outcome] at drafted
  obtain ⟨members,nested,drafted⟩ := drafted
  rw [Traced.bind_outcome] at drafted
  obtain ⟨shape,built,drafted⟩ := drafted
  cases drafted
  obtain ⟨own,usable,rfl,all,rfl⟩ := build_exact built
  rw [Traced.ofExcept_outcome] at named
  exact ⟨own,members,usable,rfl,named,nested,all⟩

theorem enum_drafted {name : Value} {keys : Entries} {s : Shape}
    (drafted : (draft name (.enum keys)).outcome = .ok (some s)) :
    ∃ members, (Entries.field keys "options").membersOrNone? = some members ∧
      (∀ v ∈ members, v.isTorn = false) ∧
      s = if members = [] then anyText else .choice (distinctOptions members) := by
  rw [draft,Traced.ofExcept_outcome,choiceDraft] at drafted
  split at drafted
  · cases drafted
  · rename_i listed
    cases drafted
    exact ⟨[],listed,by simp,by simp⟩
  · rename_i members some_ listed
    split at drafted
    · cases drafted
    rename_i whole
    cases drafted
    have given : members ≠ [] := by
      rintro rfl
      exact some_ rfl
    refine ⟨members,listed,?_,(if_neg given).symm⟩
    simpa using whole

theorem record_drafted {name : Value} {keys : Entries} {value : Declaration} {s : Shape}
    (drafted : (draft name (.record keys value)).outcome = .ok (some s)) :
    ∃ inner, s = .record (ofInner value.isOptional inner) ∧
      (draft (Declaration.valueName name) value).outcome = .ok (some inner) := by
  obtain ⟨inner?,nested,drafted⟩ := Traced.bind_outcome.mp drafted
  simp only [Traced.pure_outcome,Except.ok.injEq,Option.map_eq_some_iff] at drafted
  obtain ⟨_,⟨inner,rfl,rfl⟩,rfl⟩ := drafted
  exact ⟨inner,rfl,nested⟩

theorem unknown_drafted {name : Value} {keys : Entries} {s : Shape}
    (drafted : (draft name (.unknown keys)).outcome = .ok (some s)) : s = anyText := by
  obtain ⟨_,_,drafted⟩ := Traced.bind_outcome.mp drafted
  cases drafted
  rfl

theorem slotKey_text {position : Nat} {text : Text} {key : String}
    (named : slotKey? position (.text text) = some key) : text = key := by
  cases text <;> cases named
  rfl

theorem slot_exact {position : Nat} {name : Value} {d : Declaration} {slot : Slot}
    (read : slot? position name d = some slot) :
    slotKey? position name = some slot.key ∧
      slot.default? = d.default?.or (if d.isOptional then some .null else none) := by
  simp only [slot?,Option.bind_eq_bind,Option.bind_eq_some_iff,Option.some.injEq] at read
  obtain ⟨key,named,rfl⟩ := read
  refine ⟨named,?_⟩
  cases d.default? <;> rfl

-- The first of a model's members and the rest of them.
theorem drafts_cons {position : Nat} {name : Value} {d : Declaration} {rest : List (Value × Declaration)}
    {members : List (Option Slot × Draft)} {usable : List (Slot × Shape)}
    (drafted : (drafts position ((name,d) :: rest)).outcome = .ok members) (all : allUsable members = some usable) :
    ∃ slot s later others, slot? position name d = some slot ∧ (draft name d).outcome = .ok (some s) ∧
      (drafts (position + 1) rest).outcome = .ok later ∧ allUsable later = some others ∧
      usable = (slot,ofMember d.isOptional s) :: others := by
  rw [drafts,Traced.bind_outcome] at drafted
  obtain ⟨inner,compiled,drafted⟩ := drafted
  rw [Traced.bind_outcome] at drafted
  obtain ⟨later,tail,drafted⟩ := drafted
  cases drafted
  simp only [allUsable,Option.bind_eq_bind,Option.bind_eq_some_iff,Option.map_eq_some_iff,Option.some.injEq] at all
  obtain ⟨slot,slotted,_,⟨s,rfl,rfl⟩,others,usables,rfl⟩ := all
  exact ⟨slot,s,later,others,slotted,compiled,tail,usables,rfl⟩

theorem ofSchema_exact {declared : Value} {name : Text} {s : Shape}
    (compiled : (ofSchema declared (.text name)).outcome = .ok s) :
    ∃ own properties members usable, name = .whole own ∧ declarations declared = .ok properties ∧
      (drafts 0 properties).outcome = .ok members ∧ allUsable members = some usable ∧ s = .model own usable := by
  rw [ofSchema,Traced.bind_outcome] at compiled
  obtain ⟨properties,read,compiled⟩ := compiled
  rw [Traced.bind_outcome] at compiled
  obtain ⟨members,nested,built⟩ := compiled
  obtain ⟨own,usable,same,all,rfl⟩ := build_exact built
  rw [Traced.ofExcept_outcome] at read
  exact ⟨own,properties,members,usable,same,read,nested,all,rfl⟩

theorem build_usable {name : String} {members : List (Option Slot × Draft)} {usable : List (Slot × Shape)}
    (all : allUsable members = some usable) (printable : name.toList.contains '\x00' = false) :
    (build name members).outcome = .ok (.model name usable) := by
  simp only [build,printable,all]
  rfl

theorem drafts_built {position : Nat} {name : Value} {d : Declaration} {rest : List (Value × Declaration)}
    {inner : Draft} {others : List (Option Slot × Draft)} (drafted : (draft name d).outcome = .ok inner)
    (tail : (drafts (position + 1) rest).outcome = .ok others) :
    (drafts position ((name,d) :: rest)).outcome =
      .ok ((slot? position name d,inner.map (ofMember d.isOptional)) :: others) :=
  Traced.bind_outcome.mpr ⟨_,drafted,Traced.bind_outcome.mpr ⟨_,tail,rfl⟩⟩

theorem array_built {name : Value} {keys : Entries} {item : Declaration} {inner : Draft}
    (drafted : (draft (Declaration.itemName name) item).outcome = .ok inner) :
    (draft name (.array keys item)).outcome = .ok (listDraft keys (inner.map (ofInner item.isOptional))) :=
  Traced.bind_outcome.mpr ⟨_,drafted,rfl⟩

theorem object_built {name : Value} {keys : Entries} {properties : List (Value × Declaration)} {model : String}
    {members : List (Option Slot × Draft)} {usable : List (Slot × Shape)} (named : modelName name = .ok (.whole model))
    (drafted : (drafts 0 properties).outcome = .ok members) (all : allUsable members = some usable)
    (printable : model.toList.contains '\x00' = false) :
    (draft name (.object keys properties)).outcome = .ok (some (.model model usable)) := by
  refine Traced.bind_outcome.mpr ⟨.whole model,by rw [Traced.ofExcept_outcome,named],?_⟩
  refine Traced.bind_outcome.mpr ⟨members,drafted,?_⟩
  exact Traced.bind_outcome.mpr ⟨_,build_usable all printable,rfl⟩

theorem ofSchema_built {declared : Value} {name : String} {properties : List (Value × Declaration)}
    {members : List (Option Slot × Draft)} {usable : List (Slot × Shape)} (read : declarations declared = .ok properties)
    (drafted : (drafts 0 properties).outcome = .ok members) (all : allUsable members = some usable)
    (printable : name.toList.contains '\x00' = false) :
    (ofSchema declared (.text name)).outcome = .ok (.model name usable) := by
  rw [ofSchema,Traced.bind_outcome]
  refine ⟨properties,by rw [Traced.ofExcept_outcome,read],?_⟩
  rw [Traced.bind_outcome]
  refine ⟨members,drafted,?_⟩
  exact build_usable all printable

end TemplateSchema.Shape
