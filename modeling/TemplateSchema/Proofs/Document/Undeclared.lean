import TemplateSchema.Proofs.Shape.Fixed
/-!
Keys that no one has declared. Documents that have the same under every declared key, at every level
where keys are declared, are told apart neither by the judge nor by the model of their schema. In a
record, every key counts, and so does the order of the entries.
-/
set_option autoImplicit false
namespace TemplateSchema

namespace Declaration

-- Values that differ in undeclared keys of objects and in the order of their keys, if at all.
mutual

def Alike : Declaration → Value → Value → Prop
  | .array _ item, v, w => v = w ∨ ∃ xs ys, v = .list xs ∧ w = .list ys ∧ List.Forall₂ (Alike item) xs ys
  | .object _ properties, v, w => v = w ∨ ∃ es fs, v = .map es ∧ w = .map fs ∧ AlikeIn properties es fs
  | .record _ value, v, w => v = w ∨ ∃ es fs, v = .map es ∧ w = .map fs ∧
      List.Forall₂ (fun e f => e.1 = f.1 ∧ Alike value e.2 f.2) es fs
  | _, v, w => v = w

def AlikeIn : List (Value × Declaration) → Entries → Entries → Prop
  | [], _, _ => True
  | (name,d) :: rest, es, fs =>
    Option.Rel (Alike d) (Entries.get? es name) (Entries.get? fs name) ∧ AlikeIn rest es fs

end

theorem alike_refl (d : Declaration) (v : Value) : d.Alike v v := by
  cases d with
  | array keys item => exact .inl rfl
  | object keys properties => exact .inl rfl
  | record keys value => exact .inl rfl
  | _ => rfl

theorem same_under {d : Declaration} {x y : Option Value} (same : x = y) : Option.Rel d.Alike x y := by
  rw [same]
  cases y with
  | none => exact .none
  | some v => exact .some (alike_refl d v)

-- Mappings with the same entries under declared keys, in whatever order and among whatever others.
theorem alike_reordered {properties : List (Value × Declaration)} {es fs : Entries} (left : Entries.AreDistinct es)
    (right : Entries.AreDistinct fs) (texts : ∀ property ∈ properties, ∃ name, property.1 = .text name)
    (same : ∀ property ∈ properties, ∀ v, (property.1,v) ∈ es ↔ (property.1,v) ∈ fs) :
    AlikeIn properties es fs := by
  induction properties with
  | nil => trivial
  | cons property rest ih =>
    obtain ⟨key,d⟩ := property
    obtain ⟨⟨name,named⟩,others⟩ := List.forall_mem_cons.mp texts
    obtain rfl : key = .text name := named
    obtain ⟨here,behind⟩ := List.forall_mem_cons.mp same
    refine ⟨same_under ?_,ih others behind⟩
    apply Option.ext
    intro v
    constructor
    · intro found
      exact Entries.entry_found right ((here v).mp (Entries.found_entry found))
    · intro found
      exact Entries.entry_found left ((here v).mpr (Entries.found_entry found))

end Declaration

namespace Value

def IsCompound (v : Value) : Prop :=
  (∃ items, v = .list items ∨ v = .tuple items) ∨ ∃ entries, v = .map entries

end Value

theorem Declaration.alike_compound {d : Declaration} {v w : Value} (alike : d.Alike v w) :
    v = w ∨ v.IsCompound ∧ w.IsCompound := by
  cases d with
  | array keys item =>
    rcases alike with same | ⟨xs,ys,left,right,_⟩
    · exact .inl same
    · exact .inr ⟨.inl ⟨xs,.inl left⟩,.inl ⟨ys,.inl right⟩⟩
  | object keys properties =>
    rcases alike with same | ⟨es,fs,left,right,_⟩
    · exact .inl same
    · exact .inr ⟨.inr ⟨es,left⟩,.inr ⟨fs,right⟩⟩
  | record keys value =>
    rcases alike with same | ⟨es,fs,left,right,_⟩
    · exact .inl same
    · exact .inr ⟨.inr ⟨es,left⟩,.inr ⟨fs,right⟩⟩
  | _ => exact .inl alike

section Parts

variable {xs ys : List Value} {es fs : Entries}

theorem Document.firstItem_congr {judge : Value → Option Complaint} (position : Nat)
    (same : List.Forall₂ (fun v w => judge v = judge w) xs ys) :
    firstItem judge position xs = firstItem judge position ys := by
  induction same generalizing position with
  | nil => rfl
  | cons first _ ih => rw [firstItem,firstItem,first,ih]

theorem Document.firstEntry_congr {judge : Value → Option Complaint}
    (same : List.Forall₂ (fun e f => e.1 = f.1 ∧ judge e.2 = judge f.2) es fs) :
    firstEntry judge es = firstEntry judge fs := by
  induction same with
  | nil => rfl
  | cons first _ ih => rw [firstEntry,firstEntry,first.1,first.2,ih]

theorem Shape.checkItems_congr {check : Value → Checked Parsed} (position : Nat)
    (same : List.Forall₂ (fun v w => check v = check w) xs ys) :
    checkItems check position xs = checkItems check position ys := by
  induction same generalizing position with
  | nil => rfl
  | cons first _ ih => rw [checkItems,checkItems,first,ih]

theorem Shape.checkEntries_congr {check : Value → Checked Parsed}
    (same : List.Forall₂ (fun e f => e.1 = f.1 ∧ check e.2 = check f.2) es fs) :
    checkEntries check es = checkEntries check fs := by
  induction same with
  | nil => rfl
  | cons first _ ih => rw [checkEntries,checkEntries,first.1,first.2,ih]

end Parts

-- Lists, tuples and mappings are neither null nor empty text, and no numbers.
section Compounds

variable {isMatch : Format → Text → Bool} {f : Field} {s : Shape} {v w : Value}

theorem Document.compound_full (compound : v.IsCompound) : isEmpty v = false := by
  rcases compound with ⟨items,rfl | rfl⟩ | ⟨entries,rfl⟩
  · rfl
  · rfl
  · rfl

theorem Shape.compound_orNull (compound : v.IsCompound) :
    checkWith isMatch (.orNull s) v = checkWith isMatch s v := by
  rcases compound with ⟨items,rfl | rfl⟩ | ⟨entries,rfl⟩
  · rfl
  · rfl
  · rfl

theorem Shape.compound_orBlank (compound : v.IsCompound) :
    checkWith isMatch (.orBlank s) v = checkWith isMatch s v := by
  rcases compound with ⟨items,rfl | rfl⟩ | ⟨entries,rfl⟩
  · rfl
  · rfl
  · rfl

theorem Shape.compound_number {lo hi : Option Binary64} {isPositive isNumber isInteger : Bool}
    (compound : v.IsCompound) : checkWith isMatch (.number lo hi isPositive isNumber isInteger) v = flaw .number := by
  rcases compound with ⟨items,rfl | rfl⟩ | ⟨entries,rfl⟩
  · rfl
  · rfl
  · rfl

variable (alike : v = w ∨ v.IsCompound ∧ w.IsCompound)

include alike

theorem Document.unlessEmpty_congr (same : judge f v = judge f w) :
    unlessEmpty f v (judge f v) = unlessEmpty f w (judge f w) := by
  rcases alike with rfl | ⟨left,right⟩
  · rfl
  · unfold unlessEmpty
    rw [compound_full left,compound_full right,same]

theorem Shape.inner_congr (isOptional : Bool) (same : checkWith isMatch s v = checkWith isMatch s w) :
    checkWith isMatch (ofInner isOptional s) v = checkWith isMatch (ofInner isOptional s) w := by
  rcases alike with rfl | ⟨left,right⟩
  · rfl
  · cases isOptional with
    | false => exact same
    | true => rw [ofInner,if_pos rfl,compound_orNull left,compound_orNull right,same]

theorem Shape.member_congr (isOptional : Bool) (same : checkWith isMatch s v = checkWith isMatch s w) :
    checkWith isMatch (ofMember isOptional s) v = checkWith isMatch (ofMember isOptional s) w := by
  rcases alike with rfl | ⟨left,right⟩
  · rfl
  · cases isOptional with
    | true => rw [ofMember,if_pos rfl,compound_orBlank left,compound_orBlank right,same]
    | false =>
      cases s with
      | number lo hi isPositive isNumber isInteger => exact (compound_number left).trans (compound_number right).symm
      | _ => exact same

end Compounds

-- Neither the judge nor the check of a shape tells the values apart.
structure Indistinct (isMatch : Format → Text → Bool) (f : Field) (s : Shape) (v w : Value) : Prop where
  judged : Document.judge f v = Document.judge f w
  checked : Shape.checkWith isMatch s v = Shape.checkWith isMatch s w

section Indistinct

open Declaration (Alike AlikeIn)

variable {isMatch : Format → Text → Bool}

theorem indistinct_refl {f : Field} {s : Shape} {v w : Value} (same : v = w) : Indistinct isMatch f s v w := by
  rw [same]
  exact ⟨rfl,rfl⟩

theorem indistinct_lists {h : Header} {lo hi : Option Int} {least most : Option Nat} {item : Field} {s : Shape}
    {xs ys : List Value} (each : List.Forall₂ (Indistinct isMatch item s) xs ys) :
    Indistinct isMatch (.array h lo hi item) (.list least most s) (.list xs) (.list ys) := by
  have length := each.length_eq
  have judged := Document.firstItem_congr 1 (each.imp fun _ _ same => same.judged)
  have checked := Shape.checkItems_congr 0 (each.imp fun _ _ same => same.checked)
  constructor
  · simp only [Document.judge,length,judged]
  · simp only [Shape.checkWith,checked,Shape.list_length length]

theorem indistinct_records {h : Header} {inner : Field} {s : Shape} {es fs : Entries}
    (each : List.Forall₂ (fun e f => e.1 = f.1 ∧ Indistinct isMatch inner s e.2 f.2) es fs) :
    Indistinct isMatch (.record h inner) (.record s) (.map es) (.map fs) := by
  have judged := Document.firstEntry_congr (each.imp fun _ _ same => ⟨same.1,same.2.judged⟩)
  have checked := Shape.checkEntries_congr (each.imp fun _ _ same => ⟨same.1,same.2.checked⟩)
  constructor
  · simp only [Document.judge,judged]
  · simp only [Shape.checkWith,checked]

-- What stands under a declared key, or null, is judged alike.
theorem property_congr {d : Declaration} {f : Field} {x y : Option Value} (under : Option.Rel d.Alike x y)
    (each : ∀ v w, d.Alike v w → Document.judge f v = Document.judge f w) :
    Document.unlessEmpty f (x.getD .null) (Document.judge f (x.getD .null)) =
      Document.unlessEmpty f (y.getD .null) (Document.judge f (y.getD .null)) := by
  cases under with
  | none => rfl
  | some alike => exact Document.unlessEmpty_congr (Declaration.alike_compound alike) (each _ _ alike)

theorem member_congr {d : Declaration} {s : Shape} {slot : Slot} {members : List (Slot × Shape)} {es fs : Entries}
    (under : Option.Rel d.Alike (Entries.field? es slot.key) (Entries.field? fs slot.key))
    (each : ∀ v w, d.Alike v w → Shape.checkWith isMatch s v = Shape.checkWith isMatch s w)
    (others : Shape.checkMembers isMatch es members = Shape.checkMembers isMatch fs members) :
    Shape.checkMembers isMatch es ((slot,Shape.ofMember d.isOptional s) :: members) =
      Shape.checkMembers isMatch fs ((slot,Shape.ofMember d.isOptional s) :: members) := by
  rw [Shape.checkMembers,Shape.checkMembers,others]
  generalize Entries.field? es slot.key = x at under ⊢
  generalize Entries.field? fs slot.key = y at under ⊢
  cases under with
  | none => rfl
  | some alike => simp only [Shape.member_congr (Declaration.alike_compound alike) _ (each _ _ alike)]

mutual

theorem alike_indistinct : (d : Declaration) → ∀ {name : Value} {f : Field} {s : Shape} {v w : Value},
    (Normal.field name d).outcome = .ok f → (Shape.draft name d).outcome = .ok (some s) → d.Alike v w →
      Indistinct isMatch f s v w
  | .array _ item, _, _, _, _, _, read, drafted, alike => by
    obtain ⟨_,_,s,rfl,_,_,compiled⟩ := Shape.array_drafted drafted
    cases Normal.field_exact read with
    | array head lower upper nested =>
      rcases alike with same | ⟨xs,ys,rfl,rfl,each⟩
      · exact indistinct_refl same
      · apply indistinct_lists
        refine each.imp ?_
        intro x y alike
        have same := alike_indistinct item nested compiled alike
        exact ⟨same.judged,Shape.inner_congr (Declaration.alike_compound alike) _ same.checked⟩
  | .object _ properties, _, _, _, _, _, read, drafted, alike => by
    obtain ⟨_,_,members,rfl,_,compiled,all⟩ := Shape.object_drafted drafted
    cases Normal.field_exact read with
    | object head nested =>
      rcases alike with same | ⟨es,fs,rfl,rfl,each⟩
      · exact indistinct_refl same
      · obtain ⟨judged,checked⟩ := alike_members properties nested compiled all each
        constructor
        · exact judged
        · exact congrArg (Except.map Parsed.model) checked
  | .record _ value, _, _, _, _, _, read, drafted, alike => by
    obtain ⟨s,rfl,compiled⟩ := Shape.record_drafted drafted
    cases Normal.field_exact read with
    | record head nested =>
      rcases alike with same | ⟨es,fs,rfl,rfl,each⟩
      · exact indistinct_refl same
      · apply indistinct_records
        refine each.imp ?_
        intro e f both
        obtain ⟨key,alike⟩ := both
        have same := alike_indistinct value nested compiled alike
        exact ⟨key,same.judged,Shape.inner_congr (Declaration.alike_compound alike) _ same.checked⟩
  | .broken _, _, _, _, _, _, _, _, same => indistinct_refl same
  | .string _, _, _, _, _, _, _, _, same => indistinct_refl same
  | .number _, _, _, _, _, _, _, _, same => indistinct_refl same
  | .boolean _, _, _, _, _, _, _, _, same => indistinct_refl same
  | .date _, _, _, _, _, _, _, _, same => indistinct_refl same
  | .enum _, _, _, _, _, _, _, _, same => indistinct_refl same
  | .unknown _, _, _, _, _, _, _, _, same => indistinct_refl same

theorem alike_members : (properties : List (Value × Declaration)) → ∀ {position : Nat} {fields : List Field}
    {drafted : List (Option Slot × Shape.Draft)} {members : List (Slot × Shape)} {es fs : Entries},
    (Normal.fieldsOf properties).outcome = .ok fields → (Shape.drafts position properties).outcome = .ok drafted →
      Shape.allUsable drafted = some members → AlikeIn properties es fs →
      Document.firstProperty es fields = Document.firstProperty fs fields ∧
        Shape.checkMembers isMatch es members = Shape.checkMembers isMatch fs members
  | [], _, _, _, _, _, _, read, compiled, all, _ => by
    cases read
    cases compiled
    cases all
    exact ⟨rfl,rfl⟩
  | (key,d) :: rest, _, _, _, _, es, fs, read, compiled, all, alike => by
    obtain ⟨f,fields,first,others,rfl⟩ := Normal.fieldsOf_cons.mp read
    obtain ⟨slot,s,_,_,slotted,own,tail,usables,rfl⟩ := Shape.drafts_cons compiled all
    obtain ⟨judged,checked⟩ := alike_members rest others tail usables alike.2
    obtain ⟨rfl,same⟩ := slot_named (Normal.field_header first).1 (Shape.slot_exact slotted).1
    have each {v w : Value} (alike : d.Alike v w) : Indistinct isMatch f s v w := alike_indistinct d first own alike
    constructor
    · have here := property_congr alike.1 fun _ _ alike => (each alike).judged
      simp only [Document.firstProperty,Entries.field,Entries.getOrNull,here,judged]
    · apply member_congr _ (fun _ _ alike => (each alike).checked) checked
      rw [same]
      exact alike.1

end

theorem rows_congr {properties : List (Value × Declaration)} {position : Nat} {schema : Schema}
    {drafted : List (Option Slot × Shape.Draft)} {members : List (Slot × Shape)} {es fs : Entries}
    (read : (Normal.schemaOf properties).outcome = .ok schema)
    (compiled : (Shape.drafts position properties).outcome = .ok drafted)
    (all : Shape.allUsable drafted = some members) (alike : AlikeIn properties es fs) : ∀ row ∈ schema,
    Document.unlessEmpty row.2 (Entries.getOrNull es row.1) (Document.judge row.2 (Entries.getOrNull es row.1)) =
      Document.unlessEmpty row.2 (Entries.getOrNull fs row.1) (Document.judge row.2 (Entries.getOrNull fs row.1)) := by
  induction properties generalizing position schema drafted members with
  | nil => cases read; simp
  | cons property rest ih =>
    obtain ⟨key,d⟩ := property
    obtain ⟨f,rows,first,others,rfl⟩ := Normal.schemaOf_cons.mp read
    obtain ⟨slot,s,_,_,slotted,own,tail,usables,rfl⟩ := Shape.drafts_cons compiled all
    refine List.forall_mem_cons.mpr ⟨property_congr alike.1 ?_,ih others tail usables alike.2⟩
    intro v w alike
    have same : Indistinct Format.isMatch f s v w := alike_indistinct d first own alike
    exact same.judged

variable {declared : Value} {name : Text} {schema : Schema} {shape : Shape} {es fs : Entries}
  {properties : List (Value × Declaration)}

-- Neither engine looks at keys that are not declared, nor at the order of those that are.
theorem undeclared_ignored (normalized : (Normal.schema declared).outcome = .ok schema)
    (compiled : (Shape.ofSchema declared (.text name)).outcome = .ok shape)
    (read : declarations declared = .ok properties) (alike : AlikeIn properties es fs) :
    Document.validate schema (.map es) = Document.validate schema (.map fs) ∧
      Shape.report isMatch shape (.map es) = Shape.report isMatch shape (.map fs) ∧
      Shape.checkWith isMatch shape (.map es) = Shape.checkWith isMatch shape (.map fs) := by
  obtain ⟨again,reread,rows⟩ := Normal.schema_exact.mp normalized
  obtain rfl := Except.ok.inj (read.symm.trans reread)
  obtain ⟨own,again,drafted,members,_,reread,drafts,all,rfl⟩ := Shape.ofSchema_exact compiled
  obtain rfl := Except.ok.inj (read.symm.trans reread)
  have checked : Shape.checkWith isMatch (.model own members) (.map es) =
      Shape.checkWith isMatch (.model own members) (.map fs) :=
    congrArg (Except.map Parsed.model) (alike_members properties (Normal.schemaOf_exact rows).1 drafts all alike).2
  refine ⟨?_,?_,checked⟩
  · rw [Document.validate_map,Document.validate_map,Document.complaints,Document.complaints]
    apply congrArg Except.ok
    apply List.filterMap_congr
    intro row member
    exact congrArg (Option.map _) (rows_congr rows drafts all alike row member)
  · rw [Shape.report,Shape.report,checked]

end Indistinct

section Floors

def floorFields : Schema := [
  (.text "rooms",.array ⟨"rooms","",false,none⟩ none none (.object ⟨"roomsItem","",false,none⟩ [
    .number ⟨"size","",false,none⟩ (some (.int 0)) none none none,
    .enum ⟨"use","",true,none⟩ ["kitchen","attic"]])),
  (.text "height",.number ⟨"height","",true,none⟩ none none none none),
  (.text "notes",.record ⟨"notes","",false,none⟩ (.string ⟨"notesValue","",true,none⟩ none none none))]

-- The same room and the same floor, with other keys around what is declared and in another order.
def sameRoom : Entries :=
  [(.text "size",.int 12),(.int 7,.text "seven"),(.text "use",.text "")]

def sameFloor : Entries :=
  [(.text "rooms",.list [.map sameRoom]),(.text "notes",.map [(.text "door",.null)])]

theorem floor_normalized : (Normal.schema floorSchema).outcome = .ok floorFields := by
  cbv

theorem room_reordered : Declaration.AlikeIn roomProperties room sameRoom := by
  apply Declaration.alike_reordered
  · simp [Entries.AreDistinct,room,Value.same_text]
  · simp [Entries.AreDistinct,sameRoom,Value.same,Value.sameScalar,Value.count?]
  · simp [roomProperties]
  · simp [roomProperties,room,sameRoom]

theorem floor_alike : Declaration.AlikeIn floorProperties floor sameFloor := by
  have rooms : Entries.get? floor (.text "rooms") = some (.list [.map room]) := by cbv
  have others : Entries.get? sameFloor (.text "rooms") = some (.list [.map sameRoom]) := by cbv
  refine ⟨?_,Declaration.same_under (by cbv),Declaration.same_under (by cbv),trivial⟩
  rw [rooms,others]
  exact .some (.inr ⟨_,_,rfl,rfl,.cons (.inr ⟨_,_,rfl,rfl,room_reordered⟩) .nil⟩)

theorem floor_indistinct :
    Document.validate floorFields (.map floor) = Document.validate floorFields (.map sameFloor) ∧
    Shape.report Format.isMatch floorShape (.map floor) = Shape.report Format.isMatch floorShape (.map sameFloor) ∧
    Shape.checkWith Format.isMatch floorShape (.map floor) =
      Shape.checkWith Format.isMatch floorShape (.map sameFloor) :=
  undeclared_ignored floor_normalized floor_compiled floor_declared floor_alike

end Floors

end TemplateSchema
