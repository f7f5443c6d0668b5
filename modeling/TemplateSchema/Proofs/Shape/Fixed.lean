import TemplateSchema.Proofs.Shape.Steady
/-!
What a compiled schema makes of a document it makes of that document again, if no default stands in;
and the document that it makes has the fields of the schema, with the properties of every object in
the order of their declaration.
-/
set_option autoImplicit false
namespace TemplateSchema

section Compiled

open Declaration (IsBare)

variable {isMatch : Format → Text → Bool}

theorem distinct_member {o : Value} {options seen : List Value}
    (member : o ∈ options.foldl
      (fun seen v => if seen.any (Shape.isSameOption · v) then seen else seen ++ [v]) seen) :
    o ∈ seen ∨ o ∈ options := by
  induction options generalizing seen with
  | nil => exact .inl member
  | cons v rest ih =>
    rw [List.foldl_cons] at member
    rcases ih member with old | behind
    · split at old
      · exact .inl old
      · rcases List.mem_append.mp old with old | new
        · exact .inl old
        · exact .inr (List.mem_cons.mpr (.inl (List.mem_singleton.mp new)))
    · exact .inr (List.mem_cons_of_mem _ behind)

theorem option_member {o : Value} {options : List Value} (member : o ∈ Shape.distinctOptions options) :
    o ∈ options := by
  unfold Shape.distinctOptions at member
  split at member
  · exact (distinct_member member).resolve_left List.not_mem_nil
  · exact member

theorem own_keys {position : Nat} {properties : List (Value × Declaration)}
    {drafted : List (Option Slot × Shape.Draft)} {members : List (Slot × Shape)}
    (texts : ∀ property ∈ properties, ∃ name, property.1 = .text name)
    (apart : properties.Pairwise fun property other => Value.same property.1 other.1 = false)
    (compiled : (Shape.drafts position properties).outcome = .ok drafted)
    (all : Shape.allUsable drafted = some members) : Shape.HaveOwnKeys members := by
  rw [Shape.HaveOwnKeys,(Shape.slots_of_declarations texts compiled all).1]
  exact List.pairwise_map.mpr apart

-- Without a default of its own, a member that may be left out is null.
theorem Shape.default_null {d : Declaration} {v : Value} {fallback : Option Value} (undefaulted : d.default? = none)
    (slotted : fallback = d.default?.or (if d.isOptional then some .null else none)) (default_ : fallback = some v) :
    d.isOptional = true ∧ v = .null := by
  rw [slotted,undefaulted,Option.none_or] at default_
  split at default_
  · rename_i optional
    cases default_
    exact ⟨optional,rfl⟩
  · cases default_

mutual

theorem steady_of_declaration : (d : Declaration) → ∀ {name : Value} {s : Shape}, d.Everywhere IsBare →
    (Shape.draft name d).outcome = .ok (some s) → Shape.IsSteady isMatch s
  | .broken _, _, _, _, drafted => by cases drafted
  | .string _, _, _, _, drafted => by
    obtain ⟨_,_,rfl,_⟩ := Shape.string_drafted drafted
    exact Shape.faithful_steady Shape.faithful_text
  | .number _, _, _, _, drafted => by
    obtain ⟨_,_,rfl,_⟩ := Shape.number_drafted drafted
    exact Shape.steady_number
  | .boolean _, _, _, _, drafted => by
    cases drafted
    exact Shape.faithful_steady Shape.faithful_truth
  | .date _, _, _, _, drafted => by
    obtain ⟨_,_,rfl,_⟩ := Shape.date_drafted drafted
    exact Shape.faithful_steady Shape.faithful_moment
  | .array _ item, _, _, bare, drafted => by
    obtain ⟨_,_,s,rfl,_,_,compiled⟩ := Shape.array_drafted drafted
    exact Shape.steady_list (Shape.steady_inner _ (steady_of_declaration item bare.2 compiled))
  | .object _ properties, _, _, bare, drafted => by
    obtain ⟨_,_,_,rfl,_,compiled,all⟩ := Shape.object_drafted drafted
    obtain ⟨texts,apart⟩ := bare.1.named
    exact Shape.steady_model (own_keys texts apart compiled all) (steady_of_declarations properties bare.2 compiled all)
  | .enum _, _, _, bare, drafted => by
    obtain ⟨members,listed,_,rfl⟩ := Shape.enum_drafted drafted
    split
    · exact Shape.faithful_steady Shape.faithful_text
    · apply Shape.faithful_steady
      apply Shape.faithful_choice
      intro o member
      exact bare.typed members listed o (option_member member)
  | .record _ value, _, _, bare, drafted => by
    obtain ⟨s,rfl,compiled⟩ := Shape.record_drafted drafted
    exact Shape.steady_record (Shape.steady_inner _ (steady_of_declaration value bare.2 compiled))
  | .unknown _, _, _, _, drafted => by
    obtain rfl := Shape.unknown_drafted drafted
    exact Shape.faithful_steady Shape.faithful_text

theorem steady_of_declarations : (properties : List (Value × Declaration)) → ∀ {position : Nat}
    {drafted : List (Option Slot × Shape.Draft)} {members : List (Slot × Shape)},
    Declaration.EverywhereIn IsBare properties → (Shape.drafts position properties).outcome = .ok drafted →
      Shape.allUsable drafted = some members → ∀ member ∈ members, Shape.IsSteadyMember isMatch member
  | [], _, _, _, _, compiled, all => by
    cases compiled
    cases all
    simp
  | (name,d) :: rest, _, _, _, bare, compiled, all => by
    obtain ⟨slot,s,_,_,slotted,own,tail,usables,rfl⟩ := Shape.drafts_cons compiled all
    obtain ⟨_,fallback⟩ := Shape.slot_exact slotted
    have steady : Shape.IsSteady isMatch s := steady_of_declaration d bare.1 own
    have others := steady_of_declarations rest bare.2 tail usables
    refine List.forall_mem_cons.mpr ⟨⟨Shape.steady_member _ steady,?_⟩,others⟩
    intro v default_
    obtain ⟨optional,rfl⟩ := Shape.default_null bare.1.here.undefaulted fallback default_
    rw [optional]
    rfl

end

mutual

theorem keyed_of_declaration : (d : Declaration) → ∀ {name v : Value} {s : Shape} {p : Parsed},
    d.Everywhere IsBare → (Shape.draft name d).outcome = .ok (some s) → Shape.checkWith isMatch s v = .ok p →
      d.IsKeyed p.dump
  | .array _ item, _, _, _, _, bare, drafted, accepted => by
    obtain ⟨_,_,s,rfl,_,_,compiled⟩ := Shape.array_drafted drafted
    obtain ⟨items,parsed,rfl,rfl,found,_⟩ := Shape.list_checked accepted
    refine ⟨_,rfl,?_⟩
    intro x member
    obtain ⟨v,p,made,rfl⟩ := Shape.item_made found member
    rcases Shape.inner_checked made with ⟨optional,rfl⟩ | given
    · exact .inl ⟨optional,rfl⟩
    · exact .inr (keyed_of_declaration item bare.2 compiled given)
  | .object _ properties, _, _, _, _, bare, drafted, accepted => by
    obtain ⟨_,_,members,rfl,_,compiled,all⟩ := Shape.object_drafted drafted
    obtain ⟨entries,found,rfl,rfl,each⟩ := Shape.model_checked accepted
    obtain ⟨texts,apart⟩ := bare.1.named
    refine ⟨_,rfl,?_⟩
    rw [Parsed.members_dumped (Shape.members_apart (own_keys texts apart compiled all) each)]
    exact keyed_of_declarations properties bare.2 texts compiled all each
  | .record _ value, _, _, _, _, bare, drafted, accepted => by
    obtain ⟨s,rfl,compiled⟩ := Shape.record_drafted drafted
    obtain ⟨entries,parsed,rfl,rfl,found⟩ := Shape.record_checked accepted
    refine ⟨_,rfl,?_⟩
    intro entry member
    obtain ⟨v,p,made,same⟩ := Shape.record_made found rfl member
    rw [same]
    rcases Shape.inner_checked made with ⟨optional,rfl⟩ | given
    · exact .inl ⟨optional,rfl⟩
    · exact .inr (keyed_of_declaration value bare.2 compiled given)
  | .broken _, _, _, _, _, _, _, _ => trivial
  | .string _, _, _, _, _, _, _, _ => trivial
  | .number _, _, _, _, _, _, _, _ => trivial
  | .boolean _, _, _, _, _, _, _, _ => trivial
  | .date _, _, _, _, _, _, _, _ => trivial
  | .enum _, _, _, _, _, _, _, _ => trivial
  | .unknown _, _, _, _, _, _, _, _ => trivial

theorem keyed_of_declarations : (properties : List (Value × Declaration)) → ∀ {position : Nat}
    {drafted : List (Option Slot × Shape.Draft)} {members : List (Slot × Shape)} {entries : Entries}
    {found : List (String × Parsed)}, Declaration.EverywhereIn IsBare properties →
      (∀ property ∈ properties, ∃ name, property.1 = .text name) →
      (Shape.drafts position properties).outcome = .ok drafted → Shape.allUsable drafted = some members →
      Shape.checkMembers isMatch entries members = .ok found →
      Declaration.AreKeyed properties (found.map fun member => (Value.text member.1,member.2.dump))
  | [], _, _, _, _, _, _, _, compiled, all, accepted => by
    cases compiled
    cases all
    cases accepted
    rfl
  | (key,d) :: rest, _, _, _, _, _, bare, texts, compiled, all, accepted => by
    obtain ⟨⟨name,named⟩,others⟩ := List.forall_mem_cons.mp texts
    obtain rfl : key = .text name := named
    obtain ⟨slot,s,_,_,slotted,own,tail,usables,rfl⟩ := Shape.drafts_cons compiled all
    obtain ⟨keyed,fallback⟩ := Shape.slot_exact slotted
    obtain rfl : name = slot.key := Shape.slotKey_text keyed
    obtain ⟨p,later,made,behind,rfl⟩ := Shape.members_cons.mp accepted
    refine ⟨p.dump,_,rfl,?_,keyed_of_declarations rest bare.2 others tail usables behind⟩
    rcases made with ⟨v,_,accepted⟩ | ⟨_,v,default_,rfl⟩
    · rcases Shape.member_checked accepted with ⟨optional,rfl⟩ | given
      · exact .inl ⟨optional,rfl⟩
      · exact .inr (keyed_of_declaration d bare.1 own given)
    · obtain ⟨optional,rfl⟩ := Shape.default_null bare.1.here.undefaulted fallback default_
      exact .inl ⟨optional,rfl⟩

end

variable {declared : Value} {name : Text} {properties : List (Value × Declaration)} {shape : Shape}
  {entries : Entries} {parsed : Parsed}

-- A model fixes what it makes of a document: it accepts it, makes the same of it, and the document
-- has the fields of the schema.
theorem parsed_fixed (named : Declaration.AreNamed declared) (bare : Declaration.Throughout IsBare declared)
    (read : declarations declared = .ok properties)
    (compiled : (Shape.ofSchema declared (.text name)).outcome = .ok shape)
    (accepted : Shape.checkWith isMatch shape (.map entries) = .ok parsed) :
    ∃ dumped, parsed.dump = .map dumped ∧ Shape.checkWith isMatch shape (.map dumped) = .ok parsed ∧
      Declaration.AreKeyed properties dumped := by
  obtain ⟨own,again,drafted,members,_,reread,drafts,all,rfl⟩ := Shape.ofSchema_exact compiled
  obtain rfl := Except.ok.inj (read.symm.trans reread)
  obtain ⟨texts,apart⟩ := named properties read
  have distinct := own_keys texts apart drafts all
  have each := bare properties read
  obtain ⟨_,found,same,rfl,made⟩ := Shape.model_checked accepted
  cases same
  refine ⟨_,rfl,Shape.steady_model distinct (steady_of_declarations properties each drafts all) _ _ accepted,?_⟩
  rw [Parsed.members_dumped (Shape.members_apart distinct made)]
  exact keyed_of_declarations properties each texts drafts all made

end Compiled

section Floors

def roomProperties : List (Value × Declaration) := [
  (.text "size",.number [(.text "type",.text "number"),(.text "min",.int 0)]),
  (.text "use",.enum [(.text "type",.text "enum"),(.text "options",.list [.text "kitchen",.text "attic"]),
    (.text "optional",.bool true)])]

def roomKeys : Entries :=
  [(.text "type",.text "object"),(.text "properties",.map [
    (.text "size",.map [(.text "type",.text "number"),(.text "min",.int 0)]),
    (.text "use",.map [(.text "type",.text "enum"),(.text "options",.list [.text "kitchen",.text "attic"]),
      (.text "optional",.bool true)])])]

def noteKeys : Entries :=
  [(.text "type",.text "string"),(.text "optional",.bool true)]

-- The rooms of a floor, its height if it is known, and notes on it.
def floorSchema : Value :=
  .map [(.text "fields",.map [
    (.text "rooms",.map [(.text "type",.text "array"),(.text "items",.map roomKeys)]),
    (.text "height",.map [(.text "type",.text "number"),(.text "optional",.bool true)]),
    (.text "notes",.map [(.text "type",.text "record"),(.text "values",.map noteKeys)])])]

def floorProperties : List (Value × Declaration) := [
  (.text "rooms",.array [(.text "type",.text "array"),(.text "items",.map roomKeys)] (.object roomKeys roomProperties)),
  (.text "height",.number [(.text "type",.text "number"),(.text "optional",.bool true)]),
  (.text "notes",.record [(.text "type",.text "record"),(.text "values",.map noteKeys)] (.string noteKeys))]

def sizeShape : Shape :=
  .number (some (Binary64.zero false)) none false true false

def roomShape : Shape :=
  .model "RoomsItemObject" [
    (⟨"size",none⟩,sizeShape),
    (⟨"use",some .null⟩,.orBlank (.choice [.text "kitchen",.text "attic"]))]

def floorShape : Shape :=
  .model "Floor" [
    (⟨"rooms",none⟩,.list none none roomShape),
    (⟨"height",some .null⟩,.orBlank (.number none none false true false)),
    (⟨"notes",none⟩,.record (.orNull Shape.anyText))]

-- A room with its size behind its use, and a key that is not declared.
def room : Entries :=
  [(.text "use",.text ""),(.text "size",.int 12),(.text "light",.bool true)]

def floor : Entries :=
  [(.text "notes",.map [(.text "door",.null)]),(.text "colour",.text "red"),(.text "rooms",.list [.map room])]

def twelve : Binary64 :=
  .finite false 6755399441055744 (-49) (by decide)

def roomParsed : Parsed :=
  .model [("size",.value (.float twelve)),("use",.value .null)]

def floorParsed : Parsed :=
  .model [("rooms",.list [roomParsed]),("height",.value .null),("notes",.record [(.text "door",.value .null)])]

theorem floor_declared : declarations floorSchema = .ok floorProperties := by
  cbv

theorem floor_named : Declaration.AreNamed floorSchema := by
  intro properties read
  obtain rfl := Except.ok.inj (floor_declared.symm.trans read)
  simp [floorProperties,Value.same_text]

theorem floor_bare : Declaration.Throughout Declaration.IsBare floorSchema := by
  rw [Declaration.throughout_exact floor_declared]
  simp [floorProperties,roomProperties,roomKeys,noteKeys,Declaration.EverywhereIn,Declaration.Everywhere,
    Declaration.bare_exact,WellTyped,IsFlag,HasTextOptions,Declaration.HasDistinctNames,Declaration.default?,
    Declaration.keys,Declaration.defaultKey,Declaration.given?,Entries.field?,Entries.field,Entries.getOrNull,
    Entries.get?,Value.same,Value.sameScalar,Value.count?,Value.membersOrNone?,Value.members?,Value.isTruthy]

theorem room_named : Shape.modelName (Declaration.itemName (.text "rooms")) = .ok "RoomsItemObject" := by
  have capital : Shape.capitalized "roomsItem" = "RoomsItem" := by decide +kernel
  change Except.ok (Shape.capitalized ("rooms" ++ "Item") ++ "Object") = _
  rw [Text.whole_append,show "rooms" ++ "Item" = "roomsItem" by decide,capital]
  rfl

theorem room_drafted : (Shape.draft (Declaration.itemName (.text "rooms"))
    (.object roomKeys roomProperties)).outcome = .ok (some roomShape) :=
  Shape.object_built room_named (by cbv) rfl (by decide)

theorem floor_compiled : (Shape.ofSchema floorSchema (.text "Floor")).outcome = .ok floorShape :=
  Shape.ofSchema_built floor_declared (Shape.drafts_built (Shape.array_built room_drafted) (by cbv)) (by cbv)
    (by decide)

theorem size_parsed : Shape.checkWith Format.isMatch sizeShape (.int 12) = .ok (.value (.float twelve)) := by
  have number : Shape.float? (.int 12) = some twelve := by decide +kernel
  have least : (Binary64.zero false).le twelve = true := by decide +kernel
  have some_ : twelve.isNaN = false := rfl
  change Shape.checkNumber _ _ _ _ _ _ = _
  simp [Shape.checkNumber,number,Shape.unlessFlawed,Shape.firstFlaw,Shape.flawIf,least,some_]

theorem room_parsed : Shape.checkWith Format.isMatch roomShape (.map room) = .ok roomParsed :=
  Success.map_exact.mpr ⟨_,Shape.members_cons.mpr ⟨_,_,.inl ⟨_,by cbv,size_parsed⟩,by cbv,rfl⟩,rfl⟩

theorem floor_parsed : Shape.checkWith Format.isMatch floorShape (.map floor) = .ok floorParsed := by
  have rooms : Shape.checkWith Format.isMatch (.list none none roomShape) (.list [.map room]) =
      .ok (.list [roomParsed]) := by
    rw [Shape.checkWith,Shape.items_cons.mpr ⟨_,_,room_parsed,rfl,rfl⟩]
    rfl
  exact Success.map_exact.mpr ⟨_,Shape.members_cons.mpr ⟨_,_,.inl ⟨_,by cbv,rooms⟩,by cbv,rfl⟩,rfl⟩

theorem floor_fixed : ∃ dumped, floorParsed.dump = .map dumped ∧
    Shape.checkWith Format.isMatch floorShape (.map dumped) = .ok floorParsed ∧
    Declaration.AreKeyed floorProperties dumped :=
  parsed_fixed floor_named floor_bare floor_declared floor_compiled floor_parsed

end Floors

end TemplateSchema
