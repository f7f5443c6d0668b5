import TemplateSchema.Proofs.Chain.WellFormed
import TemplateSchema.Proofs.Schema.Restored
import TemplateSchema.Proofs.Schema.Written
/-!
From chains to fields. Where the bounds fit, what a chain declares is normalized under every name, to a
field of the same types at every depth. A text is therefore no chain that means something, or it
declares a field that is well formed.
-/
set_option autoImplicit false
namespace TemplateSchema

namespace Declaration

theorem given_found {keys : Entries} {key : String} {v : Value} (given : given? keys key = some v) :
    Entries.field? keys key = some v ∧ v ≠ .null := by
  unfold given? at given
  split at given
  · cases given
  · rename_i some_
    refine ⟨given,?_⟩
    intro null
    rw [null] at given
    exact some_ given

end Declaration

namespace Chain

open Declaration (given?)

variable {d : Entries} {kind : Kind}

theorem type_read (typed : HasType d kind) : Kind.read? (Entries.field d Declaration.typeKey) = some kind := by
  have found : Entries.field d Declaration.typeKey = .text kind.name := Entries.field_found typed
  rw [found]
  exact Field.type_reread kind

section Readings

variable {agreed : Prop} {key stored low high : String}

theorem headerWith_described (name : Text) (default? : Option Value) (annotated : IsAnnotated agreed kind d) :
    ∃ h, Normal.headerWith (.text name) d default? = .ok h := by
  have described : ∃ s, Normal.description d = .text s := by
    change ∃ s, (if (Entries.field d Declaration.descriptionKey).isTruthy then
      Entries.field d Declaration.descriptionKey else .text "") = .text s
    split
    · rename_i truthy
      cases found : Entries.field? d Declaration.descriptionKey with
      | none =>
        rw [Entries.field_missing found] at truthy
        cases truthy
      | some v =>
        rw [Entries.field_found found]
        exact annotated.description v found
    · exact ⟨"",rfl⟩
  obtain ⟨s,same⟩ := described
  exact ⟨_,by rw [Normal.headerWith,same]; rfl⟩

theorem constraint_read {α : Type} {read : Value → Reading α}
    (reads : ∀ v, Entries.field? d key = some v → v ≠ .null → ∃ a, read v = .ok a) :
    ∃ found, Normal.constraint d key stored read = .ok found := by
  cases given : given? d key with
  | none => exact ⟨none,Normal.constraint_exact.mpr (.inl ⟨given,rfl⟩)⟩
  | some v =>
    obtain ⟨found,some_⟩ := Declaration.given_found given
    obtain ⟨a,read_⟩ := reads v found some_
    exact ⟨some a,Normal.constraint_exact.mpr (.inr ⟨v,a,given,read_,rfl⟩)⟩

theorem integer_counted {v : Value} {n : Int} (counts : v.count? = some n) : Attribute.integer v = .ok n := by
  cases v <;> cases counts <;> rfl

theorem size_read (annotated : IsAnnotated True kind d) (keys : boundKeys? kind = some (low,high))
    (side : key = low ∨ key = high) (sized : kind = .string ∨ kind = .array) :
    ∃ found, Normal.constraint d key stored Attribute.integer = .ok found := by
  apply constraint_read
  intro v found some_
  have fits := annotated.bounds trivial low high keys key side v found
  rcases sized with rfl | rfl
  · rcases fits with null | ⟨n,counts⟩
    · exact absurd null some_
    · exact ⟨n,integer_counted counts⟩
  · rcases fits with null | ⟨n,counts⟩
    · exact absurd null some_
    · exact ⟨n,integer_counted counts⟩

theorem quantity_read (annotated : IsAnnotated True .number d) (side : key = "min" ∨ key = "max") :
    ∃ found, Normal.constraint d key stored Attribute.quantity = .ok found := by
  apply constraint_read
  intro v found some_
  rcases annotated.bounds trivial "min" "max" rfl key side v found with null | ⟨n,counts⟩ | ⟨x,rfl⟩
  · exact absurd null some_
  · cases v <;> cases counts <;> exact ⟨_,rfl⟩
  · exact ⟨_,rfl⟩

theorem dateBound_read (annotated : IsAnnotated True .date d) (side : key = "min" ∨ key = "max") :
    ∃ found, Declaration.dateBound d key = .ok found := by
  unfold Declaration.dateBound
  cases given : given? d key with
  | none => exact ⟨none,rfl⟩
  | some v =>
    obtain ⟨found,some_⟩ := Declaration.given_found given
    rcases annotated.bounds trivial "min" "max" rfl key side v found with null | ⟨s,m,rfl,read⟩
    · exact absurd null some_
    · exact ⟨some m,by simp only [Value.toMoment_text.mpr read]; rfl⟩

theorem truth_read (isFlag : ∀ v, Entries.field? d key = some v → v = .bool true) :
    ∃ found, Normal.constraint d key stored Attribute.truth = .ok found := by
  apply constraint_read
  intro v found _
  rw [isFlag v found]
  exact ⟨true,rfl⟩

theorem format_read (name : Text) (annotated : IsAnnotated agreed kind d) :
    ∃ found, (Normal.format (.text name) d).outcome = .ok found := by
  unfold Normal.format
  cases given : given? d "format" with
  | none => exact ⟨none,rfl⟩
  | some v =>
    obtain ⟨s,rfl⟩ := annotated.format v (Declaration.given_found given).1
    cases named : Format.ofText? s with
    | none => exact ⟨none,by simp only [Normal.formatOf,named]; rfl⟩
    | some f => exact ⟨some f,by simp only [Normal.formatOf,named]; rfl⟩

end Readings

-- A field of the types that are declared, at every depth.
inductive SameTypes : Entries → Field → Prop where
  | scalar {d : Entries} {f : Field} (typed : HasType d f.kind) (isScalar : IsScalar f.kind) : SameTypes d f
  | enum {d : Entries} {h : Header} {options : List Text} (typed : HasType d .enum)
      (listed : Entries.field? d "options" = some (.list (options.map Value.text))) : SameTypes d (.enum h options)
  | array {d item : Entries} {h : Header} {lo hi : Option Int} {inner : Field} (typed : HasType d .array)
      (items : Entries.field? d "items" = some (.map item)) (nested : SameTypes item inner) :
      SameTypes d (.array h lo hi inner)
  | object {d : Entries} {h : Header} {rows : List (Entries × Field)} (typed : HasType d .object)
      (declared : Entries.field? d "properties" = some (.map (rows.map fun row => (.text row.2.name,.map row.1))))
      (nested : ∀ row ∈ rows, SameTypes row.1 row.2) : SameTypes d (.object h (rows.map Prod.snd))
  | record {d value : Entries} {h : Header} {inner : Field} (typed : HasType d .record)
      (values : Entries.field? d "values" = some (.map value)) (nested : SameTypes value inner) :
      SameTypes d (.record h inner)

-- A field of a declaration, under any name.
def IsNormalizable (d : Entries) : Prop :=
  ∀ name : Text, ∃ f, (Normal.field (.text name) (Declaration.ofValue (.map d))).outcome = .ok f ∧ SameTypes d f

section Kinds

variable {name : Text}

theorem string_normalizable (typed : HasType d .string) (annotated : IsAnnotated True .string d) :
    IsNormalizable d := by
  intro name
  obtain ⟨format,formatted⟩ := format_read name annotated
  obtain ⟨h,head⟩ := headerWith_described name _ annotated
  obtain ⟨lo,lower⟩ := size_read annotated rfl (.inl rfl) (.inl rfl)
  obtain ⟨hi,upper⟩ := size_read annotated rfl (.inr rfl) (.inl rfl)
  refine ⟨.string h lo hi format,?_,.scalar typed (.inl rfl)⟩
  rw [Declaration.ofValue,type_read typed]
  refine Traced.bind_outcome.mpr ⟨format,formatted,Normal.finish_outcome.mpr ?_⟩
  refine Success.map_exact.mpr ⟨(h,lo,hi),?_,rfl⟩
  exact Reading.and_exact.mpr ⟨head,Reading.and_exact.mpr ⟨lower,upper⟩⟩

theorem number_normalizable (typed : HasType d .number) (annotated : IsAnnotated True .number d) :
    IsNormalizable d := by
  intro name
  obtain ⟨h,head⟩ := headerWith_described name _ annotated
  obtain ⟨lo,lower⟩ := quantity_read annotated (.inl rfl)
  obtain ⟨hi,upper⟩ := quantity_read annotated (.inr rfl)
  obtain ⟨isInteger,integer⟩ := truth_read annotated.integer
  obtain ⟨isPositive,positive⟩ := truth_read annotated.positive
  refine ⟨.number h lo hi isInteger isPositive,?_,.scalar typed (.inr (.inl rfl))⟩
  rw [Declaration.ofValue,type_read typed]
  refine Normal.finish_outcome.mpr (Success.map_exact.mpr ⟨(h,lo,hi,isInteger,isPositive),?_,rfl⟩)
  refine Reading.and_exact.mpr ⟨head,Reading.and_exact.mpr ⟨lower,Reading.and_exact.mpr ⟨upper,?_⟩⟩⟩
  exact Reading.and_exact.mpr ⟨integer,positive⟩

theorem boolean_normalizable (typed : HasType d .boolean) (annotated : IsAnnotated True .boolean d) :
    IsNormalizable d := by
  intro name
  obtain ⟨h,head⟩ := headerWith_described name _ annotated
  refine ⟨.boolean h,?_,.scalar typed (.inr (.inr (.inl rfl)))⟩
  rw [Declaration.ofValue,type_read typed]
  exact Normal.finish_outcome.mpr (Success.map_exact.mpr ⟨h,head,rfl⟩)

theorem date_normalizable (typed : HasType d .date) (annotated : IsAnnotated True .date d) : IsNormalizable d := by
  intro name
  obtain ⟨h,head⟩ := headerWith_described name _ annotated
  obtain ⟨lo,lower⟩ := dateBound_read annotated (.inl rfl)
  obtain ⟨hi,upper⟩ := dateBound_read annotated (.inr rfl)
  refine ⟨.date h lo hi,?_,.scalar typed (.inr (.inr (.inr rfl)))⟩
  rw [Declaration.ofValue,type_read typed]
  refine Traced.bind_outcome.mpr ⟨lo,by rw [Traced.ofExcept_outcome,lower],?_⟩
  refine Traced.bind_outcome.mpr ⟨hi,by rw [Traced.ofExcept_outcome,upper],?_⟩
  exact Normal.finish_outcome.mpr (Success.map_exact.mpr ⟨h,head,rfl⟩)

theorem enum_normalizable {options : List Text} (typed : HasType d .enum) (annotated : IsAnnotated True .enum d)
    (listed : Entries.field? d "options" = some (.list (options.map Value.text))) : IsNormalizable d := by
  intro name
  obtain ⟨h,head⟩ := headerWith_described name _ annotated
  have members : (Entries.field d "options").membersOrNone? = some (options.map Value.text) := by
    rw [Entries.field_found listed]
    cases options <;> rfl
  refine ⟨.enum h options,?_,.enum typed listed⟩
  rw [Declaration.ofValue,type_read typed]
  change (Normal.enum (.text name) d).outcome = _
  rw [Normal.enum,members]
  refine Normal.finish_outcome.mpr (Success.map_exact.mpr ⟨(h,options),?_,rfl⟩)
  exact Reading.and_exact.mpr ⟨head,Reading.under_exact.mpr (Field.texts_reread 0 options)⟩

theorem array_normalizable {item : Entries} (typed : HasType d .array) (annotated : IsAnnotated True .array d)
    (items : Entries.field? d "items" = some (.map item)) (nested : IsNormalizable item) : IsNormalizable d := by
  intro name
  obtain ⟨inner,read,same⟩ := nested (name ++ "Item")
  obtain ⟨h,head⟩ := headerWith_described name _ annotated
  obtain ⟨lo,lower⟩ := size_read annotated rfl (.inl rfl) (.inr rfl)
  obtain ⟨hi,upper⟩ := size_read annotated rfl (.inr rfl) (.inr rfl)
  refine ⟨.array h lo hi inner,?_,.array typed items same⟩
  rw [Declaration.ofValue,type_read typed]
  change (Normal.field (.text name) (.array d (Declaration.nested "items" d))).outcome = _
  rw [Declaration.nested_exact,items,Option.elim_some]
  refine Traced.bind_outcome.mpr ⟨inner,read,Normal.finish_outcome.mpr ?_⟩
  refine Success.map_exact.mpr ⟨(h,lo,hi),?_,rfl⟩
  exact Reading.and_exact.mpr ⟨head,Reading.and_exact.mpr ⟨lower,upper⟩⟩

theorem record_normalizable {value : Entries} (typed : HasType d .record) (annotated : IsAnnotated True .record d)
    (values : Entries.field? d "values" = some (.map value)) (nested : IsNormalizable value) : IsNormalizable d := by
  intro name
  obtain ⟨inner,read,same⟩ := nested (name ++ "Value")
  obtain ⟨h,head⟩ := headerWith_described name _ annotated
  refine ⟨.record h inner,?_,.record typed values same⟩
  rw [Declaration.ofValue,type_read typed]
  change (Normal.field (.text name) (.record d (Declaration.nested "values" d))).outcome = _
  rw [Declaration.nested_exact,values,Option.elim_some]
  exact Traced.bind_outcome.mpr ⟨inner,read,Normal.finish_outcome.mpr (Success.map_exact.mpr ⟨h,head,rfl⟩)⟩

-- The properties of an object, each under its own name.
theorem properties_normalizable {properties : List (Text × Entries)}
    (nested : ∀ p ∈ properties, IsNormalizable p.2) : ∃ rows : List (Entries × Field),
      properties = rows.map (fun row => (row.2.name,row.1)) ∧ (∀ row ∈ rows, SameTypes row.1 row.2) ∧
      (Normal.fieldsOf (Declaration.members (properties.map fun p => (.text p.1,.map p.2)))).outcome =
        .ok (rows.map Prod.snd) := by
  induction properties with
  | nil => exact ⟨[],rfl,by simp,rfl⟩
  | cons p rest ih =>
    obtain ⟨name,d⟩ := p
    obtain ⟨here,others⟩ := List.forall_mem_cons.mp nested
    obtain ⟨f,read,same⟩ := here name
    obtain ⟨rows,rfl,each,behind⟩ := ih others
    have named : name = f.name := Except.ok.inj (Normal.field_header read).1
    refine ⟨(d,f) :: rows,by rw [named]; rfl,List.forall_mem_cons.mpr ⟨same,each⟩,?_⟩
    exact Normal.fieldsOf_cons.mpr ⟨f,_,read,behind,rfl⟩

theorem object_normalizable {properties : List (Text × Entries)} (typed : HasType d .object)
    (annotated : IsAnnotated True .object d)
    (declared : Entries.field? d "properties" = some (.map (properties.map fun p => (.text p.1,.map p.2))))
    (nested : ∀ p ∈ properties, IsNormalizable p.2) : IsNormalizable d := by
  intro name
  obtain ⟨h,head⟩ := headerWith_described name _ annotated
  obtain ⟨rows,rfl,same,read⟩ := properties_normalizable nested
  have inside : Declaration.propertiesIn d =
      .ok (Declaration.members ((rows.map fun row => (row.2.name,row.1)).map fun p => (.text p.1,.map p.2))) := by
    rw [Declaration.propertiesIn_exact]
    simp only [Declaration.propertiesKey,declared]
    rfl
  refine ⟨.object h (rows.map Prod.snd),?_,.object typed (by rwa [List.map_map] at declared) same⟩
  rw [Declaration.ofValue,type_read typed]
  change (Normal.field (.text name) (Declaration.ofProperties d (Declaration.propertiesIn d))).outcome = _
  rw [inside]
  exact Traced.bind_outcome.mpr ⟨_,read,Normal.finish_outcome.mpr (Success.map_exact.mpr ⟨h,head,rfl⟩)⟩

end Kinds

-- What a chain declares is normalized, if the bounds fit.
theorem field_normalizable (field : IsField (IsAnnotated True) d) : IsNormalizable d := by
  induction field with
  | scalar typed annotated isScalar =>
    rcases isScalar with rfl | rfl | rfl | rfl
    · exact string_normalizable typed annotated
    · exact number_normalizable typed annotated
    · exact boolean_normalizable typed annotated
    · exact date_normalizable typed annotated
  | enum typed annotated listed => exact enum_normalizable typed annotated listed
  | array typed annotated items _ ih => exact array_normalizable typed annotated items ih
  | object typed annotated declared _ ih => exact object_normalizable typed annotated declared ih
  | record typed annotated values _ ih => exact record_normalizable typed annotated values ih

-- A declaration of one of the eight types at every depth, and what is said of it is a text.
def IsWellFormed (d : Entries) : Prop :=
  IsField (fun _ d => ∀ v, Entries.field? d "description" = some v → ∃ s, v = .text s) d

theorem sentence_wellFormed {sentence : Sentence} (meant : sentence.meaning = .ok d) : IsWellFormed d := by
  have field : IsField (IsAnnotated False) d := sentence_field sentence False.elim meant
  exact field.imp fun _ _ annotated => annotated.description

theorem sentence_normalizable {sentence : Sentence} (meant : sentence.meaning = .ok d) (fits : sentence.BoundsFit) :
    IsNormalizable d :=
  field_normalizable (sentence_field sentence (fun _ => fits) meant)

-- A text is refused for a fault in it, or it is a chain for a well-formed declaration; and if the
-- bounds that the chain gives fit, the declaration is normalized to a field of the same types.
theorem declarationOf_wellFormed (text : String) (short : HasShortIntegers text.toList) :
    (∃ fault, (declarationOf text).outcome = .error (.chain fault)) ∨
      ∃ declaration, (declarationOf text).outcome = .ok declaration ∧ IsWellFormed declaration ∧
        (∃ sentence : Sentence, Scans text.toList sentence.lexemes ∧ sentence.meaning = .ok declaration) ∧
        ∀ sentence : Sentence, Scans text.toList sentence.lexemes → sentence.meaning = .ok declaration →
          sentence.BoundsFit → IsNormalizable declaration := by
  obtain ⟨succeeds,fails⟩ := declarationOf_meets text
  cases outcome : (declarationOf text).outcome with
  | error f =>
    obtain ⟨fault,rfl⟩ := (fails f outcome).resolve_right (not_not_intro short)
    exact .inl ⟨fault,rfl⟩
  | ok declaration =>
    obtain ⟨sentence,scans,meant⟩ := succeeds declaration outcome
    refine .inr ⟨declaration,rfl,sentence_wellFormed meant,⟨sentence,scans,meant⟩,?_⟩
    intro other _ means fits
    exact sentence_normalizable means fits

theorem dates_fit : datesSentence.BoundsFit := by
  refine ⟨⟨⟨trivial,fun _ _ => trivial⟩,trivial⟩,?_⟩
  intro kind named
  obtain rfl : kind = .array := (Option.some.inj named).symm
  refine ⟨trivial,?_,trivial⟩
  intro args meant _ v first
  cases meant
  cases first
  exact .inr ⟨2,rfl⟩

theorem dates_wellFormed : HasShortIntegers datesText.toList ∧ datesSentence.BoundsFit ∧
    IsWellFormed datesDeclaration ∧ IsNormalizable datesDeclaration := by
  have outcome := declarationOf_complete dates_scanned dates_meaning
  rcases declarationOf_wellFormed datesText dates_short with ⟨fault,refused⟩ | ⟨declaration,read,wellFormed,_,each⟩
  · rw [outcome] at refused
    cases refused
  · obtain rfl : datesDeclaration = declaration := Except.ok.inj (outcome.symm.trans read)
    exact ⟨dates_short,dates_fit,wellFormed,each datesSentence dates_scanned dates_meaning dates_fit⟩

end Chain

end TemplateSchema
