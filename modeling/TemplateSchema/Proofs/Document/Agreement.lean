import Mathlib
import TemplateSchema.Proofs.Document.Conformance
import TemplateSchema.Proofs.Schema.Conditions
import TemplateSchema.Proofs.Shape.Acceptance
import TemplateSchema.Proofs.Shape.Twin
import TemplateSchema.Proofs.Value.Entries
/-!
The two ways of judging a document agree. One goes through the fields of a schema, the other
through the shape that is compiled from it; neither knows of the other. What the fields let pass
the shape accepts, if nothing but the shape looks at date bounds and formats; what the shape accepts
the fields let pass, if nothing is accepted for being optional or for having a default where the
fields would not.
-/
set_option autoImplicit false
namespace TemplateSchema

open Declaration (given?)

namespace Value

mutual

-- Every integer in a value is one of at most 53 bits.
def HasSmallIntegers : Value → Prop
  | .int n => n.natAbs < 2 ^ 53
  | .list items => HasSmallItems items
  | .map entries => HasSmallEntries entries
  | _ => True

def HasSmallItems : List Value → Prop
  | [] => True
  | v :: rest => HasSmallIntegers v ∧ HasSmallItems rest

def HasSmallEntries : List (Value × Value) → Prop
  | [] => True
  | (_,v) :: rest => HasSmallIntegers v ∧ HasSmallEntries rest

end

theorem smallItems_exact {items : List Value} :
    HasSmallIntegers (.list items) ↔ ∀ v ∈ items, HasSmallIntegers v := by
  rw [HasSmallIntegers]
  induction items with
  | nil => simp [HasSmallItems]
  | cons v rest ih => simp [HasSmallItems,ih]

theorem smallEntries_exact {entries : Entries} :
    HasSmallIntegers (.map entries) ↔ ∀ entry ∈ entries, HasSmallIntegers entry.2 := by
  rw [HasSmallIntegers]
  induction entries with
  | nil => simp [HasSmallEntries]
  | cons entry rest ih => obtain ⟨key,v⟩ := entry; simp [HasSmallEntries,ih]

end Value

theorem Entries.field_small {entries : Entries} (small : (Value.map entries).HasSmallIntegers) (name : Text) :
    (Entries.field entries name).HasSmallIntegers := by
  rw [Entries.field,Entries.getOrNull]
  cases found : Entries.get? entries (.text name) with
  | none => trivial
  | some v =>
    obtain ⟨key,member⟩ := Entries.found_member found
    exact Value.smallEntries_exact.mp small _ member

mutual

-- The keys of a value are text wherever a field asks for a record.
def HasTextKeys : Field → Value → Prop
  | .array _ _ _ item, v => ∀ items, v = .list items → ∀ x ∈ items, HasTextKeys item x
  | .object _ properties, v => ∀ entries, v = .map entries → HaveTextKeys properties entries
  | .record _ inner, v =>
    ∀ entries, v = .map entries → ∀ entry ∈ entries, Shape.IsTextKey entry.1 ∧ HasTextKeys inner entry.2
  | _, _ => True

def HaveTextKeys : List Field → Entries → Prop
  | [], _ => True
  | p :: rest, entries => HasTextKeys p (Entries.field entries p.name) ∧ HaveTextKeys rest entries

end

theorem haveTextKeys_exact {properties : List Field} {entries : Entries} :
    HaveTextKeys properties entries ↔ ∀ p ∈ properties, HasTextKeys p (Entries.field entries p.name) := by
  induction properties with
  | nil => simp [HaveTextKeys]
  | cons p rest ih => simp [HaveTextKeys,ih]

mutual

-- There is no half of a pair in a text wherever a field bounds its length.
def HasWholeTexts : Field → Value → Prop
  | .string _ minLength maxLength _, v => minLength.isSome ∨ maxLength.isSome → v.isTorn = false
  | .array _ _ _ item, v => ∀ items, v = .list items → ∀ x ∈ items, HasWholeTexts item x
  | .object _ properties, v => ∀ entries, v = .map entries → HaveWholeTexts properties entries
  | .record _ inner, v => ∀ entries, v = .map entries → ∀ entry ∈ entries, HasWholeTexts inner entry.2
  | _, _ => True

def HaveWholeTexts : List Field → Entries → Prop
  | [], _ => True
  | p :: rest, entries => HasWholeTexts p (Entries.field entries p.name) ∧ HaveWholeTexts rest entries

end

theorem haveWholeTexts_exact {properties : List Field} {entries : Entries} :
    HaveWholeTexts properties entries ↔ ∀ p ∈ properties, HasWholeTexts p (Entries.field entries p.name) := by
  induction properties with
  | nil => simp [HaveWholeTexts]
  | cons p rest ih => simp [HaveWholeTexts,ih]

-- What is empty has no half of a pair in it.
theorem whole_empty {v : Value} (f : Field) (empty : Document.isEmpty v = true) : HasWholeTexts f v := by
  cases v with
  | null => cases f <;> simp [HasWholeTexts,Value.isTorn]
  | text s =>
    obtain rfl := (Text.isEmpty_exact s).mp empty
    cases f <;> simp [HasWholeTexts,Value.isTorn,Text.isWhole,Text.whole?]
  | _ => cases empty

section Numbers

variable {isMatch : Format → Text → Bool}

-- A value is a number for both engines or for neither, and then it is the same one.
theorem number_value {v : Value} (small : v.HasSmallIntegers) :
    (Quantity.ofValue? v = none ∧ ∀ x, Shape.float? v = some x → x.isNaN = true) ∨
      ∃ q x, Quantity.ofValue? v = some q ∧ Shape.float? v = some x ∧ q.Denotes x ∧ x.isNaN = false := by
  cases v with
  | int n =>
    obtain ⟨x,converted,integer⟩ := Binary64.ofInt_exact n small
    exact .inr ⟨.int n,x,rfl,converted,integer,Binary64.isInteger_not_nan integer⟩
  | float x =>
    cases nan : x.isNaN with
    | true => exact .inl ⟨by simp [Quantity.ofValue?,nan],by rintro _ ⟨⟩; exact nan⟩
    | false => exact .inr ⟨.float x,x,by simp [Quantity.ofValue?,nan],rfl,rfl,nan⟩
  | _ => exact .inl ⟨rfl,by simp [Shape.float?]⟩

theorem lower_twin {lo : Option Quantity} {below : Option Binary64} {q : Quantity} {x : Binary64}
    (same : SameBound lo below) (isExact : IsExactBound lo) (denotes : q.Denotes x) (number : x.isNaN = false) :
    (∀ b, lo = some b → q.lt b = false) ↔ ∀ b, below = some b → b.le x = true := by
  cases lo with
  | none =>
    cases below with
    | none => simp
    | some y => cases same
  | some b =>
    cases below with
    | none => cases same
    | some y =>
      obtain ⟨bound,boundNumber⟩ := Quantity.denotes_exact (isExact b rfl) (Option.some.inj same)
      simp [Quantity.lt_denotes denotes bound,Binary64.le_not_lt boundNumber number]

theorem upper_twin {hi : Option Quantity} {above : Option Binary64} {q : Quantity} {x : Binary64}
    (same : SameBound hi above) (isExact : IsExactBound hi) (denotes : q.Denotes x) (number : x.isNaN = false) :
    (∀ b, hi = some b → b.lt q = false) ↔ ∀ b, above = some b → x.le b = true := by
  cases hi with
  | none =>
    cases above with
    | none => simp
    | some y => cases same
  | some b =>
    cases above with
    | none => cases same
    | some y =>
      obtain ⟨bound,boundNumber⟩ := Quantity.denotes_exact (isExact b rfl) (Option.some.inj same)
      simp [Quantity.lt_denotes bound denotes,Binary64.le_not_lt number boundNumber]

theorem number_agrees {h : Header} {lo hi : Option Quantity} {below above : Option Binary64}
    {isInteger isPositive : Option Bool} {v : Value} (lower : SameBound lo below) (upper : SameBound hi above)
    (exactLower : IsExactBound lo) (exactUpper : IsExactBound hi) (small : v.HasSmallIntegers) :
    Document.Conforms (.number h lo hi isInteger isPositive) v ↔
      Shape.Accepts isMatch
        (.number below above (isPositive.getD false) true (isInteger.getD false)) v := by
  rw [Document.conforms_number,Shape.accepts_number]
  rcases number_value small with ⟨none_,nan⟩ | ⟨q,x,quantity,float,denotes,number⟩
  · constructor
    · rintro ⟨q,some_,_⟩
      rw [none_] at some_
      cases some_
    · rintro ⟨x,float,_,_,_,number,_⟩
      rw [nan x float] at number
      cases number rfl
  · simp only [quantity,float,Option.some.injEq,exists_eq_left',Quantity.isIntegral_denotes denotes,
      Quantity.isPositive_denotes denotes,lower_twin lower exactLower denotes number,
      upper_twin upper exactUpper denotes number,number]
    constructor
    · rintro ⟨whole,positive,least,most⟩
      exact ⟨most,least,positive,fun _ => trivial,whole⟩
    · rintro ⟨most,least,positive,_,whole⟩
      exact ⟨whole,positive,least,most⟩

end Numbers

section Options

variable {isMatch : Format → Text → Bool}

theorem text_same {s : Text} {v : Value} : Value.same (.text s) v = true ↔ v = .text s := by
  cases v with
  | text t => simp [Value.same,Value.sameScalar,Value.count?,eq_comm (a := s)]
  | _ => simp [Value.same,Value.sameScalar,Value.count?]

-- An option is found as soon as one equals the value.
theorem option_found {options : List Value} {v : Value} :
    (∃ o, Shape.option? options v = some o) ↔ ∃ o ∈ options, Value.same o v = true := by
  have some_ : (∃ o ∈ options, Value.same o v = true) ↔ options.filter (Value.same · v) ≠ [] := by
    simp [List.filter_eq_nil_iff]
  rw [some_]
  unfold Shape.option?
  generalize options.filter (Value.same · v) = equal
  constructor
  · rintro ⟨o,found⟩ rfl
    simp at found
  · intro nonempty
    obtain ⟨last,isLast⟩ := List.getLast?_isSome.mpr nonempty |> Option.isSome_iff_exists.mp
    rw [← Option.isSome_iff_exists]
    simp [isLast]

theorem distinct_text (options seen : List Text) :
    ∃ kept : List Text,
      (options.map Value.text).foldl
        (fun seen v => if seen.any (Shape.isSameOption · v) then seen else seen ++ [v]) (seen.map Value.text) =
          kept.map Value.text ∧
      ∀ s, s ∈ kept ↔ s ∈ seen ∨ s ∈ options := by
  induction options generalizing seen with
  | nil => exact ⟨seen,rfl,by simp⟩
  | cons o rest ih =>
    have known : (seen.map Value.text).any (Shape.isSameOption · (.text o)) = true ↔ o ∈ seen := by
      simp [Shape.isSameOption,text_same,Value.kindName]
    by_cases member : o ∈ seen
    · obtain ⟨kept,folded,members⟩ := ih seen
      refine ⟨kept,?_,?_⟩
      · simpa only [List.map_cons,List.foldl_cons,known.mpr member,if_true] using folded
      · intro s
        rw [members,List.mem_cons]
        constructor
        · rintro (old | new)
          · exact .inl old
          · exact .inr (.inr new)
        · rintro (old | rfl | new)
          · exact .inl old
          · exact .inl member
          · exact .inr new
    · obtain ⟨kept,folded,members⟩ := ih (seen ++ [o])
      refine ⟨kept,?_,?_⟩
      · rw [List.map_append] at folded
        rw [List.map_cons,List.foldl_cons,if_neg (mt known.mp member)]
        exact folded
      · intro s
        rw [members]
        simp [or_assoc]

theorem choice_agrees {h : Header} {options : List Text} {v : Value} (whole : ∀ o ∈ options, o.isWhole = true) :
    Document.Conforms (.enum h options) v ↔
      Shape.Accepts isMatch (.choice (Shape.distinctOptions (options.map Value.text))) v := by
  have hashable : (options.map Value.text).all Value.isHashable = true := by simp [Value.isHashable]
  obtain ⟨kept,folded,members⟩ := distinct_text options []
  have distinct : Shape.distinctOptions (options.map Value.text) = kept.map Value.text := by
    rw [Shape.distinctOptions,if_pos hashable]
    exact folded
  rw [Document.conforms_enum,Shape.accepts_choice,option_found,distinct]
  simp only [List.mem_map,exists_exists_and_eq_and,text_same]
  constructor
  · rintro ⟨s,rfl,member⟩
    refine ⟨?_,s,(members s).mpr (.inr member),rfl⟩
    intro torn
    simp [Value.isTorn,whole s member] at torn
  · rintro ⟨_,s,member,rfl⟩
    exact ⟨s,rfl,((members s).mp member).resolve_left (by simp)⟩

end Options

-- Every strict address has the sign that the fields ask an address for.
theorem Email.valid_at {s : Text} (valid : Email.isValid s = true) : s.holds '@' = true := by
  have sub {p : Point} {ps : List Point} (member : p ∈ Email.withoutFinalFeed ps) : p ∈ ps := by
    unfold Email.withoutFinalFeed at member
    split at member
    · exact (List.dropLast_sublist _).subset member
    · exact member
  apply (Text.holds_exact _ _).mpr
  apply sub
  unfold Email.isValid Email.isAddress at valid
  simp only at valid
  split at valid
  · cases valid
  · rename_i p domain rest
    have first : p = .char '@' := by
      have stopped := List.head?_dropWhile_not (· != .char '@') (Email.withoutFinalFeed s.points)
      rw [rest] at stopped
      simpa using stopped
    rw [← first]
    exact (List.dropWhile_sublist _).subset (rest ▸ List.mem_cons_self)

section Sizes

theorem least_nat {lo : Option Nat} {size : Nat} :
    (∀ n, lo.map Int.ofNat = some n → n ≤ size) ↔ ∀ n, lo = some n → n ≤ size := by
  cases lo <;> simp

theorem most_nat {hi : Option Nat} {size : Nat} :
    (∀ n, hi.map Int.ofNat = some n → (size : Int) ≤ n) ↔ ∀ n, hi = some n → size ≤ n := by
  cases hi <;> simp

end Sizes

section Engines

variable {isMatch : Format → Text → Bool} {f p : Field} {s : Shape} {entries : Entries} {v : Value}

theorem accepts_inner {isOptional : Bool} (accepted : Shape.Accepts isMatch s v) :
    Shape.Accepts isMatch (Shape.ofInner isOptional s) v := by
  cases isOptional with
  | true => exact Shape.accepts_orNull.mpr (.inr accepted)
  | false => exact accepted

-- What fits a property is taken by its member: a value that is empty or conforms, or no value
-- where the property may be absent.
theorem fitting_member {slot : Slot} (isSlot : IsSlotOf p slot)
    (inner : Document.Conforms p (Entries.field entries p.name) →
      Shape.Accepts isMatch s (Entries.field entries p.name))
    (fits : Document.Fits p (Entries.field entries p.name)) :
    Shape.AcceptsMember isMatch entries (memberOf (p,slot,s)) := by
  unfold Shape.AcceptsMember memberOf
  simp only [isSlot.key]
  rcases Document.fits_exact.mp fits with ⟨optional,empty⟩ | conforms
  · cases found : Entries.field? entries p.name with
    | none => exact .inr ⟨rfl,by rw [isSlot.default_,optional,Bool.or_true]⟩
    | some v =>
      rw [Entries.field_found found] at empty
      refine .inl ⟨v,rfl,?_⟩
      rw [optional]
      refine Shape.accepts_orBlank.mpr ?_
      cases v with
      | null => exact .inl rfl
      | text s => exact .inr (.inl (congrArg Value.text ((Text.isEmpty_exact s).mp empty)))
      | _ => cases empty
  · cases found : Entries.field? entries p.name with
    | none =>
      rw [Entries.field_missing found] at conforms
      exact absurd conforms (Document.null_nonconforming p)
    | some v =>
      have accepted := inner conforms
      rw [Entries.field_found found] at accepted
      refine .inl ⟨v,rfl,?_⟩
      cases p.isOptional with
      | true => exact Shape.accepts_orBlank.mpr (.inr (.inr accepted))
      | false => exact Shape.accepts_withoutNumberCheck.mpr accepted

theorem Twin.accepted (twin : Twin f s) : ∀ {v : Value}, f.Everywhere Field.HasExactBounds →
    f.Everywhere Field.IsPlain → v.HasSmallIntegers → HasTextKeys f v → HasWholeTexts f v → Document.Conforms f v →
    Shape.Accepts isMatch s v := by
  induction twin with
  | text =>
    intro v _ plain _ _ whole conforms
    obtain ⟨s,rfl,least,most,_⟩ := Document.conforms_string.mp conforms
    obtain rfl : _ = none := plain
    refine Shape.accepts_text.mpr ⟨s,rfl,?_,least_nat.mp least,most_nat.mp most,by simp⟩
    simpa [HasWholeTexts,Value.isTorn] using whole
  | number lower upper =>
    intro v bounds _ small _ _ conforms
    exact (number_agrees lower upper bounds.1 bounds.2 small).mp conforms
  | truth =>
    intro v _ _ _ _ _ conforms
    exact Shape.accepts_truth.mpr (Document.conforms_boolean.mp conforms)
  | moment =>
    intro v _ plain _ _ _ conforms
    obtain ⟨m,rfl⟩ := Document.conforms_date.mp conforms
    obtain ⟨rfl,rfl⟩ : _ = none ∧ _ = none := plain
    exact Shape.accepts_moment.mpr ⟨m,rfl,by simp,by simp⟩
  | list inner ih =>
    intro v bounds plain small keys whole conforms
    obtain ⟨items,rfl,least,most,each⟩ := Document.conforms_array.mp conforms
    refine Shape.accepts_list.mpr ⟨items,rfl,least_nat.mp least,most_nat.mp most,?_⟩
    intro x member
    exact accepts_inner (ih bounds.2 plain.2 (Value.smallItems_exact.mp small x member)
      (keys items rfl x member) (whole items rfl x member) (each x member))
  | @model h name rows slots each ih =>
    intro v bounds plain small keys whole conforms
    obtain ⟨entries,rfl,fits⟩ := Document.conforms_object.mp conforms
    refine Shape.accepts_model.mpr ⟨entries,rfl,?_⟩
    intro member isMember
    obtain ⟨row,isRow,rfl⟩ := List.mem_map.mp isMember
    have property : row.1 ∈ rows.map Prod.fst := List.mem_map_of_mem isRow
    refine fitting_member (slots row isRow) ?_ (fits row.1 property)
    exact ih row isRow (Field.everywhereIn_exact.mp bounds.2 _ property)
      (Field.everywhereIn_exact.mp plain.2 _ property) (Entries.field_small small _)
      (haveTextKeys_exact.mp (keys entries rfl) _ property) (haveWholeTexts_exact.mp (whole entries rfl) _ property)
  | anyChoice =>
    intro v _ _ _ _ _ conforms
    obtain ⟨_,_,none_⟩ := Document.conforms_enum.mp conforms
    cases none_
  | choice some_ whole =>
    intro v _ _ _ _ _ conforms
    exact (choice_agrees whole).mp conforms
  | record value ih =>
    intro v bounds plain small keys whole conforms
    obtain ⟨entries,rfl,each⟩ := Document.conforms_record.mp conforms
    refine Shape.accepts_record.mpr ⟨entries,rfl,?_⟩
    intro entry member
    obtain ⟨isText,inside⟩ := keys entries rfl entry member
    exact ⟨.inl isText,accepts_inner (ih bounds.2 plain.2 (Value.smallEntries_exact.mp small entry member)
      inside (whole entries rfl entry member) (each entry member))⟩

theorem Twin.whole (twin : Twin f s) : ∀ {v : Value}, Shape.Accepts isMatch s v → HasWholeTexts f v := by
  have nested {isOptional : Bool} {f : Field} {s : Shape} {v : Value}
      (ih : ∀ {v : Value}, Shape.Accepts isMatch s v → HasWholeTexts f v)
      (accepted : Shape.Accepts isMatch (Shape.ofInner isOptional s) v) : HasWholeTexts f v := by
    cases isOptional with
    | true =>
      rcases Shape.accepts_orNull.mp accepted with rfl | accepted
      · exact whole_empty f rfl
      · exact ih accepted
    | false => exact ih accepted
  induction twin with
  | text =>
    intro v accepted
    obtain ⟨s,rfl,whole,_⟩ := Shape.accepts_text.mp accepted
    simpa [HasWholeTexts,Value.isTorn] using whole
  | list inner ih =>
    intro v accepted
    obtain ⟨items,rfl,_,_,each⟩ := Shape.accepts_list.mp accepted
    rintro _ ⟨⟩ x member
    exact nested ih (each x member)
  | @model h name rows slots each ih =>
    intro v accepted
    obtain ⟨entries,rfl,taken⟩ := Shape.accepts_model.mp accepted
    rintro _ ⟨⟩
    refine haveWholeTexts_exact.mpr fun property isProperty => ?_
    obtain ⟨row,isRow,rfl⟩ := List.mem_map.mp isProperty
    have taken := taken _ (List.mem_map_of_mem isRow)
    unfold Shape.AcceptsMember memberOf at taken
    simp only [(slots row isRow).key] at taken
    rcases taken with ⟨v,found,accepted⟩ | ⟨missing,_⟩
    · rw [Entries.field_found found]
      cases optional : row.1.isOptional with
      | true =>
        rw [optional] at accepted
        rcases Shape.accepts_orBlank.mp accepted with rfl | rfl | accepted
        · exact whole_empty _ rfl
        · exact whole_empty _ rfl
        · exact ih row isRow accepted
      | false =>
        rw [optional] at accepted
        exact ih row isRow (Shape.accepts_withoutNumberCheck.mp accepted)
    · rw [Entries.field_missing missing]
      exact whole_empty _ rfl
  | record value ih =>
    intro v accepted
    obtain ⟨entries,rfl,each⟩ := Shape.accepts_record.mp accepted
    rintro _ ⟨⟩ entry member
    exact nested ih (each entry member).2
  | _ => intro v _; trivial

-- What a member takes fits its property, unless a required property has a default to fall back on.
theorem member_fitting {slot : Slot} (isSlot : IsSlotOf p slot)
    (undefaulted : p.isOptional = false → p.default? = none)
    (inner : Shape.Accepts isMatch s (Entries.field entries p.name) →
      Document.Conforms p (Entries.field entries p.name))
    (taken : Shape.AcceptsMember isMatch entries (memberOf (p,slot,s))) :
    Document.Fits p (Entries.field entries p.name) := by
  rw [Document.fits_exact]
  unfold Shape.AcceptsMember memberOf at taken
  simp only [isSlot.key] at taken
  rcases taken with ⟨v,found,accepted⟩ | ⟨missing,fallback⟩
  · rw [Entries.field_found found] at inner ⊢
    cases optional : p.isOptional with
    | true =>
      rw [optional] at accepted
      rcases Shape.accepts_orBlank.mp accepted with rfl | rfl | accepted
      · exact .inl ⟨rfl,rfl⟩
      · exact .inl ⟨rfl,rfl⟩
      · exact .inr (inner accepted)
    | false =>
      rw [optional] at accepted
      exact .inr (inner (Shape.accepts_withoutNumberCheck.mp accepted))
  · cases optional : p.isOptional with
    | true => exact .inl ⟨rfl,by rw [Entries.field_missing missing]; rfl⟩
    | false =>
      rw [isSlot.default_,undefaulted optional,optional] at fallback
      cases fallback

theorem Twin.conforming (email : ∀ s, isMatch .email s = true → s.holds '@' = true) (twin : Twin f s) :
    ∀ {v : Value}, f.Everywhere Field.HasExactBounds → f.Everywhere Field.IsStrict → v.HasSmallIntegers →
    Shape.Accepts isMatch s v → Document.Conforms f v := by
  induction twin with
  | text =>
    intro v _ _ _ accepted
    obtain ⟨s,rfl,_,least,most,matched⟩ := Shape.accepts_text.mp accepted
    exact Document.conforms_string.mpr
      ⟨s,rfl,least_nat.mpr least,most_nat.mpr most,fun isEmail => email s (matched _ isEmail)⟩
  | number lower upper =>
    intro v bounds _ small accepted
    exact (number_agrees lower upper bounds.1 bounds.2 small).mpr accepted
  | truth =>
    intro v _ _ _ accepted
    exact Document.conforms_boolean.mpr (Shape.accepts_truth.mp accepted)
  | moment =>
    intro v _ _ _ accepted
    obtain ⟨m,rfl,_⟩ := Shape.accepts_moment.mp accepted
    exact Document.conforms_date.mpr ⟨m,rfl⟩
  | list inner ih =>
    intro v bounds strict small accepted
    obtain ⟨items,rfl,least,most,each⟩ := Shape.accepts_list.mp accepted
    refine Document.conforms_array.mpr ⟨items,rfl,least_nat.mpr least,most_nat.mpr most,?_⟩
    intro x member
    have taken := each x member
    rw [strict.1.inner] at taken
    exact ih bounds.2 strict.2 (Value.smallItems_exact.mp small x member) taken
  | @model h name rows slots each ih =>
    intro v bounds strict small accepted
    obtain ⟨entries,rfl,taken⟩ := Shape.accepts_model.mp accepted
    refine Document.conforms_object.mpr ⟨entries,rfl,?_⟩
    intro property isProperty
    obtain ⟨row,isRow,rfl⟩ := List.mem_map.mp isProperty
    have everywhere := Field.everywhereIn_exact.mp strict.2 _ isProperty
    refine member_fitting (slots row isRow) everywhere.here.undefaulted ?_
      (taken _ (List.mem_map_of_mem isRow))
    exact ih row isRow (Field.everywhereIn_exact.mp bounds.2 _ isProperty) everywhere
      (Entries.field_small small _)
  | anyChoice =>
    intro v _ strict _ _
    exact absurd rfl strict.choice
  | choice some_ whole =>
    intro v _ _ _ accepted
    exact (choice_agrees whole).mpr accepted
  | record value ih =>
    intro v bounds strict small accepted
    obtain ⟨entries,rfl,each⟩ := Shape.accepts_record.mp accepted
    refine Document.conforms_record.mpr ⟨entries,rfl,?_⟩
    intro entry member
    have taken := (each entry member).2
    rw [strict.1.inner] at taken
    exact ih bounds.2 strict.2 (Value.smallEntries_exact.mp small entry member) taken

end Engines

section Documents

variable {declared : Value} {name : Text} {schema : Schema} {shape : Shape} {entries : Entries}

-- A document without complaints is one that conforms to the object of its fields.
theorem validate_exact (named : ∀ row ∈ schema, row.1 = .text row.2.name) :
    Document.validate schema (.map entries) = .ok [] ↔ Document.Conforms schema.document (.map entries) := by
  rw [Document.validate_nil,Schema.document,Document.conforms_object]
  simp only [Value.map.injEq,exists_eq_left',List.forall_mem_map]
  refine forall₂_congr ?_
  intro row member
  rw [named row member]
  rfl

theorem document_everywhere {P : Declaration → Prop} {Q : Field → Prop}
    (step : ∀ name d f, P d → (Normal.field name d).outcome = .ok f → Q f)
    (whole : Q schema.document) (throughout : Declaration.Throughout P declared)
    (normalized : (Normal.schema declared).outcome = .ok schema) : schema.document.Everywhere Q :=
  ⟨whole,Normal.everywhere_schema step throughout normalized⟩

end Documents

section Parcels

-- Labelled parcels, with a list, a record and a field that may be left out.
def parcelSchema : Value :=
  .map [(.text "fields",.map [
    (.text "tags",.map [(.text "type",.text "array"),(.text "maxItems",.int 2),(.text "items",
      .map [(.text "type",.text "enum"),(.text "options",.list [.text "new",.text "old"])])]),
    (.text "sizes",.map [(.text "type",.text "record"),(.text "values",
      .map [(.text "type",.text "number"),(.text "min",.int 0)])]),
    (.text "note",.map [(.text "type",.text "string"),(.text "optional",.bool true)])])]

def parcelFields : Schema :=
  [(.text "tags",
      .array ⟨"tags","",false,none⟩ none (some 2) (.enum ⟨"tagsItem","",false,none⟩ ["new","old"])),
    (.text "sizes",
      .record ⟨"sizes","",false,none⟩ (.number ⟨"sizesValue","",false,none⟩ (some (.int 0)) none none none)),
    (.text "note",.string ⟨"note","",true,none⟩ none none none)]

def parcelShape : Shape :=
  .model "Box" [
    (⟨"tags",none⟩,.list none (some 2) (.choice [.text "new",.text "old"])),
    (⟨"sizes",none⟩,.record (.number (some (Binary64.zero false)) none false true false)),
    (⟨"note",some .null⟩,.orBlank Shape.anyText)]

def parcel : Entries :=
  [(.text "tags",.list [.text "old"]),(.text "sizes",.map [(.text "height",.int 3)]),(.text "note",.text "")]

theorem parcel_declared : declarations parcelSchema = .ok [
    (.text "tags",.array [(.text "type",.text "array"),(.text "maxItems",.int 2),(.text "items",
        .map [(.text "type",.text "enum"),(.text "options",.list [.text "new",.text "old"])])]
      (.enum [(.text "type",.text "enum"),(.text "options",.list [.text "new",.text "old"])])),
    (.text "sizes",.record [(.text "type",.text "record"),(.text "values",
        .map [(.text "type",.text "number"),(.text "min",.int 0)])]
      (.number [(.text "type",.text "number"),(.text "min",.int 0)])),
    (.text "note",.string [(.text "type",.text "string"),(.text "optional",.bool true)])] := by
  cbv

theorem parcel_typed : Declaration.Throughout WellTyped parcelSchema := by
  rw [Declaration.throughout_exact parcel_declared]
  simp [Declaration.EverywhereIn,Declaration.Everywhere,WellTyped,IsFlag,HasTextOptions,given?,Entries.field?,
    Entries.field,Entries.getOrNull,Entries.get?,Value.same,Value.sameScalar,Value.count?,Value.membersOrNone?,
    Value.members?,Value.isTruthy]

theorem parcel_bounds : Declaration.Throughout Declaration.HasExactBounds parcelSchema := by
  rw [Declaration.throughout_exact parcel_declared]
  simp [Declaration.EverywhereIn,Declaration.Everywhere,Declaration.HasExactBounds,Declaration.IsExactNumber,
    given?,Entries.field?,Entries.get?,Value.same,Value.sameScalar,Value.count?]

theorem parcel_plain : Declaration.Throughout Declaration.IsPlain parcelSchema := by
  rw [Declaration.throughout_exact parcel_declared]
  simp [Declaration.EverywhereIn,Declaration.Everywhere,Declaration.IsPlain,Normal.formatNamed?,Entries.field,
    Entries.getOrNull,Entries.get?,Value.same,Value.sameScalar,Value.count?]

theorem parcel_strict : Declaration.Throughout Declaration.IsStrict parcelSchema := by
  rw [Declaration.throughout_exact parcel_declared]
  simp [Declaration.EverywhereIn,Declaration.Everywhere,Declaration.strict_exact,Declaration.HasChoice,
    Declaration.HasRequiredInner,Declaration.isOptional,Declaration.default?,Declaration.keys,
    Declaration.optionalKey,Declaration.defaultKey,Entries.field?,Entries.field,Entries.getOrNull,Entries.get?,
    Value.same,Value.sameScalar,Value.count?,Value.membersOrNone?,Value.members?,Value.isTruthy]

theorem parcel_small : (Value.map parcel).HasSmallIntegers := by
  simp [parcel,Value.HasSmallIntegers,Value.HasSmallEntries,Value.HasSmallItems]

theorem parcel_keys : HasTextKeys parcelFields.document (.map parcel) := by
  simp [parcel,parcelFields,Schema.document,HasTextKeys,HaveTextKeys,Shape.IsTextKey,Entries.field,
    Entries.getOrNull,Entries.get?,Field.name,Field.header,Value.same,Value.sameScalar,Value.count?]

theorem parcel_whole : HasWholeTexts parcelFields.document (.map parcel) := by
  simp [parcel,parcelFields,Schema.document,HasWholeTexts,HaveWholeTexts]

theorem parcel_normalized : (Normal.schema parcelSchema).outcome = .ok parcelFields := by
  cbv

theorem parcel_compiled : (Shape.ofSchema parcelSchema (.text "Box")).outcome = .ok parcelShape :=
  Shape.ofSchema_built parcel_declared (by cbv) rfl (by decide)

end Parcels

section Titles

def titleSchema : Value :=
  .map [(.text "fields",.map [(.text "title",.map [(.text "type",.text "string"),(.text "minLength",.int 1)])])]

def titleFields : Schema :=
  [(.text "title",.string ⟨"title","",false,none⟩ (some 1) none none)]

def titleShape : Shape :=
  .model "Page" [(⟨"title",none⟩,.text (some 1) none none)]

def tornTitle : Entries :=
  [(.text "title",.text (.torn "" ⟨0xD800,by decide⟩ []))]

theorem title_declared : declarations titleSchema =
    .ok [(.text "title",.string [(.text "type",.text "string"),(.text "minLength",.int 1)])] := by
  cbv

end Titles

section Documents

variable {declared : Value} {name : Text} {schema : Schema} {shape : Shape} {entries : Entries}

-- What the fields let pass the shape accepts, unless it has to tell the length of a text that has half of
-- a pair in it.
theorem validated_accepted (isMatch : Format → Text → Bool)
    (normalized : (Normal.schema declared).outcome = .ok schema)
    (compiled : (Shape.ofSchema declared (.text name)).outcome = .ok shape)
    (typed : Declaration.Throughout WellTyped declared)
    (bounds : Declaration.Throughout Declaration.HasExactBounds declared)
    (plain : Declaration.Throughout Declaration.IsPlain declared)
    (small : (Value.map entries).HasSmallIntegers) (keys : HasTextKeys schema.document (.map entries))
    (valid : Document.validate schema (.map entries) = .ok []) :
    Shape.report isMatch shape (.map entries) = [] ↔ HasWholeTexts schema.document (.map entries) := by
  obtain ⟨twin,named⟩ := twin_of_schema typed normalized compiled
  have conforms := (validate_exact named).mp valid
  have exactly := document_everywhere (fun _ _ _ => exactBounds_field) trivial bounds normalized
  have plainly := document_everywhere (fun _ _ _ => plain_field) trivial plain normalized
  rw [Shape.report_nil]
  exact ⟨twin.whole,fun whole => twin.accepted exactly plainly small keys whole conforms⟩

theorem parcel_accepted : Shape.report Format.isMatch parcelShape (.map parcel) = [] :=
  (validated_accepted Format.isMatch parcel_normalized parcel_compiled parcel_typed parcel_bounds parcel_plain
    parcel_small parcel_keys (by cbv)).mpr parcel_whole

-- A title that consists of half of a pair is of the length that is asked for, and the shape refuses it.
theorem torn_title_refused : (Normal.schema titleSchema).outcome = .ok titleFields ∧
    (Shape.ofSchema titleSchema (.text "Page")).outcome = .ok titleShape ∧
    Declaration.Throughout WellTyped titleSchema ∧ Declaration.Throughout Declaration.HasExactBounds titleSchema ∧
    Declaration.Throughout Declaration.IsPlain titleSchema ∧ (Value.map tornTitle).HasSmallIntegers ∧
    HasTextKeys titleFields.document (.map tornTitle) ∧ Document.validate titleFields (.map tornTitle) = .ok [] ∧
    Shape.report Format.isMatch titleShape (.map tornTitle) = ["title: " ++ Flaw.message .encoding] := by
  refine ⟨by cbv,Shape.ofSchema_built title_declared (by cbv) rfl (by decide),?_,?_,?_,?_,?_,by cbv,by decide +kernel⟩
  · rw [Declaration.throughout_exact title_declared]
    exact ⟨trivial,trivial⟩
  · rw [Declaration.throughout_exact title_declared]
    exact ⟨trivial,trivial⟩
  · rw [Declaration.throughout_exact title_declared]
    exact ⟨by cbv,trivial⟩
  · simp [tornTitle,Value.HasSmallIntegers,Value.HasSmallEntries]
  · simp [tornTitle,titleFields,Schema.document,HasTextKeys,HaveTextKeys]

theorem accepted_validated (url uuid : Text → Bool)
    (normalized : (Normal.schema declared).outcome = .ok schema)
    (compiled : (Shape.ofSchema declared (.text name)).outcome = .ok shape)
    (typed : Declaration.Throughout WellTyped declared)
    (bounds : Declaration.Throughout Declaration.HasExactBounds declared)
    (strict : Declaration.Throughout Declaration.IsStrict declared)
    (small : (Value.map entries).HasSmallIntegers)
    (accepted : Shape.report (Format.matching url uuid) shape (.map entries) = []) :
    Document.validate schema (.map entries) = .ok [] := by
  obtain ⟨twin,named⟩ := twin_of_schema typed normalized compiled
  have exactly := document_everywhere (fun _ _ _ => exactBounds_field) trivial bounds normalized
  have strictly := document_everywhere (fun _ _ _ => strict_field) ⟨trivial,trivial,fun _ => rfl⟩ strict normalized
  have conforms := twin.conforming (fun _ => Email.valid_at) exactly strictly small
    (Shape.report_nil.mp accepted)
  exact (validate_exact named).mpr conforms

theorem parcel_validated : Document.validate parcelFields (.map parcel) = .ok [] :=
  accepted_validated (·.whole?.any Url.isValid) (·.whole?.any Uuid.isValid) parcel_normalized parcel_compiled
    parcel_typed parcel_bounds parcel_strict parcel_small (by decide +kernel)

end Documents

end TemplateSchema
