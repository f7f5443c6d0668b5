import TemplateSchema.Proofs.Document.Settled
/-!
What reading the dates of a document leaves alone. A way down a document leads to a date, to what
holds dates, or past them; only what stands where a date is expected is read, once and for all, and
the rest keeps its keys, its length and its content.
-/
set_option autoImplicit false
namespace TemplateSchema

-- One turn on the way down a value: to an item of a list, or to an entry of a mapping by its place
-- and its key.
inductive Turn where
  | item (i : Nat)
  | entry (i : Nat) (key : Value)

namespace Value

-- The part of a value that a way leads to.
inductive Part : Value → List Turn → Value → Prop where
  | whole (v : Value) : Part v [] v
  | item {items : List Value} {i : Nat} {x w : Value} {way : List Turn} (here : items[i]? = some x)
      (inside : Part x way w) : Part (.list items) (.item i :: way) w
  | entry {entries : Entries} {i : Nat} {key x w : Value} {way : List Turn} (here : entries[i]? = some (key,x))
      (inside : Part x way w) : Part (.map entries) (.entry i key :: way) w

def keys? : Value → Option (List Value)
  | .map entries => some (entries.map Prod.fst)
  | _ => none

def size? : Value → Option Nat
  | .list items => some items.length
  | _ => none

-- What holds of a list or a mapping if it holds of all that is in it, and of every other value.
@[elab_as_elim]
theorem part_induction {P : Value → Prop} (list : ∀ items, (∀ x ∈ items, P x) → P (.list items))
    (map : ∀ entries : Entries, (∀ entry ∈ entries, P entry.2) → P (.map entries))
    (other : ∀ v, v.keys? = none → v.size? = none → P v) (v : Value) : P v := by
  cases v with
  | list items => exact list items fun x member => part_induction list map other x
  | map entries => exact map entries fun entry member => part_induction list map other entry.2
  | _ => exact other _ rfl rfl
termination_by sizeOf v
decreasing_by
  · have := List.sizeOf_lt_of_mem member
    rw [Value.list.sizeOf_spec]
    omega
  · have := List.sizeOf_lt_of_mem member
    obtain ⟨key,x⟩ := entry
    rw [Prod.mk.sizeOf_spec] at this
    rw [Value.map.sizeOf_spec]
    change sizeOf x < _
    omega

end Value

namespace Field

-- The field of a list's items.
def item? : Field → Option Field
  | .array _ _ _ item => some item
  | _ => none

-- The field of what stands under a key; the last property of a name counts.
def entry? (key : Value) : Field → Option Field
  | .record _ inner => some inner
  | .object _ properties => properties.reverse.find? (Document.isNamed key)
  | _ => none

-- The field that is meant for the part at the end of a way.
def at? (f : Field) : List Turn → Option Field
  | [] => some f
  | .item _ :: way => f.item?.bind (at? · way)
  | .entry _ key :: way => (f.entry? key).bind (at? · way)

end Field

namespace Schema

def at? (schema : Schema) : List Turn → Option Field
  | .entry _ key :: way => (schema.get? key).bind (Field.at? · way)
  | _ => none

-- The schema expects a date at the end of a way.
def IsDateAt (schema : Schema) (way : List Turn) : Prop :=
  ∃ f, schema.at? way = some f ∧ f.kind = .date

end Schema

section Moments

variable {v : Value} {m : Moment}

theorem Moment.universal_aware (m : Moment) : m.inUniversal.isAware = true := by
  unfold inUniversal isAware
  cases known : m.offset with
  | some o => rw [known]; rfl
  | none => rfl

theorem Moment.aware_universal (aware : m.isAware = true) : m.inUniversal = m := by
  unfold inUniversal
  cases known : m.offset with
  | some o => rfl
  | none => simp [isAware,known] at aware

theorem Value.toMoment_aware (denotes : v.toMoment = .ok m) : m.isAware = true := by
  cases v with
  | moment n => cases denotes; exact Moment.universal_aware n
  | date d => cases denotes; rfl
  | text s =>
    unfold toMoment at denotes
    simp only at denotes
    cases read : s.spelled?.bind Moment.read? with
    | none => rw [read] at denotes; cases denotes
    | some n =>
      rw [read] at denotes
      cases denotes
      obtain ⟨_,_,found⟩ := Option.bind_eq_some_iff.mp read
      obtain ⟨k,_,rfl⟩ := Option.map_eq_some_iff.mp found
      exact Moment.universal_aware k
  | _ => cases denotes

theorem Value.asMoment_cases (v : Value) : v.asMoment = v ∨ ∃ m, v.asMoment = .moment m ∧ m.isAware = true := by
  unfold asMoment
  cases denotes : v.toMoment with
  | ok m => exact .inr ⟨m,rfl,toMoment_aware denotes⟩
  | error f => exact .inl rfl

-- What has been read is not read in another way again, and what could not be read still cannot.
theorem Value.asMoment_stable (v : Value) : v.asMoment.asMoment = v.asMoment := by
  rcases v.asMoment_cases with same | ⟨m,read,aware⟩
  · rw [same,same]
  · rw [read]
    exact congrArg Value.moment (Moment.aware_universal aware)

end Moments

namespace Document

variable {f : Field} {v w key : Value} {way further : List Turn} {properties : List Field} {entries : Entries}
  {schema : Schema}

-- A value as it is read where a field is known for it.
def coerceAs : Option Field → Value → Value
  | some f, v => coerce f v
  | none, v => v

theorem coerceAs_none : coerceAs none = id :=
  rfl

section Turns

theorem coerceProperty_last (key v : Value) (properties : List Field) :
    coerceProperty key v properties = coerceAs (properties.reverse.find? (isNamed key)) v := by
  induction properties with
  | nil => rfl
  | cons p rest ih =>
    rw [coerceProperty,List.reverse_cons,List.find?_append,ih]
    cases later : rest.reverse.find? (isNamed key) with
    | some q =>
      have named : rest.any (isNamed key) = true :=
        List.any_eq_true.mpr ⟨q,List.mem_reverse.mp (List.mem_of_find?_eq_some later),List.find?_some later⟩
      simp [named]
    | none =>
      have unnamed : rest.any (isNamed key) = false := by
        simpa [List.any_eq_false] using later
      cases own : isNamed key p <;> simp [own,unnamed,coerceAs]

theorem coerce_list (f : Field) (items : List Value) :
    coerce f (.list items) = .list (items.map (coerceAs f.item?)) := by
  cases f with
  | array h lo hi item => rfl
  | _ => simp [coerce,Value.asMoment,Value.toMoment,Field.item?,coerceAs_none]

theorem coerce_map (f : Field) (entries : Entries) :
    coerce f (.map entries) = .map (entries.map fun entry => (entry.1,coerceAs (f.entry? entry.1) entry.2)) := by
  cases f with
  | record h inner => rfl
  | object h properties => simp only [coerce,coerceProperty_last,Field.entry?]
  | _ => simp [coerce,Value.asMoment,Value.toMoment,Field.entry?,coerceAs_none]

theorem coerce_date (isDate : f.kind = .date) (v : Value) : coerce f v = v.asMoment := by
  cases f with
  | date h min max => rw [coerce]
  | _ => cases isDate

end Turns

section Parts

theorem coerceAs_list (f? : Option Field) (items : List Value) :
    coerceAs f? (.list items) = .list (items.map (coerceAs (f?.bind Field.item?))) := by
  cases f? with
  | some f => exact coerce_list f items
  | none => simp [coerceAs_none]

theorem coerceAs_map (f? : Option Field) (entries : Entries) :
    coerceAs f? (.map entries) =
      .map (entries.map fun entry => (entry.1,coerceAs (f?.bind (Field.entry? entry.1)) entry.2)) := by
  cases f? with
  | some f => exact coerce_map f entries
  | none => simp [coerceAs_none]

-- A part is read by the field that is meant for it, wherever it stands.
theorem coerceAs_part (part : Value.Part v way w) (f? : Option Field) :
    Value.Part (coerceAs f? v) way (coerceAs (f?.bind (Field.at? · way)) w) := by
  induction part generalizing f? with
  | whole v =>
    have same : (f?.bind (Field.at? · [])) = f? := by cases f? <;> rfl
    rw [same]
    exact .whole _
  | @item items i x w way here inside ih =>
    have below : f?.bind (Field.at? · (.item i :: way)) = (f?.bind Field.item?).bind (Field.at? · way) := by
      cases f? <;> rfl
    rw [coerceAs_list,below]
    exact .item (by rw [List.getElem?_map,here]; rfl) (ih _)
  | @entry entries i key x w way here inside ih =>
    have below : f?.bind (Field.at? · (.entry i key :: way)) =
        (f?.bind (Field.entry? key)).bind (Field.at? · way) := by
      cases f? <;> rfl
    rw [coerceAs_map,below]
    exact .entry (by rw [List.getElem?_map,here]; rfl) (ih _)

-- Whatever is neither list nor mapping is read as a date, or not at all.
theorem coerceAs_other (f? : Option Field) (bare : v.keys? = none) (single : v.size? = none) :
    coerceAs f? v = v ∨ (∃ f, f? = some f ∧ f.kind = .date) ∧ coerceAs f? v = v.asMoment := by
  cases f? with
  | none => exact .inl rfl
  | some f =>
    cases f with
    | date h min max => exact .inr ⟨⟨_,rfl,rfl⟩,coerce_date rfl v⟩
    | array h lo hi item =>
      cases v with
      | list items => cases single
      | _ => exact .inl rfl
    | object h properties =>
      cases v with
      | map entries => cases bare
      | _ => exact .inl rfl
    | record h inner =>
      cases v with
      | map entries => cases bare
      | _ => exact .inl rfl
    | _ => exact .inl rfl

-- Neither the keys of a mapping nor the length of a list change.
theorem coerceAs_frame (f? : Option Field) (v : Value) :
    (coerceAs f? v).keys? = v.keys? ∧ (coerceAs f? v).size? = v.size? := by
  induction v using Value.part_induction with
  | list items _ =>
    rw [coerceAs_list]
    exact ⟨rfl,congrArg some (List.length_map _)⟩
  | map entries _ =>
    rw [coerceAs_map]
    exact ⟨congrArg some (by rw [List.map_map]; rfl),rfl⟩
  | other v bare single =>
    rcases coerceAs_other f? bare single with same | ⟨_,read⟩
    · rw [same]
      exact ⟨rfl,rfl⟩
    · rcases v.asMoment_cases with same | ⟨m,moment,_⟩
      · rw [read,same]
        exact ⟨rfl,rfl⟩
      · rw [read,moment,bare,single]
        exact ⟨rfl,rfl⟩

theorem coerceAs_stable (f? : Option Field) (v : Value) : coerceAs f? (coerceAs f? v) = coerceAs f? v := by
  induction v using Value.part_induction generalizing f? with
  | list items ih =>
    rw [coerceAs_list,coerceAs_list,List.map_map]
    refine congrArg Value.list (List.map_congr_left ?_)
    intro x member
    exact ih x member _
  | map entries ih =>
    rw [coerceAs_map,coerceAs_map,List.map_map]
    refine congrArg Value.map (List.map_congr_left ?_)
    intro entry member
    exact congrArg (Prod.mk entry.1) (ih entry member _)
  | other v bare single =>
    rcases coerceAs_other f? bare single with same | ⟨⟨f,rfl,isDate⟩,read⟩
    · rw [same,same]
    · rw [read,coerceAs,coerce_date isDate,v.asMoment_stable]

-- Where no date is meant, neither for a value nor for a part of it, nothing is read.
theorem coerceAs_dateless (f? : Option Field) (v : Value)
    (dateless : ∀ way x f, Value.Part v way x → f?.bind (Field.at? · way) = some f → f.kind ≠ .date) :
    coerceAs f? v = v := by
  induction v using Value.part_induction generalizing f? with
  | list items ih =>
    rw [coerceAs_list]
    refine congrArg Value.list ((List.map_congr_left ?_).trans (List.map_id _))
    intro x member
    obtain ⟨i,here⟩ := List.mem_iff_getElem?.mp member
    refine ih x member _ fun way y f inside found => dateless (.item i :: way) y f (.item here inside) ?_
    rw [← found]
    cases f? <;> rfl
  | map entries ih =>
    rw [coerceAs_map]
    refine congrArg Value.map ((List.map_congr_left ?_).trans (List.map_id _))
    intro entry member
    obtain ⟨i,here⟩ := List.mem_iff_getElem?.mp member
    refine congrArg (Prod.mk entry.1) (ih entry member _ fun way y f inside found =>
      dateless (.entry i entry.1 :: way) y f (.entry here inside) ?_)
    rw [← found]
    cases f? <;> rfl
  | other v bare single =>
    rcases coerceAs_other f? bare single with same | ⟨⟨f,rfl,isDate⟩,_⟩
    · exact same
    · exact absurd isDate (dateless [] v f (.whole v) rfl)

end Parts

section Documents

theorem coerceEntry_read (schema : Schema) (entry : Value × Value) :
    coerceEntry schema entry = coerceAs (schema.get? entry.1) entry.2 := by
  unfold coerceEntry
  cases schema.get? entry.1 <;> rfl

theorem at_append (f : Field) (way further : List Turn) : f.at? (way ++ further) = (f.at? way).bind (·.at? further) := by
  induction way generalizing f with
  | nil => rfl
  | cons turn way ih =>
    cases turn with
    | item i =>
      rw [List.cons_append,Field.at?,Field.at?,Option.bind_assoc]
      exact congrArg f.item?.bind (funext ih)
    | entry i key =>
      rw [List.cons_append,Field.at?,Field.at?,Option.bind_assoc]
      exact congrArg (f.entry? key).bind (funext ih)

theorem schema_append (schema : Schema) {way : List Turn} (turned : way ≠ []) (further : List Turn) :
    schema.at? (way ++ further) = (schema.at? way).bind (·.at? further) := by
  cases way with
  | nil => exact absurd rfl turned
  | cons turn way =>
    cases turn with
    | item i => rfl
    | entry i key =>
      rw [List.cons_append,Schema.at?,Schema.at?,Option.bind_assoc]
      exact congrArg (schema.get? key).bind (funext fun f => at_append f way further)

theorem coerced_stable (schema : Schema) (entries : Entries) :
    coerced schema (coerced schema entries) = coerced schema entries := by
  unfold coerced
  rw [List.map_map]
  apply List.map_congr_left
  intro entry _
  simp only [Function.comp,coerceEntry_read,coerceAs_stable]

theorem coerced_part (part : Value.Part (.map entries) way v) (turned : way ≠ []) :
    Value.Part (.map (coerced schema entries)) way (coerceAs (schema.at? way) v) := by
  cases part with
  | whole => exact absurd rfl turned
  | @entry _ i key x _ way here inside =>
    rw [Schema.at?]
    refine .entry ?_ (coerceAs_part inside (schema.get? key))
    rw [coerced,List.getElem?_map,here]
    exact congrArg (fun w => some (key,w)) (coerceEntry_read schema (key,x))

theorem coerced_dateless (dateless : ∀ way x, Value.Part (.map entries) way x → ¬ schema.IsDateAt way) :
    coerced schema entries = entries := by
  refine (List.map_congr_left ?_).trans (List.map_id _)
  intro entry member
  obtain ⟨i,here⟩ := List.mem_iff_getElem?.mp member
  rw [coerceEntry_read,coerceAs_dateless]
  · rfl
  · intro way x f inside found isDate
    exact dateless (.entry i entry.1 :: way) x (.entry here inside) ⟨f,found,isDate⟩

theorem date_read (isDate : schema.IsDateAt way) (v : Value) :
    coerceAs (schema.at? way) v = v ∨ ∃ m, coerceAs (schema.at? way) v = .moment m ∧ m.isAware = true := by
  obtain ⟨f,found,isDate⟩ := isDate
  rw [found,coerceAs,coerce_date isDate]
  exact v.asMoment_cases

-- Reading the dates of any document by any schema succeeds, and a second time it changes nothing.
-- Every part stays where it is with its keys and its length. At the place of a date it stays what it
-- is or becomes a moment with an offset; if neither it nor anything in it is at such a place, it stays.
theorem coercion_exact (schema : Schema) (entries : Entries) :
    ∃ read, coerceDates schema (.map entries) = .ok read ∧ coerceDates schema read = .ok read ∧
      ∀ way v, Value.Part (.map entries) way v → ∃ w, Value.Part read way w ∧
        w.keys? = v.keys? ∧ w.size? = v.size? ∧
        (schema.IsDateAt way → w = v ∨ ∃ m, w = .moment m ∧ m.isAware = true) ∧
        ((∀ further x, Value.Part v further x → ¬ schema.IsDateAt (way ++ further)) → w = v) := by
  refine ⟨.map (coerced schema entries),coerceDates_map schema entries,?_,?_⟩
  · rw [coerceDates_map]
    exact congrArg (fun entries => Except.ok (Value.map entries)) (coerced_stable schema entries)
  intro way v part
  by_cases turned : way = []
  · subst turned
    cases part
    refine ⟨_,.whole _,congrArg some (by rw [coerced,List.map_map]; rfl),rfl,?_,?_⟩
    · rintro ⟨f,found,_⟩
      cases found
    · intro dateless
      exact congrArg Value.map (coerced_dateless dateless)
  · obtain ⟨keys,size⟩ := coerceAs_frame (schema.at? way) v
    refine ⟨_,coerced_part part turned,keys,size,fun isDate => date_read isDate v,?_⟩
    intro dateless
    apply coerceAs_dateless
    intro further x f inside found isDate
    exact dateless further x inside ⟨f,(schema_append schema turned further).trans found,isDate⟩

end Documents

end Document

end TemplateSchema
