import TemplateSchema.Proofs.Number.Exact
import TemplateSchema.Proofs.Shape.Compiled
/-!
Fields and shapes that come from one declaration. The relation says what the two have in common; it
holds of what one declaration is normalized to and compiled to, if its flags are truth values and
its options are text.
-/
set_option autoImplicit false
namespace TemplateSchema

open Declaration (given?)

-- The slot of a property, known by the property's name. It can be left out where the property is
-- optional or has a default.
structure IsSlotOf (p : Field) (slot : Slot) : Prop where
  key : slot.key = p.name
  default_ : slot.default?.isSome = (p.default?.isSome || p.isOptional)

def memberOf (row : Field × Slot × Shape) : Slot × Shape :=
  (row.2.1,Shape.ofMember row.1.isOptional row.2.2)

-- A bound and its binary64 form; both are there or none is.
def SameBound (bound : Option Quantity) (compiled : Option Binary64) : Prop :=
  bound.map Quantity.toBinary64? = compiled.map some

inductive Twin : Field → Shape → Prop where
  | text {h : Header} {lo hi : Option Nat} {format : Option Format} :
      Twin (.string h (lo.map Int.ofNat) (hi.map Int.ofNat) format) (.text lo hi format)
  | number {h : Header} {lo hi : Option Quantity} {below above : Option Binary64} {isInteger isPositive : Option Bool}
      (lower : SameBound lo below) (upper : SameBound hi above) :
      Twin (.number h lo hi isInteger isPositive)
        (.number below above (isPositive.getD false) true (isInteger.getD false))
  | truth {h : Header} : Twin (.boolean h) .truth
  | moment {h : Header} {lo hi : Option Moment} : Twin (.date h lo hi) (.moment lo hi)
  | list {h : Header} {lo hi : Option Nat} {item : Field} {s : Shape} (inner : Twin item s) :
      Twin (.array h (lo.map Int.ofNat) (hi.map Int.ofNat) item) (.list lo hi (Shape.ofInner item.isOptional s))
  | model {h : Header} {name : String} {rows : List (Field × Slot × Shape)}
      (slots : ∀ row ∈ rows, IsSlotOf row.1 row.2.1) (each : ∀ row ∈ rows, Twin row.1 row.2.2) :
      Twin (.object h (rows.map Prod.fst)) (.model name (rows.map memberOf))
  | anyChoice {h : Header} : Twin (.enum h []) Shape.anyText
  | choice {h : Header} {options : List Text} (some_ : options ≠ []) (whole : ∀ o ∈ options, o.isWhole = true) :
      Twin (.enum h options) (.choice (Shape.distinctOptions (options.map Value.text)))
  | record {h : Header} {inner : Field} {s : Shape} (value : Twin inner s) :
      Twin (.record h inner) (.record (Shape.ofInner inner.isOptional s))

theorem integer_length {v : Value} {n : Int} {m : Nat} (read : Attribute.integer v = .ok n)
    (counted : Shape.length? v = some m) : n = m := by
  have count {k : Int} (equal : v.count? = some k) : k = m := by
    unfold Shape.length? at counted
    rw [equal] at counted
    simp only at counted
    split at counted
    · cases counted; omega
    · cases counted
  cases v with
  | int k => cases read; exact count rfl
  | bool b => cases read; exact count rfl
  | _ => cases counted

theorem size_twin {keys : Entries} {key stored : String} {lo : Option Int} {least : Option Nat}
    (read : Normal.constraint keys key stored Attribute.integer = .ok lo)
    (compiled : Shape.constraint? keys key Shape.length? = some least) : lo = least.map Int.ofNat := by
  rcases Normal.constraint_exact.mp read with ⟨_,rfl⟩ | ⟨v,n,given,integer,rfl⟩
  · rcases Shape.constraint_exact.mp compiled with ⟨_,rfl⟩ | ⟨_,_,given,_⟩
    · rfl
    · simp_all
  · rcases Shape.constraint_exact.mp compiled with ⟨absent,_⟩ | ⟨w,m,same,counted,rfl⟩
    · simp_all
    · obtain rfl : v = w := Option.some.inj (given.symm.trans same)
      exact congrArg some (integer_length integer counted)

theorem quantity_bound {v : Value} {q : Quantity} {x : Binary64} (read : Attribute.quantity v = .ok q)
    (compiled : Shape.bound? v = some x) : q.toBinary64? = some x := by
  cases v with
  | int n => cases read; exact compiled
  | bool b => cases read; exact compiled
  | float y => cases read; exact compiled
  | _ => cases compiled

theorem bound_twin {keys : Entries} {key stored : String} {bound : Option Quantity} {x : Option Binary64}
    (read : Normal.constraint keys key stored Attribute.quantity = .ok bound)
    (compiled : Shape.constraint? keys key Shape.bound? = some x) : SameBound bound x := by
  rcases Normal.constraint_exact.mp read with ⟨_,rfl⟩ | ⟨v,q,given,quantity,rfl⟩
  · rcases Shape.constraint_exact.mp compiled with ⟨_,rfl⟩ | ⟨_,_,given,_⟩
    · rfl
    · simp_all
  · rcases Shape.constraint_exact.mp compiled with ⟨absent,_⟩ | ⟨w,y,same,converted,rfl⟩
    · simp_all
    · obtain rfl : v = w := Option.some.inj (given.symm.trans same)
      exact congrArg some (quantity_bound quantity converted)

-- A flag that is given is a truth value, not text that spells one out.
def IsFlag (keys : Entries) (key : String) : Prop :=
  ∀ v, given? keys key = some v → ∃ b, v = .bool b

theorem flag_twin {keys : Entries} {key stored : String} {flag : Option Bool} (isFlag : IsFlag keys key)
    (read : Normal.constraint keys key stored Attribute.truth = .ok flag) :
    (Entries.field keys key).isTruthy = flag.getD false := by
  rcases Normal.constraint_exact.mp read with ⟨absent,rfl⟩ | ⟨v,b,given,truth,rfl⟩
  · rw [Declaration.given_absent absent]; rfl
  · obtain ⟨c,rfl⟩ := isFlag v given
    rw [Declaration.given_field given]
    cases truth
    rfl

-- The options that are given are text.
def HasTextOptions (keys : Entries) : Prop :=
  ∀ members, (Entries.field keys "options").membersOrNone? = some members → ∀ o ∈ members, ∃ s, o = .text s

theorem options_twin {members : List Value} {options : List Text} (position : Nat)
    (text : ∀ o ∈ members, ∃ s, o = .text s) (read : Reading.items Attribute.text position members = .ok options) :
    members = options.map Value.text := by
  induction members generalizing position options with
  | nil => cases read; rfl
  | cons o rest ih =>
    obtain ⟨s,rfl⟩ := text o (by simp)
    rw [Reading.items,Success.map_exact] at read
    obtain ⟨⟨first,others⟩,read,rfl⟩ := read
    rw [Reading.and_exact,Reading.under_exact] at read
    have tail := ih _ (fun o member => text o (by simp [member])) read.2
    cases read.1
    simp [tail]

-- What the two engines need of a declaration to read it alike.
def WellTyped : Declaration → Prop
  | .number keys => IsFlag keys "integer" ∧ IsFlag keys "positive"
  | .enum keys => HasTextOptions keys
  | _ => True

theorem slot_named {position : Nat} {name : Value} {text : Text} {key : String} (read : Attribute.text name = .ok text)
    (named : Shape.slotKey? position name = some key) : name = .text text ∧ key = text := by
  cases name with
  | text s =>
    cases read
    exact ⟨rfl,(Shape.slotKey_text named).symm⟩
  | null => cases read
  | _ => cases named

mutual

theorem twin_of_declaration : (d : Declaration) → ∀ {name : Value} {f : Field} {s : Shape},
    d.Everywhere WellTyped → (Normal.field name d).outcome = .ok f →
      (Shape.draft name d).outcome = .ok (some s) → Twin f s
  | .broken _, _, _, _, _, read, _ => by cases read
  | .string _, _, _, _, _, read, drafted => by
    obtain ⟨least,most,rfl,below,above⟩ := Shape.string_drafted drafted
    cases Normal.field_exact read with
    | string head lower upper =>
      rw [size_twin lower below,size_twin upper above]
      exact .text
  | .number _, _, _, _, typed, read, drafted => by
    obtain ⟨least,most,rfl,below,above⟩ := Shape.number_drafted drafted
    cases Normal.field_exact read with
    | number head lower upper integer positive =>
      rw [flag_twin typed.1 integer,flag_twin typed.2 positive]
      exact .number (bound_twin lower below) (bound_twin upper above)
  | .boolean _, _, _, _, _, read, drafted => by
    cases drafted
    cases Normal.field_exact read
    exact .truth
  | .date _, _, _, _, _, read, drafted => by
    obtain ⟨least,most,rfl,below,above⟩ := Shape.date_drafted drafted
    cases Normal.field_exact read with
    | date head lower upper =>
      rw [below] at lower
      rw [above] at upper
      cases lower
      cases upper
      exact .moment
  | .array _ item, _, _, _, typed, read, drafted => by
    obtain ⟨least,most,s,rfl,below,above,compiled⟩ := Shape.array_drafted drafted
    cases Normal.field_exact read with
    | array head lower upper nested =>
      rw [size_twin lower below,size_twin upper above,← (Normal.field_header nested).2.1]
      exact .list (twin_of_declaration item typed.2 nested compiled)
  | .object _ properties, _, _, _, typed, read, drafted => by
    obtain ⟨model,members,usable,rfl,_,compiled,all⟩ := Shape.object_drafted drafted
    cases Normal.field_exact read with
    | object head nested =>
      obtain ⟨rows,rfl,rfl,_,slots,each⟩ := rows_of_declarations properties typed.2 nested compiled all
      exact .model slots each
  | .enum _, _, _, _, typed, read, drafted => by
    obtain ⟨members,listed,whole,rfl⟩ := Shape.enum_drafted drafted
    cases Normal.field_exact read with
    | enum head relisted texts =>
      obtain rfl := Option.some.inj (listed.symm.trans relisted)
      obtain rfl := options_twin 0 (typed members listed) texts
      cases ‹List Text› with
      | nil => exact .anyChoice
      | cons o rest =>
        refine .choice (by simp) fun o member => ?_
        simpa [Value.isTorn] using whole _ (List.mem_map_of_mem member)
  | .record _ value, _, _, _, typed, read, drafted => by
    obtain ⟨s,rfl,compiled⟩ := Shape.record_drafted drafted
    cases Normal.field_exact read with
    | record head nested =>
      rw [← (Normal.field_header nested).2.1]
      exact .record (twin_of_declaration value typed.2 nested compiled)
  | .unknown _, _, _, _, _, read, drafted => by
    obtain rfl := Shape.unknown_drafted drafted
    cases Normal.field_exact read
    exact @Twin.text _ none none none

theorem rows_of_declarations : (properties : List (Value × Declaration)) → ∀ {position : Nat} {fields : List Field}
    {members : List (Option Slot × Shape.Draft)} {usable : List (Slot × Shape)},
    Declaration.EverywhereIn WellTyped properties → (Normal.fieldsOf properties).outcome = .ok fields →
      (Shape.drafts position properties).outcome = .ok members → Shape.allUsable members = some usable →
      ∃ rows : List (Field × Slot × Shape), fields = rows.map Prod.fst ∧ usable = rows.map memberOf ∧
        properties.map Prod.fst = rows.map (fun row => Value.text row.1.name) ∧
        (∀ row ∈ rows, IsSlotOf row.1 row.2.1) ∧ ∀ row ∈ rows, Twin row.1 row.2.2
  | [], _, _, _, _, _, read, drafted, all => by
    cases read
    cases drafted
    cases all
    exact ⟨[],rfl,rfl,rfl,by simp,by simp⟩
  | (name,d) :: rest, position, _, _, _, typed, read, drafted, all => by
    obtain ⟨f,_,first,others,rfl⟩ := Normal.fieldsOf_cons.mp read
    obtain ⟨slot,s,_,_,slotted,compiled,tail,usables,rfl⟩ := Shape.drafts_cons drafted all
    obtain ⟨rows,rfl,rfl,names,slots,each⟩ := rows_of_declarations rest typed.2 others tail usables
    obtain ⟨named,optional,default_⟩ := Normal.field_header first
    obtain ⟨keyed,fallback⟩ := Shape.slot_exact slotted
    obtain ⟨rfl,key⟩ := slot_named named keyed
    refine ⟨(f,slot,s) :: rows,rfl,?_,by simp [names],?_,?_⟩
    · simp [memberOf,optional]
    · intro row member
      rcases List.mem_cons.mp member with rfl | old
      · refine ⟨key,?_⟩
        rw [fallback,default_,optional,Option.isSome_or]
        cases d.isOptional <;> rfl
      · exact slots row old
    · intro row member
      rcases List.mem_cons.mp member with rfl | old
      · exact twin_of_declaration d typed.1 first compiled
      · exact each row old

end

-- A document is an object with the fields of its schema as properties.
def Schema.document (schema : Schema) : Field :=
  .object ⟨"","",false,none⟩ (schema.map Prod.snd)

-- The fields of a document and the model of it.
theorem twin_of_schema {declared : Value} {name : Text} {schema : Schema} {shape : Shape}
    (typed : Declaration.Throughout WellTyped declared) (normalized : (Normal.schema declared).outcome = .ok schema)
    (compiled : (Shape.ofSchema declared (.text name)).outcome = .ok shape) :
    Twin schema.document shape ∧ ∀ row ∈ schema, row.1 = .text row.2.name := by
  obtain ⟨properties,found,normalized⟩ := Normal.schema_exact.mp normalized
  obtain ⟨fields,keys⟩ := Normal.schemaOf_exact normalized
  obtain ⟨_,again,members,usable,_,refound,drafted,all,rfl⟩ := Shape.ofSchema_exact compiled
  obtain rfl : properties = again := Except.ok.inj (found.symm.trans refound)
  obtain ⟨rows,values,rfl,names,slots,each⟩ := rows_of_declarations properties (typed _ found) fields drafted all
  have schemaRows : schema = rows.map (fun row => (Value.text row.1.name,row.1)) := by
    rw [List.zip_of_prod (keys.trans names) values,List.zip_map']
  refine ⟨?_,?_⟩
  · rw [Schema.document,values]
    exact .model slots each
  · rw [schemaRows]
    intro row member
    obtain ⟨_,_,rfl⟩ := List.mem_map.mp member
    rfl

end TemplateSchema
