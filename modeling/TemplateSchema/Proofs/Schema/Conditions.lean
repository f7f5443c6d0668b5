import TemplateSchema.Proofs.Number.Exact
import TemplateSchema.Proofs.Schema.Normalized
/-!
Conditions on the declarations of a schema, with what each becomes for the fields that they are
normalized to.
-/
set_option autoImplicit false
namespace TemplateSchema

open Declaration (given?)

def IsExactBound (bound : Option Quantity) : Prop :=
  ∀ q, bound = some q → q.IsExact

namespace Declaration

-- A number or a truth value that binary64 holds without rounding it.
def IsExactNumber : Value → Prop
  | .int n => n.natAbs < 2 ^ 53
  | .float x => x.isNaN = false
  | .bool _ => True
  | _ => False

def HasExactBounds : Declaration → Prop
  | .number keys =>
    (∀ v, given? keys "min" = some v → IsExactNumber v) ∧ ∀ v, given? keys "max" = some v → IsExactNumber v
  | _ => True

-- Neither a format that is supported nor a bound on dates: what the shape alone looks at.
def IsPlain : Declaration → Prop
  | .string keys => Normal.formatNamed? (Entries.field keys "format") = none
  | .date keys => given? keys "min" = none ∧ given? keys "max" = none
  | _ => True

def HasChoice : Declaration → Prop
  | .enum keys => (Entries.field keys "options").membersOrNone? ≠ some []
  | _ => True

def HasRequiredInner : Declaration → Prop
  | .array _ item => item.isOptional = false
  | .record _ value => value.isOptional = false
  | _ => True

-- Nothing may be left out but what is optional, and what is nothing is not accepted inside.
@[mk_iff strict_exact]
structure IsStrict (d : Declaration) : Prop where
  choice : HasChoice d
  inner : HasRequiredInner d
  undefaulted : d.isOptional = false → d.default? = none

end Declaration

namespace Field

def HasExactBounds : Field → Prop
  | .number _ lo hi _ _ => IsExactBound lo ∧ IsExactBound hi
  | _ => True

def IsPlain : Field → Prop
  | .string _ _ _ format => format = none
  | .date _ lo hi => lo = none ∧ hi = none
  | _ => True

def HasChoice : Field → Prop
  | .enum _ options => options ≠ []
  | _ => True

def HasRequiredInner : Field → Prop
  | .array _ _ _ item => item.isOptional = false
  | .record _ inner => inner.isOptional = false
  | _ => True

structure IsStrict (f : Field) : Prop where
  choice : HasChoice f
  inner : HasRequiredInner f
  undefaulted : f.isOptional = false → f.default? = none

end Field

section Conditions

variable {keys : Entries} {name : Value} {d : Declaration} {f : Field}

theorem exact_bound {key stored : String} {bound : Option Quantity}
    (isExact : ∀ v, given? keys key = some v → Declaration.IsExactNumber v)
    (read : Normal.constraint keys key stored Attribute.quantity = .ok bound) : IsExactBound bound := by
  rintro q rfl
  rcases Normal.constraint_exact.mp read with ⟨_,none_⟩ | ⟨v,_,given,quantity,same⟩
  · cases none_
  · cases same
    have number := isExact v given
    cases v with
    | int n => cases quantity; exact number
    | float x => cases quantity; exact number
    | bool b => cases quantity; cases b <;> simp [Quantity.IsExact]
    | _ => exact number.elim

theorem exactBounds_field (isExact : d.HasExactBounds) (read : (Normal.field name d).outcome = .ok f) :
    f.HasExactBounds := by
  cases Normal.field_exact read with
  | number head lower upper integer positive =>
    exact ⟨exact_bound isExact.1 lower,exact_bound isExact.2 upper⟩
  | _ => trivial

theorem absent_dateBound {key : String} {bound : Option Moment} (absent : given? keys key = none)
    (read : Declaration.dateBound keys key = .ok bound) : bound = none := by
  rw [Declaration.dateBound,absent] at read
  cases read
  rfl

theorem plain_field (plain : d.IsPlain) (read : (Normal.field name d).outcome = .ok f) : f.IsPlain := by
  cases Normal.field_exact read with
  | string head lower upper => exact plain
  | date head lower upper => exact ⟨absent_dateBound plain.1 lower,absent_dateBound plain.2 upper⟩
  | unknown head => rfl
  | _ => trivial

theorem options_given {members : List Value} {options : List Text} (given : members ≠ [])
    (read : Reading.items Attribute.text 0 members = .ok options) : options ≠ [] := by
  cases members with
  | nil => exact absurd rfl given
  | cons o rest =>
    rw [Reading.items,Success.map_exact] at read
    obtain ⟨⟨first,others⟩,_,rfl⟩ := read
    simp

theorem choice_field (choice : d.HasChoice) (read : (Normal.field name d).outcome = .ok f) : f.HasChoice := by
  cases Normal.field_exact read with
  | enum head listed texts => exact options_given (fun none_ => choice (none_ ▸ listed)) texts
  | _ => trivial

theorem strict_field (strict : d.IsStrict) (read : (Normal.field name d).outcome = .ok f) : f.IsStrict := by
  obtain ⟨_,optional,default_⟩ := Normal.field_header read
  refine ⟨choice_field strict.choice read,?_,?_⟩
  · cases Normal.field_exact read with
    | array head lower upper nested => exact (Normal.field_header nested).2.1.trans strict.inner
    | record head nested => exact (Normal.field_header nested).2.1.trans strict.inner
    | _ => trivial
  · intro required
    rw [strict.undefaulted (optional.symm.trans required)] at default_
    simpa using default_

end Conditions

end TemplateSchema
