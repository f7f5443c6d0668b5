import TemplateSchema.Failure
/-!
Values that denote a moment: moments themselves, dates as their midnight, and text in a standard
form. Where no offset is given, universal time is meant.
-/
set_option autoImplicit false
namespace TemplateSchema

-- Text as a reader of moments takes it: half of a pair can only be the mark in front of a time.
def Text.spelled? : Text → Option String
  | .whole s => some s
  | .torn front _ back =>
    let place := (front.toList.dropWhile Text.isBlank).length
    if place = 7 ∨ place = 8 ∨ place = 10 then
      (back.mapM Point.char?).map fun cs => front ++ "T" ++ String.ofList cs
    else none

namespace Value

def toMoment (v : Value) : Except Failure Moment :=
  match v with
  | .moment m => .ok m.inUniversal
  | .date d => .ok (Moment.midnight d (some Offset.universal))
  | .text s => match s.spelled?.bind Moment.read? with
    | some m => .ok m
    | none => .error (.invalidDate v)
  | _ => .error (.notDate v.kindName)

-- The moment that a value denotes, or the value where it denotes none.
def asMoment (v : Value) : Value :=
  match v.toMoment with
  | .ok m => .moment m
  | .error _ => v

end Value

end TemplateSchema
