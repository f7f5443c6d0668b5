import TemplateSchema.Number.Shortest
import TemplateSchema.Value.Display
/-!
Numbers as documents hold them: integers of any size and binary64 numbers, compared exactly.
-/
set_option autoImplicit false
namespace TemplateSchema

inductive Quantity where
  | int (n : Int)
  | float (x : Binary64)
  deriving DecidableEq

namespace Quantity

def lt : Quantity → Quantity → Bool
  | .int m, .int n => m < n
  | .int m, .float y => y.gtInt m
  | .float x, .int n => x.ltInt n
  | .float x, .float y => x.lt y

def isIntegral : Quantity → Bool
  | .int _ => true
  | .float x => x.isIntegral

def isNaN : Quantity → Bool
  | .int _ => false
  | .float x => x.isNaN

-- Above zero.
def isPositive (q : Quantity) : Bool :=
  (Quantity.int 0).lt q

-- Whole numbers without a fraction, others as they are displayed.
def label : Quantity → String
  | .int n => Text.signedDecimal n
  | .float x => match x.toInt? with
    | some n => Text.signedDecimal n
    | none => x.display

def toValue : Quantity → Value
  | .int n => .int n
  | .float x => .float x

-- The number that a value is; truth values and NaN are none.
def ofValue? : Value → Option Quantity
  | .int n => some (.int n)
  | .float x => if x.isNaN then none else some (.float x)
  | _ => none

end Quantity

-- A number without a fraction of zero; other values as they are labelled.
def Value.numberLabel : Value → Text
  | .float x => (Quantity.float x).label
  | v => v.label

end TemplateSchema
