import TemplateSchema.Number.Binary64
/-!
Sums and products of binary64 numbers: exact, then rounded once.
-/
set_option autoImplicit false
namespace TemplateSchema.Binary64

-- An exact zero is positive.
def ofRat (q : Rat) : Binary64 :=
  ofRatio (q < 0) q.num.natAbs q.den

def neg : Binary64 → Binary64
  | .finite negative m e h => .finite (!negative) m e h
  | .infinite negative => .infinite (!negative)
  | .nan => .nan

def add (x y : Binary64) : Binary64 :=
  match x, y with
  | .nan, _ | _, .nan => .nan
  | .infinite a, .infinite b => if a = b then .infinite a else .nan
  | .infinite a, .finite .. | .finite .., .infinite a => .infinite a
  | .finite .., .finite .. => ofRat (x.toRat?.getD 0 + y.toRat?.getD 0)

def mul (x y : Binary64) : Binary64 :=
  match x, y with
  | .nan, _ | _, .nan => .nan
  | .infinite a, .infinite b => .infinite (a != b)
  | .infinite a, .finite b m _ _ | .finite b m _ _, .infinite a => if m = 0 then .nan else .infinite (a != b)
  | .finite a .., .finite b .. =>
    let product := x.toRat?.getD 0 * y.toRat?.getD 0
    if product = 0 then zero (a != b) else ofRat product

end TemplateSchema.Binary64
