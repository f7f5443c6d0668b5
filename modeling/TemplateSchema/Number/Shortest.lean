import TemplateSchema.Number.Binary64
import TemplateSchema.Text.Decimal
/-!
The shortest decimal that reads back as a given finite number, and its two layouts: one that
moves to an exponent for very large and very small numbers, and one that never does.
-/
set_option autoImplicit false
namespace TemplateSchema

-- A positive decimal: `digits * 10 ^ exponent`.
structure Decimal where
  digits : Nat
  exponent : Int
  deriving DecidableEq

namespace Decimal

def toBinary64 (d : Decimal) : Binary64 :=
  Binary64.ofDecimal false d.digits d.exponent

-- Trailing zeros move into the exponent.
def normalize : Nat → Decimal → Decimal
  | 0, d => d
  | fuel + 1, d =>
    if d.digits % 10 = 0 ∧ d.digits ≠ 0 then normalize fuel ⟨d.digits / 10, d.exponent + 1⟩ else d

-- The position after the first digit's: `10 ^ (p - 1) ≤ value < 10 ^ p`.
def magnitudeOf (num den : Nat) : Int :=
  let guess : Int := (Nat.toDigits 10 num).length - (Nat.toDigits 10 den).length
  if num * Nat.pow 10 (-guess).toNat < den * Nat.pow 10 guess.toNat then guess else guess + 1

-- On the grid of `10 ^ exponent`, the neighbours of the value that read back as it; of two, the
-- nearer, and of two equally near the even one.
def onGrid? (x : Binary64) (num den : Nat) (exponent : Int) : Option Decimal :=
  let scaled := num * Nat.pow 10 (-exponent).toNat
  let unit := den * Nat.pow 10 exponent.toNat
  let below : Decimal := ⟨scaled / unit, exponent⟩
  let above : Decimal := ⟨scaled / unit + 1, exponent⟩
  let rest := scaled % unit
  let nearer := if 2 * rest < unit ∨ (2 * rest = unit ∧ below.digits % 2 = 0) then below else above
  let farther := if nearer = below then above else below
  if nearer.toBinary64 = x then some nearer
  else if farther.toBinary64 = x then some farther
  else none

-- The first grid, from coarse to fine, on which the value has a neighbour that reads back.
def shortestFrom (x : Binary64) (num den : Nat) (position : Int) : Nat → Nat → Decimal
  | 0, count => ⟨num * Nat.pow 10 (count - position).toNat / den, position - count⟩
  | fuel + 1, count =>
    match onGrid? x num den (position - count) with
    | some d => d
    | none => shortestFrom x num den position fuel (count + 1)

def shortest (significand : Nat) (exponent : Int) (h : IsCanonical significand exponent) : Decimal :=
  if significand = 0 then ⟨0, 0⟩
  else
    let num := significand * Nat.pow 2 exponent.toNat
    let den := Nat.pow 2 (-exponent).toNat
    normalize 400 (shortestFrom (.finite false significand exponent h) num den (magnitudeOf num den) 17 1)

-- Positional layout; `fraction` is written after a number without a fractional part.
def positional (d : Decimal) (fraction : String) : String :=
  let ds := Nat.toDigits 10 d.digits
  let point : Int := ds.length + d.exponent
  if 0 ≤ d.exponent then String.ofList (ds ++ List.replicate d.exponent.toNat '0') ++ fraction
  else if 0 < point then
    String.ofList (ds.take point.toNat) ++ "." ++ String.ofList (ds.drop point.toNat)
  else "0." ++ String.ofList (List.replicate (-point).toNat '0' ++ ds)

-- One digit, the others behind a point, and an exponent of at least two digits.
def scientific (d : Decimal) : String :=
  let ds := Nat.toDigits 10 d.digits
  let exponent : Int := ds.length + d.exponent - 1
  let mantissa := match ds with
    | [] => ""
    | [c] => String.singleton c
    | c :: rest => String.singleton c ++ "." ++ String.ofList rest
  mantissa ++ "e" ++ (if exponent < 0 then "-" else "+") ++ Text.paddedDecimal 2 exponent.natAbs

-- Positional between a ten-thousandth and `10 ^ 16`, with `.0` on whole numbers.
def display (d : Decimal) : String :=
  let point : Int := (Nat.toDigits 10 d.digits).length + d.exponent
  if d.digits = 0 ∨ (-4 < point ∧ point ≤ 16) then d.positional ".0" else d.scientific

end Decimal

namespace Binary64

def signText (negative : Bool) : String :=
  if negative then "-" else ""

-- The text from which a number is read back.
def display : Binary64 → String
  | .finite negative m e h => signText negative ++ (Decimal.shortest m e h).display
  | .infinite negative => signText negative ++ "inf"
  | .nan => "nan"

-- The text of a bound: positional whatever its size, without a fractional part of zero.
def plain : Binary64 → String
  | .finite negative m e h => signText negative ++ (Decimal.shortest m e h).positional ""
  | .infinite negative => signText negative ++ "inf"
  | .nan => "NaN"

end Binary64

end TemplateSchema
