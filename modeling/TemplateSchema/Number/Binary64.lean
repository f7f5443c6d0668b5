/-!
Binary floating-point numbers of 64 bits, as exact values. A finite number is a sign, a
significand and a power of two in lowest form, so equal representations are equal numbers up to
the sign of zero. Every operation is exact arithmetic followed by one rounding.
-/
set_option autoImplicit false
namespace TemplateSchema

-- Normal numbers have 53 significant bits; subnormal ones share the least exponent.
def IsCanonical (significand : Nat) (exponent : Int) : Prop :=
  significand < Nat.pow 2 53 ∧ -1074 ≤ exponent ∧ exponent ≤ 971 ∧
    (Nat.pow 2 52 ≤ significand ∨ exponent = -1074)

instance (significand : Nat) (exponent : Int) : Decidable (IsCanonical significand exponent) :=
  inferInstanceAs (Decidable (_ ∧ _))

inductive Binary64 where
  | finite (negative : Bool) (significand : Nat) (exponent : Int)
      (canonical : IsCanonical significand exponent)
  | infinite (negative : Bool)
  | nan
  deriving DecidableEq

-- The integer nearest to a quotient; a half goes to the even neighbour.
def roundHalfEven (num den : Nat) : Nat :=
  let quotient := num / den
  let rest := num % den
  if den < 2 * rest ∨ (den = 2 * rest ∧ quotient % 2 = 1) then quotient + 1 else quotient

-- The greatest `e` with `2 ^ e ≤ num / den`, for positive `num` and `den`.
def binaryExponent (num den : Nat) : Int :=
  let guess : Int := (Nat.log2 num : Int) - (Nat.log2 den : Int)
  if num * Nat.pow 2 (-guess).toNat < den * Nat.pow 2 guess.toNat then guess - 1 else guess

namespace Binary64

def zero (negative : Bool) : Binary64 :=
  .finite negative 0 (-1074) (by decide)

instance : Inhabited Binary64 := ⟨zero false⟩

-- Rounding may carry into a 54th bit; beyond the greatest exponent nothing is finite.
def pack (negative : Bool) (significand : Nat) (exponent : Int) : Binary64 :=
  if h : IsCanonical significand exponent then .finite negative significand exponent h
  else if h : significand = Nat.pow 2 53 ∧ IsCanonical (Nat.pow 2 52) (exponent + 1) then
    .finite negative (Nat.pow 2 52) (exponent + 1) h.2
  else .infinite negative

-- The number nearest to `num / den` with the given sign, a half going to the even significand.
def ofRatio (negative : Bool) (num den : Nat) : Binary64 :=
  if num = 0 then zero negative
  else
    let exponent := max (binaryExponent num den - 52) (-1074)
    pack negative (roundHalfEven (num * Nat.pow 2 (-exponent).toNat) (den * Nat.pow 2 exponent.toNat)) exponent

-- Decimal digits times a power of ten. Exponents out of any finite range are cut short.
def ofDecimal (negative : Bool) (digits : Nat) (exponent : Int) : Binary64 :=
  let top := exponent + (Nat.toDigits 10 digits).length
  if digits = 0 ∨ top < -400 then zero negative
  else if 400 < top then .infinite negative
  else ofRatio negative (digits * Nat.pow 10 exponent.toNat) (Nat.pow 10 (-exponent).toNat)

-- The number nearest to an integer, if it is finite.
def ofInt? (n : Int) : Option Binary64 :=
  match ofRatio (n < 0) n.natAbs 1 with
  | .finite s m e h => some (.finite s m e h)
  | _ => none

def isNaN : Binary64 → Bool
  | .nan => true
  | _ => false

def isFinite : Binary64 → Bool
  | .finite .. => true
  | _ => false

def magnitude (significand : Nat) (exponent : Int) : Rat :=
  (significand : Rat) * (2 : Rat) ^ exponent

-- The exact value of a finite number.
def toRat? : Binary64 → Option Rat
  | .finite negative significand exponent _ =>
    some (if negative then -magnitude significand exponent else magnitude significand exponent)
  | _ => none

-- The value of a finite number that is an integer.
def toInt? : Binary64 → Option Int
  | .finite negative significand exponent _ =>
    let scaled := significand * Nat.pow 2 exponent.toNat
    let unit := Nat.pow 2 (-exponent).toNat
    if scaled % unit = 0 then
      some (if negative then -((scaled / unit : Nat) : Int) else ((scaled / unit : Nat) : Int))
    else none
  | _ => none

def isIntegral (x : Binary64) : Bool :=
  x.toInt?.isSome

-- An infinity compares like a value beyond all others.
def lt : Binary64 → Binary64 → Bool
  | .nan, _ | _, .nan => false
  | .infinite a, .infinite b => a && !b
  | .infinite a, .finite .. => a
  | .finite .., .infinite b => !b
  | x@(.finite ..), y@(.finite ..) =>
    match x.toRat?, y.toRat? with
    | some p, some q => p < q
    | _, _ => false

-- Numeric equality: the two zeros are equal, and nothing equals a NaN.
def same (x y : Binary64) : Bool :=
  !x.isNaN && !y.isNaN && !lt x y && !lt y x

def le (x y : Binary64) : Bool :=
  lt x y || same x y

-- Whether a number lies below an integer, compared exactly.
def ltInt : Binary64 → Int → Bool
  | .nan, _ => false
  | .infinite negative, _ => negative
  | x@(.finite ..), n => match x.toRat? with
    | some q => q < (n : Rat)
    | none => false

def gtInt : Binary64 → Int → Bool
  | .nan, _ => false
  | .infinite negative, _ => !negative
  | x@(.finite ..), n => match x.toRat? with
    | some q => (n : Rat) < q
    | none => false

end Binary64

end TemplateSchema
