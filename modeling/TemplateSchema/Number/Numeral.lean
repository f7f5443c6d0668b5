import TemplateSchema.Number.Binary64
import TemplateSchema.Text.Blank
import TemplateSchema.Text.Decimal
import TemplateSchema.Text.Digit
/-!
Numbers written as text. Digits may be set apart by single low lines; what counts as a digit is
up to the reader, who passes the function that gives a digit its value.
-/
set_option autoImplicit false
namespace TemplateSchema.Numeral

abbrev DigitValue := Char → Option Nat

-- Digits of a base up to 36 in any script, letters of either case above nine.
def digitInBase? (base : Nat) (c : Char) : Option Nat :=
  let value := match Text.digitValue? c with
    | some d => some d
    | none =>
      if 'a' ≤ c ∧ c ≤ 'z' then some (c.toNat - 87)
      else if 'A' ≤ c ∧ c ≤ 'Z' then some (c.toNat - 55)
      else none
  value.filter (· < base)

-- The digits that go on after a first one, with what is left of the text.
def moreDigits (digit? : DigitValue) : List Char → List Nat × List Char
  | [] => ([], [])
  | [c] => match digit? c with
    | some d => ([d], [])
    | none => ([], [c])
  | a :: b :: rest =>
    match digit? a with
    | some d => let (ds, tail) := moreDigits digit? (b :: rest); (d :: ds, tail)
    | none =>
      match a == '_', digit? b with
      | true, some d => let (ds, tail) := moreDigits digit? rest; (d :: ds, tail)
      | _, _ => ([], a :: b :: rest)

def digitRun (digit? : DigitValue) : List Char → List Nat × List Char
  | [] => ([], [])
  | c :: rest => match digit? c with
    | some d => let (ds, tail) := moreDigits digit? rest; (d :: ds, tail)
    | none => ([], c :: rest)

def splitSign : List Char → Bool × List Char
  | '-' :: rest => (true, rest)
  | '+' :: rest => (false, rest)
  | cs => (false, cs)

def signed (negative : Bool) (n : Nat) : Int :=
  if negative then -(n : Int) else n

def unsignedIn? (digit? : DigitValue) (base : Nat) (cs : List Char) : Option Nat :=
  match digitRun digit? cs with
  | ([], _) => none
  | (ds, []) => some (Text.natOfDigits base ds)
  | _ => none

def integerIn? (digit? : DigitValue) (base : Nat) (cs : List Char) : Option Int :=
  let (negative, rest) := splitSign cs
  (unsignedIn? digit? base rest).map (signed negative)

-- Bases two, eight and sixteen may be spelled out in front of the digits.
def withoutBaseMark (base : Nat) : List Char → List Char
  | '0' :: m :: rest =>
    if (base = 2 ∧ (m = 'b' ∨ m = 'B')) ∨ (base = 8 ∧ (m = 'o' ∨ m = 'O')) ∨
        (base = 16 ∧ (m = 'x' ∨ m = 'X')) then
      match rest with
      | '_' :: tail => tail
      | _ => rest
    else '0' :: m :: rest
  | cs => cs

-- An integer in a base, blanks around it ignored.
def integer? (base : Nat) (cs : List Char) : Option Int :=
  let (negative, rest) := splitSign (Text.strip Text.isBlank cs)
  (unsignedIn? (digitInBase? base) base (withoutBaseMark base rest)).map (signed negative)

-- Above this many digits a decimal text is not turned into an integer, nor an integer into text.
def digitLimit : Nat := 4300

def isShort (n : Int) : Bool :=
  n.natAbs < Nat.pow 10 digitLimit

def digitCount (cs : List Char) : Nat :=
  cs.countP fun c => (Text.digitValue? c).isSome

-- A decimal fraction with an optional exponent: the digits read as one number, and the power
-- of ten that they are to be multiplied by.
structure Scaled where
  negative : Bool
  digits : Nat
  exponent : Int

def Scaled.toBinary64 (s : Scaled) : Binary64 :=
  Binary64.ofDecimal s.negative s.digits s.exponent

-- What follows the mantissa: nothing, or an exponent that ends the text.
def exponent? (digit? : DigitValue) : List Char → Option Int
  | [] => some 0
  | e :: rest => if e = 'e' ∨ e = 'E' then integerIn? digit? 10 rest else none

def scaled? (digit? : DigitValue) (cs : List Char) : Option Scaled := do
  let (negative, rest) := splitSign cs
  let (whole, rest) := digitRun digit? rest
  let (fraction, rest) := match rest with
    | '.' :: tail => digitRun digit? tail
    | _ => ([], rest)
  if whole.isEmpty ∧ fraction.isEmpty then none
  else
    let exponent ← exponent? digit? rest
    some ⟨negative, Text.natOfDigits 10 (whole ++ fraction), exponent - fraction.length⟩

def lowered (cs : List Char) : List Char :=
  cs.map Char.toLower

def special? (cs : List Char) : Option Binary64 :=
  let (negative, rest) := splitSign cs
  let word := String.ofList (lowered rest)
  if word = "inf" ∨ word = "infinity" then some (.infinite negative)
  else if word = "nan" then some .nan
  else none

-- A number, an infinity or a NaN, without blanks around it.
def exactFloat? (digit? : DigitValue) (cs : List Char) : Option Binary64 :=
  match scaled? digit? cs with
  | some s => some s.toBinary64
  | none => special? cs

def float? (cs : List Char) : Option Binary64 :=
  exactFloat? Text.digitValue? (Text.strip Text.isBlank cs)

end TemplateSchema.Numeral
