/-!
Decimal and hexadecimal digits of natural numbers, and padding with zeros.
-/
set_option autoImplicit false
namespace TemplateSchema.Text

def decimal (n : Nat) : String :=
  String.ofList (Nat.toDigits 10 n)

def signedDecimal (n : Int) : String :=
  if n < 0 then "-" ++ decimal n.natAbs else decimal n.natAbs

def zeroPadded (width : Nat) (digits : List Char) : List Char :=
  List.replicate (width - digits.length) '0' ++ digits

def paddedDecimal (width n : Nat) : String :=
  String.ofList (zeroPadded width (Nat.toDigits 10 n))

-- Lower case, as `Nat.toDigits` writes it.
def paddedHex (width n : Nat) : String :=
  String.ofList (zeroPadded width (Nat.toDigits 16 n))

-- The value of a run of ASCII digits, most significant first.
def natOfDigits (base : Nat) (digits : List Nat) : Nat :=
  digits.foldl (fun n d => n * base + d) 0

end TemplateSchema.Text
