import TemplateSchema.Format.Punycode
import TemplateSchema.Text.Decimal
import TemplateSchema.Text.Digit
import TemplateSchema.Text.Printable
import TemplateSchema.Text.Utf8
/-!
The hosts of addresses on the web: domains, addresses of four bytes in their many spellings, and
addresses of sixteen bytes in brackets.
-/
set_option autoImplicit false
namespace TemplateSchema.Host

def splitOn (mark : Char) : List Char → List (List Char)
  | [] => [[]]
  | c :: rest =>
    if c = mark then [] :: splitOn mark rest
    else match splitOn mark rest with
      | part :: parts => (c :: part) :: parts
      | [] => [[c]]

/-! Addresses of four bytes. -/

-- A leading `0x` asks for base sixteen, another leading zero for base eight.
def base (part : List Char) : Nat × List Char :=
  match part with
  | '0' :: 'x' :: rest => (16, rest)
  | '0' :: 'X' :: rest => (16, rest)
  | '0' :: c :: rest => (8, c :: rest)
  | _ => (10, part)

def partNumber? (part : List Char) : Option Nat :=
  if part.isEmpty then none
  else
    let (base, digits) := base part
    let values := digits.map fun c => (Text.hexDigit? c).filter (· < base)
    if values.all Option.isSome then some (Text.natOfDigits base (values.filterMap id)) else none

-- A final point is not counted.
def parts (domain : List Char) : List (List Char) :=
  let all := splitOn '.' domain
  if 1 < all.length ∧ all.getLast? = some [] then all.dropLast else all

def endsInNumber (domain : List Char) : Bool :=
  match (parts domain).getLast? with
  | none => false
  | some last => !last.isEmpty && (last.all Char.isDigit || (partNumber? last).isSome)

-- At most four numbers, each but the last a byte, the last one filling up what is left.
def isFourBytes (domain : List Char) : Bool :=
  let numbers := (parts domain).map partNumber?
  if 4 < numbers.length then false
  else match numbers.reverse with
    | [] => false
    | last :: before =>
      before.all (Option.any fun n => n < 256) && last.any fun n => n < Nat.pow 256 (4 - before.length)

/-! Addresses of sixteen bytes. -/

def isGroup (cs : List Char) : Bool :=
  1 ≤ cs.length && cs.length ≤ 4 && cs.all fun c => (Text.hexDigit? c).isSome

def isByte (cs : List Char) : Bool :=
  !cs.isEmpty && cs.all Char.isDigit && (cs.length == 1 || cs.head? != some '0') &&
    Text.natOfDigits 10 (cs.filterMap Text.hexDigit?) < 256

def isDotted (cs : List Char) : Bool :=
  let numbers := splitOn '.' cs
  numbers.length == 4 && numbers.all isByte

-- How many groups of two bytes a run holds; four bytes with points may end the address.
def groups? (isLast : Bool) (cs : List Char) : Option Nat :=
  if cs.isEmpty then some 0
  else
    let groups := splitOn ':' cs
    if groups.all isGroup then some groups.length
    else if isLast ∧ groups.dropLast.all isGroup ∧ isDotted (groups.getLast?.getD []) then some (groups.length + 1)
    else none

-- What stands before and behind the first double colon.
def splitGap (before : List Char) : List Char → Option (List Char × List Char)
  | ':' :: ':' :: rest => some (before.reverse, rest)
  | c :: rest => splitGap (c :: before) rest
  | [] => none

-- Eight groups, or fewer around a gap.
def isSixteenBytes (cs : List Char) : Bool :=
  match splitGap [] cs with
  | none => groups? true cs == some 8
  | some (before, behind) =>
    match groups? false before, groups? true behind with
    | some m, some n => m + n ≤ 7
    | _, _ => false

/-! Domains. -/

def percentDecoded : List UInt8 → List UInt8
  | [] => []
  | [b] => [b]
  | [b, c] => [b, c]
  | b :: c :: d :: rest =>
    match b.toNat == 37, Text.hexDigit? (Char.ofNat c.toNat), Text.hexDigit? (Char.ofNat d.toNat) with
    | true, some high, some low => (high * 16 + low).toUInt8 :: percentDecoded rest
    | _, _, _ => b :: percentDecoded (c :: d :: rest)

def isForbidden (c : Char) : Bool :=
  c.toNat ≤ 0x20 || c.toNat == 0x7F || "%#/:<>?@[\\]^|".toList.contains c

-- Wide forms stand for ASCII characters, and there are three more points.
def narrow (c : Char) : Char :=
  let n := c.toNat
  if 0xFF01 ≤ n ∧ n ≤ 0xFF5E then Char.ofNat (n - 0xFEE0)
  else if n = 0x3002 ∨ n = 0xFF61 then '.'
  else c

-- Characters that say only how others are shown.
def isIgnored (c : Char) : Bool :=
  let n := c.toNat
  n == 0xAD || n == 0x200B || n == 0x2060 || n == 0xFEFF || (0xFE00 ≤ n && n ≤ 0xFE0F)

def isAscii (c : Char) : Bool :=
  c.toNat < 128

def isEncoded (label : List Char) : Bool :=
  String.ofList ((label.take 4).map Char.toLower) == "xn--"

-- The characters that stand in for others are no part of a name.
def isNameChar (c : Char) : Bool :=
  isAscii c || (Text.isPrintable c && c.toNat != 0xFFFC && c.toNat != 0xFFFD)

-- An encoded label must spell out something beyond ASCII.
def isLabel (label : List Char) : Bool :=
  if isEncoded label then
    match Punycode.decode? (label.drop 4) with
    | some decoded => decoded.any (!isAscii ·) && decoded.all isNameChar
    | none => false
  else label.all fun c => !isForbidden c && isNameChar c

-- A domain in the form in which it is compared.
def domain? (host : List Char) : Option (List Char) :=
  match Utf8.decode (percentDecoded (String.ofList host).toUTF8.toList) with
  | .error _ => none
  | .ok s =>
    let domain := (s.toList.map narrow).filter (!isIgnored ·)
    if (splitOn '.' domain).all isLabel then some domain else none

def isBracketed (host : List Char) : Bool :=
  host.getLast? == some ']' && isSixteenBytes (host.drop 1).dropLast

def isValid (host : List Char) : Bool :=
  if host.head? = some '[' then isBracketed host
  else match domain? host with
    | none => false
    | some domain => !domain.isEmpty && (!endsInNumber domain || isFourBytes domain)

-- A host of a scheme that does not say what hosts are.
def isOpaque (host : List Char) : Bool :=
  if host.head? = some '[' then isBracketed host
  else !host.any fun c => "\x00\t\n\r #/:<>?@[\\]^|".toList.contains c

end TemplateSchema.Host
