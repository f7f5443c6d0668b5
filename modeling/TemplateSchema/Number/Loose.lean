import TemplateSchema.Number.Numeral
/-!
Numbers as people write them. An integer may have a sign, zeros in front, single low lines between
its digits and a fraction of zeros; blanks around it do not count. What is left when all that is
gone has to be an integer in its plainest form.
-/
set_option autoImplicit false
namespace TemplateSchema.Loose

inductive Fault where
  | malformed
  | tooLong
  deriving DecidableEq

def isNonzeroDigit (c : Char) : Bool :=
  c.isDigit && c != '0'

-- Behind a first zero: `last` is the character in front. A point keeps the zero before it, and a
-- number of nothing but zeros keeps its last character.
def behindZero (last : Char) : List Char → Option (List Char)
  | [] => some [last]
  | c :: rest =>
    if c = '0' ∨ c = '_' then behindZero c rest
    else if isNonzeroDigit c ∨ c = '-' then some (c :: rest)
    else if c = '.' then some (last :: c :: rest)
    else none

-- A number without the zeros in front of it, and the low lines among them.
def withoutZeros : List Char → Option (List Char)
  | [] => none
  | c :: rest =>
    if c = '0' then behindZero c rest
    else if isNonzeroDigit c then some (c :: rest)
    else none

-- A point has to be followed by zeros, and by nothing else.
def withoutZeroFraction (cs : List Char) : List Char :=
  let fraction := (cs.dropWhile (· != '.')).drop 1
  if !fraction.isEmpty && fraction.all (· == '0') then cs.takeWhile (· != '.') else cs

def hasDoubled (mark : Char) : List Char → Bool
  | a :: b :: rest => (a == mark && b == mark) || hasDoubled mark (b :: rest)
  | _ => false

-- A text without its low lines, which must stand alone and inside.
def withoutLowLines? (cs : List Char) : Option (List Char) :=
  if cs.head? = some '_' ∨ cs.getLast? = some '_' ∨ hasDoubled '_' cs then none
  else some (cs.filter (· != '_'))

-- The digits of an integer from its sign on, in their plainest form.
def plain? (cs : List Char) : Option (List Char) := do
  let digits ← withoutZeros cs
  let digits := withoutZeroFraction digits
  some ((withoutLowLines? digits).getD digits)

-- A sign in front; a plus must not hide a minus.
def signedPlain? (cs : List Char) : Option (List Char) :=
  match cs with
  | '+' :: rest => plain? rest
  | '-' :: rest => (plain? rest).map ('-' :: ·)
  | _ => plain? cs

-- Reads an integer in its plainest form, of no more characters than the limit.
def ofPlain (cs : List Char) : Except Fault Int :=
  let (negative, digits) := match cs with
    | '-' :: rest => (true, rest)
    | _ => (false, cs)
  let run := digits.takeWhile Char.isDigit
  if digits = ['0'] then .ok 0
  else if !run.head?.any isNonzeroDigit then .error .malformed
  else if Numeral.digitLimit < run.length + (if negative then 1 else 0) then .error .tooLong
  else if run.length = digits.length then
    .ok (Numeral.signed negative (Text.natOfDigits 10 (run.filterMap Text.asciiDigit?)))
  else .error .malformed

def integer (cs : List Char) : Except Fault Int :=
  match signedPlain? (Text.strip Text.isSpace cs) with
  | some plain => ofPlain plain
  | none => .error .malformed

-- A floating-point number. With low lines inside, it may have no blanks around it.
def float? (cs : List Char) : Option Binary64 :=
  if cs.contains '_' then (withoutLowLines? cs).bind (Numeral.exactFloat? Text.asciiDigit?)
  else Numeral.exactFloat? Text.asciiDigit? (Text.strip Text.isSpace cs)

end TemplateSchema.Loose
