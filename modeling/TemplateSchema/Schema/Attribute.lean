import TemplateSchema.Calendar.Rfc3339
import TemplateSchema.Number.Loose
import TemplateSchema.Number.Quantity
import TemplateSchema.Schema.Reading
import TemplateSchema.Text.Utf8
/-!
How the attributes of a field are read from values: leniently, so that text may spell out a number,
a truth value or a moment, and a whole number may be written with a fraction of zero.
-/
set_option autoImplicit false
namespace TemplateSchema.Attribute

open Reading

def text : Value → Reading Text
  | .text s => .ok s
  | .bytes bs => match Utf8.decode bs with
    | .ok s => .ok s
    | .error _ => misfit .encoding
  | _ => misfit .text

-- Text or bytes, as the characters that they spell out.
inductive Spelling where
  | none
  | torn
  | undecodable
  | chars (cs : List Char)

def spelling : Value → Spelling
  | .text (.whole s) => .chars s.toList
  | .text (.torn ..) => .torn
  | .bytes bs => match Utf8.decode bs with
    | .ok s => .chars s.toList
    | .error _ => .undecodable
  | _ => .none

def smallest : Int := -9223372036854775808
def greatest : Int := 9223372036854775807

def integerOfFloat (x : Binary64) : Reading Int :=
  match x.isFinite, x.toInt? with
  | false, _ => misfit .notFinite
  | true, none => misfit .fraction
  | true, some n => if smallest < n ∧ n ≤ greatest then .ok n else misfit .integerSize

def integerText (cs : List Char) : Reading Int :=
  match Loose.integer cs with
  | .ok n => .ok n
  | .error .malformed => misfit .integerText
  | .error .tooLong => misfit .integerSize

def integer (v : Value) : Reading Int :=
  match v, spelling v with
  | _, .chars cs => integerText cs
  | _, .torn => misfit .encoding
  | _, .undecodable => misfit .integerText
  | .int n, _ => .ok n
  | .bool b, _ => .ok (if b then 1 else 0)
  | .float x, _ => integerOfFloat x
  | _, _ => misfit .integer

-- The problems of a value that is a number of neither sort, by sort.
def noQuantity {α : Type} (asInteger : Reading Int) (asFloat : Misfit) : Reading α :=
  match under (.name "int") asInteger with
  | .error ps => .error (ps ++ [⟨[.name "float"], asFloat⟩])
  | .ok _ => misfit asFloat

-- A bound: an integer if the value can be read as one, else a floating-point number.
def quantity (v : Value) : Reading Quantity :=
  match v, spelling v with
  | .int n, _ => .ok (.int n)
  | .float x, _ => .ok (.float x)
  | _, .chars cs =>
    match integerText cs, Loose.float? cs with
    | .ok n, _ => .ok (.int n)
    | .error _, some x => .ok (.float x)
    | refused, none => noQuantity refused .numberText
  | _, .torn => noQuantity (integer v) .encoding
  | _, .undecodable => noQuantity (integer v) .numberText
  | _, .none =>
    match integer v with
    | .ok n => .ok (.int n)
    | refused => noQuantity refused .number

def truthWords : List (String × Bool) :=
  [("0", false), ("off", false), ("f", false), ("false", false), ("n", false), ("no", false),
    ("1", true), ("on", true), ("t", true), ("true", true), ("y", true), ("yes", true)]

def truthOfText (cs : List Char) : Reading Bool :=
  match truthWords.lookup (String.ofList (Numeral.lowered cs)) with
  | some b => .ok b
  | none => misfit .booleanText

def truthOfInteger (n : Int) : Reading Bool :=
  if n = 0 then .ok false
  else if n = 1 then .ok true
  else if smallest ≤ n ∧ n ≤ greatest then misfit .booleanText
  else misfit .boolean

def truth (v : Value) : Reading Bool :=
  match v, spelling v with
  | .bool b, _ => .ok b
  | _, .chars cs => truthOfText cs
  | _, .torn => misfit .encoding
  | _, .undecodable => misfit .booleanText
  | .int n, _ => truthOfInteger n
  | .float x, _ => match integerOfFloat x with
    | .ok n => truthOfInteger n
    | .error _ => misfit .boolean
  | _, _ => misfit .boolean

def format : Value → Reading Format
  | .text (.whole s) => match Format.ofName? s with
    | some f => .ok f
    | none => misfit .format
  | .text (.torn ..) => misfit .encoding
  | _ => misfit .format

-- Digits behind the point are added one by one, each addition rounded.
def withFraction (whole : Nat) (digits : List Nat) : Binary64 :=
  (digits.foldl (fun (sum, unit) d =>
    (Binary64.add sum (Binary64.ofRat ((d : Rat) / unit)), unit * 10))
    (Binary64.ofRat whole, (10 : Rat))).1

-- Seconds written as text: an integer of 64 bits or a decimal fraction.
def secondsText? (cs : List Char) : Option (Int ⊕ Binary64) :=
  let (negative, rest) := Numeral.splitSign cs
  let whole := (rest.takeWhile Char.isDigit).filterMap Text.asciiDigit?
  let count := Text.natOfDigits 10 whole
  if whole.isEmpty ∨ greatest < count then none
  else match rest.dropWhile Char.isDigit with
    | [] => some (.inl (if negative then -(count : Int) else count))
    | '.' :: fraction =>
      if fraction.all Char.isDigit then
        let x := withFraction count (fraction.filterMap Text.asciiDigit?)
        some (.inr (if negative then x.neg else x))
      else none
    | _ => none

def momentOfSeconds (seconds : Int ⊕ Binary64) : Except TimestampFault Moment :=
  match seconds with
  | .inl n => Timestamp.ofCount n 0
  | .inr x => Timestamp.ofFraction x

def inCalendar (m : Option Moment) : Reading Moment :=
  match m with
  | some m => .ok m
  | none => misfit (.timestamp .yearZero)

def dayOfBytes (bs : List UInt8) : Reading Moment :=
  match Rfc3339.date bs with
  | .ok d => inCalendar (d.map (Moment.midnight · none))
  | .error fault => misfit (.momentText fault)

-- A count that names no moment names no day either, but with a fraction it is not taken for one.
def momentOfBytes (bs : List UInt8) (cs : List Char) : Reading Moment :=
  match Rfc3339.moment? bs, secondsText? cs with
  | some m, _ => inCalendar m
  | none, some seconds => match momentOfSeconds seconds, seconds with
    | .ok m, _ => .ok m
    | .error .yearZero, _ => inCalendar none
    | .error fault, .inl _ => misfit (.timestampText fault)
    | .error _, .inr _ => dayOfBytes bs
  | none, none => dayOfBytes bs

-- A byte that is no character of ASCII cannot be part of a number.
def asciiChars (bs : List UInt8) : List Char :=
  bs.map fun b => Char.ofNat b.toNat

def momentOf (x : Except TimestampFault Moment) : Reading Moment :=
  match x with
  | .ok m => .ok m
  | .error fault => misfit (.timestamp fault)

def moment : Value → Reading Moment
  | .moment m => .ok m
  | .date d => .ok (Moment.midnight d none)
  | .text (.whole s) => momentOfBytes s.toUTF8.toList (asciiChars s.toUTF8.toList)
  | .text (.torn ..) => misfit .encoding
  | .bytes bs => momentOfBytes bs (asciiChars bs)
  | .int n =>
    if smallest ≤ n ∧ n ≤ greatest then momentOf (Timestamp.ofCount n 0)
    else match Binary64.ofInt? n with
      | some x => momentOf (Timestamp.ofFloat x)
      | none => misfit .moment
  | .float x => momentOf (Timestamp.ofFloat x)
  | _ => misfit .moment

-- The members of a collection that is given in an order.
def tuple : Value → Reading (List Value)
  | .list items | .tuple items | .set items => .ok items
  | _ => misfit .tuple

def options (v : Value) : Reading (List Text) := do
  items text 0 (← tuple v)

end TemplateSchema.Attribute
