/-!
Text as values hold it. A file holds whole characters; what an escape spells out may also be half of
a surrogate pair, which is a code point but no character.
-/
set_option autoImplicit false
namespace TemplateSchema

structure Half where
  code : Nat
  within : 0xD800 ≤ code ∧ code ≤ 0xDFFF
  deriving DecidableEq

-- A code point.
inductive Point where
  | char (c : Char)
  | half (h : Half)
  deriving DecidableEq

-- The first half of a pair stands between `front` and `back`.
inductive Text where
  | whole (s : String)
  | torn (front : String) (half : Half) (back : List Point)
  deriving DecidableEq

instance : Coe String Text := ⟨Text.whole⟩

instance : Inhabited Text := ⟨.whole ""⟩

namespace Point

def char? : Point → Option Char
  | .char c => some c
  | .half _ => none

def code : Point → Nat
  | .char c => c.toNat
  | .half h => h.code

-- A change of characters; half of a pair stays what it is.
def map (change : Char → Char) : Point → Point
  | .char c => .char (change c)
  | .half h => .half h

-- The code point with a number, if there is one.
def ofCode (code : Nat) : Point :=
  if h : 0xD800 ≤ code ∧ code ≤ 0xDFFF then .half ⟨code, h⟩ else .char (Char.ofNat code)

end Point

namespace Text

def whole? : Text → Option String
  | .whole s => some s
  | .torn .. => none

def isWhole (t : Text) : Bool :=
  t.whole?.isSome

def points : Text → List Point
  | .whole s => s.toList.map Point.char
  | .torn front h back => front.toList.map Point.char ++ .half h :: back

-- The characters in front of the first half, and what there is from it on.
def cut : List Point → List Char × Option (Half × List Point)
  | [] => ([], none)
  | .half h :: rest => ([], some (h, rest))
  | .char c :: rest => (c :: (cut rest).1, (cut rest).2)

def ofPoints (ps : List Point) : Text :=
  match cut ps with
  | (front, none) => .whole (String.ofList front)
  | (front, some (h, back)) => .torn (String.ofList front) h back

def append : Text → Text → Text
  | .whole s, .whole t => .whole (s ++ t)
  | .whole s, .torn front h back => .torn (s ++ front) h back
  | .torn front h back, t => .torn front h (back ++ t.points)

instance : Append Text := ⟨append⟩

-- Texts with a separator between them.
def intercalate (separator : Text) : List Text → Text
  | [] => .whole ""
  | [t] => t
  | t :: rest => t ++ separator ++ intercalate separator rest

def isEmpty : Text → Bool
  | .whole s => s.isEmpty
  | .torn .. => false

def length : Text → Nat
  | .whole s => s.length
  | .torn front _ back => front.length + 1 + back.length

def holds (c : Char) : Text → Bool
  | .whole s => s.toList.contains c
  | .torn front _ back => front.toList.contains c || back.contains (.char c)

-- The text in which three replacement characters stand for each half.
def replaced : Text → String
  | .whole s => s
  | .torn front h back =>
    front ++ String.ofList ((Point.half h :: back).flatMap fun
      | .char c => [c]
      | .half _ => ['\uFFFD', '\uFFFD', '\uFFFD'])

end Text

end TemplateSchema
