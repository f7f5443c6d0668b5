import TemplateSchema.Text.Digit
/-!
The forms of a UUID: 32 hexadecimal digits, alone or in five groups with hyphens between them; the
latter also in braces or behind `urn:uuid:`.
-/
set_option autoImplicit false
namespace TemplateSchema.Uuid

-- Groups of the given lengths with a hyphen between each two.
def isGrouped : List Nat → List Char → Bool
  | [], cs => cs.isEmpty
  | [n], cs => cs.length == n && cs.all Text.isHexDigit
  | n :: rest, cs =>
    let (group, others) := (cs.take n, cs.drop n)
    group.length == n && group.all Text.isHexDigit && others.head? == some '-' && isGrouped rest (others.drop 1)

def isHyphenated (cs : List Char) : Bool :=
  isGrouped [8, 4, 4, 4, 12] cs

def isSimple (cs : List Char) : Bool :=
  cs.length == 32 && cs.all Text.isHexDigit

def isBraced (cs : List Char) : Bool :=
  cs.head? == some '\x7b' && cs.getLast? == some '\x7d' && isHyphenated (cs.drop 1).dropLast

def urnMark : List Char :=
  "urn:uuid:".toList

def isUrn (cs : List Char) : Bool :=
  cs.take urnMark.length == urnMark && isHyphenated (cs.drop urnMark.length)

def isValid (s : String) : Bool :=
  let cs := s.toList
  isSimple cs || isHyphenated cs || isBraced cs || isUrn cs

end TemplateSchema.Uuid
