/-!
Whitespace. `isSpace` is the Unicode property of that name; `isBlank` adds the four information
separators, which the line and expression readers also treat as blank. `isLineBlank` is what may
stand between the words of a line.
-/
set_option autoImplicit false
namespace TemplateSchema.Text

def isSpace (c : Char) : Bool :=
  let n := c.toNat
  (0x09 ≤ n && n ≤ 0x0D) || n == 0x20 || n == 0x85 || n == 0xA0 || n == 0x1680 ||
    (0x2000 ≤ n && n ≤ 0x200A) || n == 0x2028 || n == 0x2029 || n == 0x202F || n == 0x205F || n == 0x3000

def isBlank (c : Char) : Bool :=
  isSpace c || (0x1C ≤ c.toNat && c.toNat ≤ 0x1F)

def isLineBlank (c : Char) : Bool :=
  c == ' ' || c == '\t'

-- Drops the characters of a class from both ends.
def strip (drop : Char → Bool) (cs : List Char) : List Char :=
  (((cs.dropWhile drop).reverse).dropWhile drop).reverse

def trim (s : String) : String :=
  String.ofList (strip isBlank s.toList)

end TemplateSchema.Text
