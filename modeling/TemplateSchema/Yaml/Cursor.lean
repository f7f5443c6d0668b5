/-!
Places in a document. A cursor holds the text that is still to be read and the place it starts at;
lines end at any of the five line breaks, and a byte order mark takes up no column.
-/
set_option autoImplicit false
namespace TemplateSchema.Yaml

structure Mark where
  index : Nat
  line : Nat
  column : Nat
  deriving DecidableEq, Inhabited

def isBreak (c : Char) : Bool :=
  c == '\n' || c == '\r' || c == '\x85' || c == '\u2028' || c == '\u2029'

-- The end of the text shows as a zero character, which no text contains.
def isBreakOrEnd (c : Char) : Bool :=
  c == '\x00' || isBreak c

def isSpaceBreakOrEnd (c : Char) : Bool :=
  c == ' ' || isBreakOrEnd c

def isBlankBreakOrEnd (c : Char) : Bool :=
  c == '\t' || isSpaceBreakOrEnd c

def isNameChar (c : Char) : Bool :=
  c.isAlphanum || c == '-' || c == '_'

structure Cursor where
  text : List Char
  mark : Mark

namespace Cursor

def start (text : List Char) : Cursor :=
  ⟨text, ⟨0, 0, 0⟩⟩

def peekAt (c : Cursor) (k : Nat) : Char :=
  c.text[k]?.getD '\x00'

def peek (c : Cursor) : Char :=
  c.text.headD '\x00'

def column (c : Cursor) : Nat :=
  c.mark.column

-- A carriage return ends a line unless a line feed follows.
def advance (c : Cursor) : Cursor :=
  match c.text with
  | [] => c
  | ch :: rest =>
    let m := c.mark
    if ch = '\r' ∧ rest.head? = some '\n' then ⟨rest, ⟨m.index + 1, m.line, m.column + 1⟩⟩
    else if isBreak ch then ⟨rest, ⟨m.index + 1, m.line + 1, 0⟩⟩
    else if ch = '\uFEFF' then ⟨rest, ⟨m.index + 1, m.line, m.column⟩⟩
    else ⟨rest, ⟨m.index + 1, m.line, m.column + 1⟩⟩

def skip (c : Cursor) : Nat → Cursor
  | 0 => c
  | n + 1 => skip c.advance n

def spanWhile (c : Cursor) (p : Char → Bool) : List Char :=
  c.text.takeWhile p

def skipWhile (c : Cursor) (p : Char → Bool) : Cursor :=
  c.skip (c.spanWhile p).length

-- Reads one line break: the two older ones and a pair count as a line feed.
def lineBreak (c : Cursor) : List Char × Cursor :=
  match c.text with
  | '\r' :: '\n' :: _ => (['\n'], c.skip 2)
  | ch :: _ =>
    if ch = '\r' ∨ ch = '\n' ∨ ch = '\x85' then (['\n'], c.advance)
    else if ch = '\u2028' ∨ ch = '\u2029' then ([ch], c.advance)
    else ([], c)
  | [] => ([], c)

-- Three dashes or three points that stand alone.
def atSeparator (c : Cursor) : Bool :=
  (c.text.take 3 == ['-', '-', '-'] || c.text.take 3 == ['.', '.', '.']) && isBlankBreakOrEnd (c.peekAt 3)

end Cursor

end TemplateSchema.Yaml
