import TemplateSchema.Chain.Fault
import TemplateSchema.Text.Blank
import TemplateSchema.Text.Digit
/-!
Tokens of builder chains: quoted text, numbers, names and single marks. Each token keeps the place
it was taken from; between tokens there are only blanks.
-/
set_option autoImplicit false
namespace TemplateSchema.Chain

inductive TokenKind where
  | string
  | number
  | name
  | mark
  deriving DecidableEq

structure Token where
  kind : TokenKind
  text : List Char
  start : Nat
  stop : Nat
  deriving DecidableEq

-- Characters up to and with the closing quote. A backslash hides any character but a line feed.
def quotedLength? (quote : Char) : List Char → Option Nat
  | [] => none
  | [c] => if c = quote then some 1 else none
  | c :: d :: rest =>
    if c = quote then some 1
    else if c = '\\' then
      if d = '\n' then none else (quotedLength? quote rest).map (· + 2)
    else (quotedLength? quote (d :: rest)).map (· + 1)

def digitsLength (cs : List Char) : Nat :=
  (cs.takeWhile Text.isDigit).length

def fractionLength : List Char → Nat
  | [] => 0
  | c :: rest => if c = '.' ∧ 0 < digitsLength rest then 1 + digitsLength rest else 0

def signLength : List Char → Nat
  | [] => 0
  | s :: _ => if s = '+' ∨ s = '-' then 1 else 0

def exponentLength : List Char → Nat
  | [] => 0
  | e :: rest =>
    let digits := digitsLength (rest.drop (signLength rest))
    if (e = 'e' ∨ e = 'E') ∧ 0 < digits then 1 + signLength rest + digits else 0

-- The length of digits, fraction and exponent.
def numberLength (cs : List Char) : Nat :=
  let whole := digitsLength cs
  let fraction := fractionLength (cs.drop whole)
  whole + fraction + exponentLength (cs.drop (whole + fraction))

def startsName (c : Char) : Bool :=
  c.isAlpha || c == '_' || c == '$'

def continuesName (c : Char) : Bool :=
  startsName c || c.isDigit

def isMark (c : Char) : Bool :=
  c == '.' || c == '(' || c == ')' || c == '\x7b' || c == '\x7d' || c == '[' || c == ']' || c == ',' || c == ':'

-- The token that begins with a character, by how many of the next characters it takes up.
def lexeme? (c : Char) (rest : List Char) : Option (TokenKind × Nat) :=
  if c = '"' ∨ c = '\'' then (quotedLength? c rest).map fun n => (.string, n)
  else if Text.isDigit c then some (.number, numberLength rest)
  else if c = '-' then
    if 0 < digitsLength rest then some (.number, numberLength rest) else none
  else if startsName c then some (.name, (rest.takeWhile continuesName).length)
  else if isMark c then some (.mark, 0)
  else none

def tokensFrom (offset : Nat) (cs : List Char) : Except Fault (List Token) :=
  match cs with
  | [] => .ok []
  | c :: rest =>
    if Text.isBlank c then tokensFrom (offset + 1) rest
    else match lexeme? c rest with
      | none => .error (.character c offset)
      | some (kind, n) =>
        let text := c :: rest.take n
        (tokensFrom (offset + text.length) (rest.drop n)).map
          fun tokens => ⟨kind, text, offset, offset + text.length⟩ :: tokens
termination_by cs.length
decreasing_by all_goals (simp only [List.length_cons, List.length_drop]; omega)

def tokens (source : List Char) : Except Fault (List Token) :=
  tokensFrom 0 source

def escapedValue (c : Char) : Char :=
  if c = 'n' then '\n' else if c = 't' then '\t' else if c = 'r' then '\r' else c

-- A backslash gives way to what it hides.
def unescaped : List Char → List Char
  | [] => []
  | [c] => [c]
  | c :: d :: rest => if c = '\\' then escapedValue d :: unescaped rest else c :: unescaped (d :: rest)

-- The content of a quoted token.
def unquoted (text : List Char) : String :=
  String.ofList (unescaped ((text.drop 1).dropLast))

end TemplateSchema.Chain
