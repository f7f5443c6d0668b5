import TemplateSchema.Number.Numeral
import TemplateSchema.Value.Display
/-!
Problems found in a value, each at a place inside it. A place is a path of names and positions;
its text joins names by points and sets positions in brackets behind what they belong to.
-/
set_option autoImplicit false
namespace TemplateSchema

inductive Segment where
  | name (text : String)
  | index (n : Int)
  -- A truth value where a position stands.
  | flag (b : Bool)
  deriving DecidableEq

namespace Segment

def ofValue : Value → Segment
  | .int n => .index n
  | .bool b => .flag b
  | v => .name v.label.replaced

-- A key as a step of a path: numbers and truth values count as positions.
def ofKey : Value → Segment
  | .text s => .name s.replaced
  | .bool b => .index (if b then 1 else 0)
  | .int n =>
    if -9223372036854775808 ≤ n ∧ n < 9223372036854775808 then .index n
    else if Numeral.isShort n then .name (Value.int n).display
    else .name "<unprintable int object>"
  | v => .name v.display

end Segment

abbrev Path := List Segment

namespace Path

-- The parts between the points, given the part that positions may still be put behind.
def parts (current : Option String) : Path → List String
  | [] => current.toList
  | s :: rest => match s with
    | .name text => current.toList ++ parts (some text) rest
    | .index n => parts (some (current.getD "" ++ "[" ++ Text.signedDecimal n ++ "]")) rest
    | .flag b => parts (some (current.getD "" ++ (if b then "[True]" else "[False]"))) rest

def text (p : Path) : String :=
  match parts none p with
  | [] => "<root>"
  | ps => String.intercalate "." ps

end Path

-- What is wrong at a place; `ε` lists the kinds of wrong.
structure Problem (ε : Type) where
  path : Path
  cause : ε
  deriving DecidableEq

namespace Problem

def at_ {ε : Type} (segment : Segment) (p : Problem ε) : Problem ε :=
  { p with path := segment :: p.path }

def line {ε : Type} (text : ε → String) (p : Problem ε) : String :=
  p.path.text ++ ": " ++ text p.cause

end Problem

end TemplateSchema
