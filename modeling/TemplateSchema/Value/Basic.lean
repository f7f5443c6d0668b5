import TemplateSchema.Calendar.Moment
import TemplateSchema.Number.Binary64
import TemplateSchema.Text.Basic
/-!
The values that documents and declarations are made of. Mappings keep the order of insertion and
take any value as a key. `same` is equality as the keys of a mapping see it: numbers and truth
values are compared by what they count, moments by the instant they denote, and the order of
mappings and sets does not matter.
-/
set_option autoImplicit false
namespace TemplateSchema

inductive Value where
  | null
  | bool (b : Bool)
  | int (n : Int)
  | float (x : Binary64)
  | text (s : Text)
  | bytes (bytes : List UInt8)
  | list (items : List Value)
  | tuple (items : List Value)
  | set (items : List Value)
  | map (entries : List (Value × Value))
  | date (d : Date)
  | moment (m : Moment)
  -- A builder chain that stands as an argument, with the declaration that it spells out.
  | chain (declaration : List (Value × Value))
  deriving Inhabited

abbrev Entries := List (Value × Value)

namespace Value

-- The number that a value counts for, where it is an integer or a truth value.
def count? : Value → Option Int
  | .bool b => some (if b then 1 else 0)
  | .int n => some n
  | _ => none

def sameMoment (a b : Moment) : Bool :=
  match a.offset, b.offset with
  | some _, some _ => a.instant == b.instant
  | none, none => a == b
  | _, _ => false

-- Equality of all but the compound values.
def sameScalar (a b : Value) : Bool :=
  match a.count?, b.count? with
  | some m, some n => m == n
  | some m, none => match b with
    | .float x => x.toInt? == some m
    | _ => false
  | none, some n => match a with
    | .float x => x.toInt? == some n
    | _ => false
  | none, none => match a, b with
    | .null, .null => true
    | .float x, .float y => x.same y
    | .text s, .text t => s == t
    | .bytes s, .bytes t => s == t
    | .date d, .date e => d == e
    | .moment m, .moment n => sameMoment m n
    | _, _ => false

mutual

def same : Value → Value → Bool
  | .list xs, y => match y with
    | .list ys => sameItems xs ys
    | _ => false
  | .tuple xs, y => match y with
    | .tuple ys => sameItems xs ys
    | _ => false
  | .set xs, y => match y with
    | .set ys => xs.length == ys.length && allIn xs ys
    | _ => false
  | .map xs, y => match y with
    | .map ys => xs.length == ys.length && entriesIn xs ys
    | _ => false
  | .chain xs, y => match y with
    | .chain ys => xs.length == ys.length && entriesIn xs ys
    | _ => false
  | x, y => sameScalar x y

def sameItems : List Value → List Value → Bool
  | [], [] => true
  | x :: xs, y :: ys => same x y && sameItems xs ys
  | _, _ => false

def allIn : List Value → List Value → Bool
  | [], _ => true
  | x :: xs, ys => ys.any (fun y => same x y) && allIn xs ys

def entriesIn : List (Value × Value) → List (Value × Value) → Bool
  | [], _ => true
  | (k, v) :: xs, ys => ys.any (fun y => same k y.1 && same v y.2) && entriesIn xs ys

end

mutual

-- Whether a value can be the key of a mapping or the member of a set.
def isHashable : Value → Bool
  | .list _ | .set _ | .map _ | .chain _ => false
  | .tuple items => allHashable items
  | _ => true

def allHashable : List Value → Bool
  | [] => true
  | x :: xs => isHashable x && allHashable xs

end

-- Whether a value counts as true where a truth value is asked for.
def isTruthy : Value → Bool
  | .null => false
  | .bool b => b
  | .int n => n != 0
  | .float x => x.isNaN || !x.same (Binary64.zero false)
  | .text s => !s.isEmpty
  | .bytes bs => !bs.isEmpty
  | .list items | .tuple items | .set items => !items.isEmpty
  | .map entries => !entries.isEmpty
  | .date _ | .moment _ | .chain _ => true

-- The name of a value's kind in messages.
def kindName : Value → String
  | .null => "NoneType"
  | .bool _ => "bool"
  | .int _ => "int"
  | .float _ => "float"
  | .text _ => "str"
  | .bytes _ => "bytes"
  | .list _ => "list"
  | .tuple _ => "tuple"
  | .set _ => "set"
  | .map _ => "dict"
  | .date _ => "date"
  | .moment _ => "datetime"
  | .chain _ => "_Chain"

def isText : Value → Bool
  | .text _ => true
  | _ => false

-- Text with half of a pair in it.
def isTorn : Value → Bool
  | .text t => !t.isWhole
  | _ => false

def isNull : Value → Bool
  | .null => true
  | _ => false

end Value

end TemplateSchema
