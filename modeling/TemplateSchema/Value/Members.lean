import TemplateSchema.Value.Basic
/-!
What a value holds if it is gone through item by item: the keys of a mapping, the characters of a
text, the numbers of bytes.
-/
set_option autoImplicit false
namespace TemplateSchema.Value

-- The members of a value that has any; scalars have none.
def members? : Value → Option (List Value)
  | .list items | .tuple items | .set items => some items
  | .map entries => some (entries.map Prod.fst)
  | .text s => some (s.points.map fun p => .text (Text.ofPoints [p]))
  | .bytes bs => some (bs.map fun b => .int b.toNat)
  | _ => none

-- The members of a value, none where the value counts as false.
def membersOrNone? (v : Value) : Option (List Value) :=
  if v.isTruthy then v.members? else some []

mutual

-- How deep collections stand inside one another, in keys as well.
def height : Value → Nat
  | .list items | .tuple items | .set items => heightOfItems items + 1
  | .map entries | .chain entries => heightOfEntries entries + 1
  | _ => 0

def heightOfItems : List Value → Nat
  | [] => 0
  | v :: rest => max (height v) (heightOfItems rest)

def heightOfEntries : List (Value × Value) → Nat
  | [] => 0
  | (k, v) :: rest => max (max (height k) (height v)) (heightOfEntries rest)

end

end TemplateSchema.Value
