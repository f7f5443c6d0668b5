import TemplateSchema.Value.Basic
/-!
Values in the form in which they leave the library: a chain becomes a mapping that holds its
declaration, at any depth.
-/
set_option autoImplicit false
namespace TemplateSchema.Value

def chainKey : String := "sdl"

mutual

-- A value as it is stored: a chain is a mapping that holds its declaration.
def stored : Value → Value
  | .list items => .list (storedItems items)
  | .tuple items => .tuple (storedItems items)
  | .set items => .set (storedItems items)
  | .map entries => .map (storedEntries entries)
  | .chain entries => .map [(.text chainKey, .map (storedEntries entries))]
  | v => v

def storedItems : List Value → List Value
  | [] => []
  | v :: rest => stored v :: storedItems rest

def storedEntries : List (Value × Value) → List (Value × Value)
  | [] => []
  | (k, v) :: rest => (k, stored v) :: storedEntries rest

end

end TemplateSchema.Value
