import TemplateSchema.Value.Basic
/-!
Mappings as lists of entries in the order of insertion. A key that is written again keeps its
place and its first spelling.
-/
set_option autoImplicit false
namespace TemplateSchema

namespace Entries

def get? (entries : Entries) (key : Value) : Option Value :=
  (entries.find? fun entry => Value.same entry.1 key).map Prod.snd

-- A missing key counts as null.
def getOrNull (entries : Entries) (key : Value) : Value :=
  (get? entries key).getD .null

def has (entries : Entries) (key : Value) : Bool :=
  (get? entries key).isSome

-- Not only values can stand under keys.
def insert {α : Type} : List (Value × α) → Value → α → List (Value × α)
  | [], key, value => [(key, value)]
  | (k, v) :: rest, key, value =>
    if Value.same k key then (k, value) :: rest else (k, v) :: insert rest key value

def erase (entries : Entries) (key : Value) : Entries :=
  entries.filter fun entry => !Value.same entry.1 key

def ofList {α : Type} (pairs : List (Value × α)) : List (Value × α) :=
  pairs.foldl (fun entries pair => insert entries pair.1 pair.2) []

def field? (entries : Entries) (name : Text) : Option Value :=
  get? entries (.text name)

def field (entries : Entries) (name : Text) : Value :=
  getOrNull entries (.text name)

end Entries

namespace Value

def entries? : Value → Option Entries
  | .map entries => some entries
  | _ => none

-- Members without repetition, in the order of their first occurrence.
def distinct (items : List Value) : List Value :=
  items.foldl (fun seen item => if seen.any (same · item) then seen else seen ++ [item]) []

end Value

end TemplateSchema
