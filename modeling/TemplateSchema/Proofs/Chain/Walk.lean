import TemplateSchema.Chain.Reader
import TemplateSchema.Proofs.Chain.Pieces
/-!
Chains read by position: all tokens of a text stay in view, and five routines that call each other move
one position over them. What a walk comes to includes how many routines it entered. Its steps do not
say that the position grows or that the walk ends; a bound on its depth takes the place of that.
-/
set_option autoImplicit false
namespace TemplateSchema.Chain

structure Trip (α : Type) where
  entered : Nat
  -- What was read with the position that was reached, or what went wrong.
  outcome : Except Failure (α × Nat)
  records : List LogRecord

-- A walk starts at a position. It comes to nothing if it would go deeper than it may.
def Walk (α : Type) :=
  Nat → Option (Trip α)

namespace Walk

variable {α β : Type}

def done (a : α) : Walk α :=
  fun p => some ⟨0,.ok (a,p),[]⟩

def andThen (x : Walk α) (next : α → Walk β) : Walk β := fun p =>
  match x p with
  | none => none
  | some first =>
    match first.outcome with
    | .error f => some ⟨first.entered,.error f,first.records⟩
    | .ok (a,q) => (next a q).map fun second =>
      ⟨first.entered + second.entered,second.outcome,first.records ++ second.records⟩

instance : Monad Walk where
  pure := done
  bind := andThen

-- A run that does not look at the tokens.
def still (x : Traced α) : Walk α :=
  fun p => some ⟨0,x.outcome.map (·,p),x.records⟩

def failing (fault : Fault) : Walk α :=
  still (fail fault)

def enter (x : Walk α) : Walk α :=
  fun p => (x p).map fun trip => { trip with entered := trip.entered + 1 }

section Tokens

variable (all : List Token)

def peek : Walk (Option Token) :=
  fun p => some ⟨0,.ok (all[p]?,p),[]⟩

def skip : Walk Unit :=
  fun p => some ⟨0,.ok ((),p + 1),[]⟩

def next : Walk Token := do
  match ← peek all with
  | none => failing .endOfText
  | some t =>
    skip
    pure t

def accept (mark : Char) : Walk Bool := do
  match ← peek all with
  | none => pure false
  | some t =>
    if t.isMark mark then
      skip
      pure true
    else pure false

def require (mark : Char) : Walk Unit := do
  let t ← next all
  if t.isMark mark then pure () else failing (.expected (String.singleton mark) t.start t.shown)

-- The text that tokens stand in, from the start of the first to the end of the last.
def textOf (source : List Char) (used : List Token) : List Char :=
  piece source ((used.head?.map Token.start).getD 0) ((used.getLast?.map Token.stop).getD 0)

-- A walk with the text of the tokens that it went over.
def quoting (source : List Char) (x : Walk α) : Walk (α × List Char) := fun p =>
  (x p).map fun trip =>
    { trip with outcome := trip.outcome.map fun (a,q) => ((a,textOf source ((all.drop p).take (q - p))),q) }

end Tokens

end Walk

-- A named value of an object, with the text that it was read from.
structure Entry where
  name : String
  value : Value
  text : List Char

inductive Routine where
  | value
  | object
  | array
  | call
  | chain

abbrev Routine.Result : Routine → Type
  | .value => Value
  | .object => List Entry
  | .array => List Value
  | .call => String × List Value
  | .chain => Entries

-- What a walk still has to do: a routine, or the rest of a loop in one of them.
inductive Task where
  | enter (routine : Routine)
  | items (closing : Char)
  | entries
  | modifiers (declaration : Entries)

abbrev Task.Result : Task → Type
  | .enter routine => routine.Result
  | .items _ => List Value
  | .entries => List Entry
  | .modifiers _ => Entries

def valueOf (found : List Entry) : Value :=
  .map (Entries.ofList (found.map fun e => (.text e.name,e.value)))

section Tasks

open Walk

variable (source : List Char) (all : List Token)

def walk : Nat → (task : Task) → Walk task.Result
  | 0, _ => fun _ => none
  | depth + 1, .enter .value => enter do
    match ← peek all with
    | none => failing .endOfText
    | some t =>
      match t.kind with
      | .string =>
        skip
        pure (.text (unquoted t.text))
      | .number =>
        skip
        still (Traced.ofExcept (numberValue t.text))
      | .mark =>
        if t.text = ['\x7b'] then
          let found ← walk depth (.enter .object)
          pure (valueOf found)
        else if t.text = ['['] then
          let found ← walk depth (.enter .array)
          pure (.list found)
        else failing (.unexpected t.shown t.start)
      | .name =>
        if t.text = "true".toList then
          skip
          pure (.bool true)
        else if t.text = "false".toList then
          skip
          pure (.bool false)
        else if t.text = "null".toList ∨ t.text = "undefined".toList then
          skip
          pure .null
        else if t.text = ['z'] then
          let declaration ← walk depth (.enter .chain)
          pure (.chain declaration)
        else failing (.unexpected t.shown t.start)
  | depth + 1, .enter .object => enter do
    require all '\x7b'
    walk depth .entries
  | depth + 1, .enter .array => enter do
    require all '['
    walk depth (.items ']')
  | depth + 1, .enter .call => enter do
    let t ← next all
    if t.kind = .name then
      require all '('
      let arguments ← walk depth (.items ')')
      pure (t.shown,arguments)
    else failing (.methodName t.start)
  | depth + 1, .enter .chain => enter do
    require all 'z'
    require all '.'
    let (name,arguments) ← walk depth (.enter .call)
    let declaration ← still (Traced.ofExcept ((build name arguments).mapError Failure.chain))
    walk depth (.modifiers declaration)
  | depth + 1, .items closing => do
    if ← accept all closing then pure []
    else
      let first ← walk depth (.enter .value)
      if ← accept all ',' then
        let others ← walk depth (.items closing)
        pure (first :: others)
      else
        require all closing
        pure [first]
  | depth + 1, .entries => do
    if ← accept all '\x7d' then pure []
    else
      let t ← next all
      if t.kind = .string ∨ t.kind = .name then
        require all ':'
        let (v,text) ← quoting all source (walk depth (.enter .value))
        let first : Entry := ⟨if t.kind = .string then unquoted t.text else t.shown,v,text⟩
        if ← accept all ',' then
          let others ← walk depth .entries
          pure (first :: others)
        else
          require all '\x7d'
          pure [first]
      else failing (.propertyName t.start)
  | depth + 1, .modifiers declaration => do
    if ← accept all '.' then
      let (name,arguments) ← walk depth (.enter .call)
      let changed ← still (apply declaration name arguments)
      walk depth (.modifiers changed)
    else pure declaration

-- A walk that may not enter anything comes to nothing.
theorem walk_nothing (task : Task) (p : Nat) : walk source all 0 task p = none := by
  rw [walk]

end Tasks

end TemplateSchema.Chain
