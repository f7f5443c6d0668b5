import TemplateSchema.Chain.Meaning
import TemplateSchema.Chain.Token
import TemplateSchema.Number.Numeral
/-!
Reading builder chains and the values around them:

    value  := chain | string | number | true | false | null | undefined | object | array
    chain  := z . call (. call)*
    call   := name ( [value (, value)* [,]] )
    object := open-brace [(string | name) : value (, (string | name) : value)* [,]] close-brace
    array  := open-bracket [value (, value)* [,]] close-bracket

A chain's calls take effect as they are read, so the leftmost fault of a text is reported. Each
reader returns the tokens that it left, with a proof that they are fewer.
-/
set_option autoImplicit false
namespace TemplateSchema.Chain

abbrev Shorter (ts : List Token) := { rest : List Token // rest.length < ts.length }

def fail {α : Type} (fault : Fault) : Traced α :=
  Traced.failed (.chain fault)

def Token.isMark (t : Token) (mark : Char) : Bool :=
  t.kind != .string && t.text == [mark]

def Token.shown (t : Token) : String :=
  String.ofList t.text

def numberValue (text : List Char) : Except Failure Value :=
  if text.any fun c => c == '.' || c == 'e' || c == 'E' then
    .ok (.float ((Numeral.float? text).getD .nan))
  else if Numeral.digitLimit < Numeral.digitCount text then .error (.digits (Numeral.digitCount text))
  else .ok (.int ((Numeral.integer? 10 text).getD 0))

-- The tokens behind a mark that must come next.
def expect (mark : Char) (ts : List Token) : Traced (Shorter ts) :=
  match ts with
  | [] => fail .endOfText
  | t :: rest =>
    if t.isMark mark then pure ⟨rest, by simp⟩
    else fail (.expected (String.singleton mark) t.start t.shown)

def accept? (mark : Char) (ts : List Token) : Option (Shorter ts) :=
  match ts with
  | [] => none
  | t :: rest => if t.isMark mark then some ⟨rest, by simp⟩ else none

-- A member of an object, with the place of its value in the text.
structure Member where
  name : String
  value : Value
  start : Nat
  stop : Nat

-- Where the last token that was used up ends.
def lastStop (ts rest : List Token) : Nat :=
  (((ts.take (ts.length - rest.length)).getLast?).map Token.stop).getD 0

def objectOf (members : List Member) : Value :=
  .map (Entries.ofList (members.map fun m => (.text m.name, m.value)))

mutual

def value (ts : List Token) : Traced (Value × Shorter ts) :=
  match ts with
  | [] => fail .endOfText
  | t :: rest =>
    match t.kind with
    | .string => pure (.text (unquoted t.text), ⟨rest, by simp⟩)
    | .number => do
      let v ← Traced.ofExcept (numberValue t.text)
      pure (v, ⟨rest, by simp⟩)
    | .mark =>
      if t.text = ['\x7b'] then do
        let (found, left) ← members rest
        pure (objectOf found, ⟨left.val, by have := left.property; simp; omega⟩)
      else if t.text = ['['] then do
        let (found, left) ← items ']' rest
        pure (.list found, ⟨left.val, by have := left.property; simp; omega⟩)
      else fail (.unexpected t.shown t.start)
    | .name =>
      if t.text = "true".toList then pure (.bool true, ⟨rest, by simp⟩)
      else if t.text = "false".toList then pure (.bool false, ⟨rest, by simp⟩)
      else if t.text = "null".toList ∨ t.text = "undefined".toList then pure (.null, ⟨rest, by simp⟩)
      else if t.text = ['z'] then do
        let start ← expect '.' rest
        have hstart := start.property
        let (first, behind) ← call start.val
        have hbehind := behind.property
        let declaration ← Traced.ofExcept ((build first.1 first.2).mapError Failure.chain)
        let (declaration, left) ← calls declaration behind.val
        pure (.chain declaration, ⟨left.val, by have := left.property; simp; omega⟩)
      else fail (.unexpected t.shown t.start)
termination_by (ts.length, 0)
decreasing_by all_goals simp_wf; omega

-- A method name with its arguments.
def call (ts : List Token) : Traced ((String × List Value) × Shorter ts) :=
  match ts with
  | [] => fail .endOfText
  | t :: rest =>
    if t.kind = .name then do
      let inner ← expect '(' rest
      have hinner := inner.property
      let (args, left) ← items ')' inner.val
      pure ((t.shown, args), ⟨left.val, by have := left.property; simp; omega⟩)
    else fail (.methodName t.start)
termination_by (ts.length, 0)
decreasing_by all_goals simp_wf; omega

-- The calls behind the first one, applied in turn.
def calls (declaration : Entries) (ts : List Token) :
    Traced (Entries × { rest : List Token // rest.length ≤ ts.length }) :=
  match accept? '.' ts with
  | none => pure (declaration, ⟨ts, Nat.le_refl _⟩)
  | some start => do
    have hstart := start.property
    let (next, behind) ← call start.val
    have hbehind := behind.property
    let declaration ← apply declaration next.1 next.2
    let (declaration, left) ← calls declaration behind.val
    pure (declaration, ⟨left.val, by have := left.property; omega⟩)
termination_by (ts.length, 1)
decreasing_by all_goals omega

-- Values between commas up to a closing mark; a comma may come before it.
def items (closing : Char) (ts : List Token) : Traced (List Value × Shorter ts) :=
  match accept? closing ts with
  | some rest => pure ([], rest)
  | none => do
    let (first, behind) ← value ts
    have hbehind := behind.property
    match accept? ',' behind.val with
    | some next => do
      have hnext := next.property
      let (others, left) ← items closing next.val
      pure (first :: others, ⟨left.val, by have := left.property; omega⟩)
    | none => do
      let left ← expect closing behind.val
      pure ([first], ⟨left.val, by have := left.property; omega⟩)
termination_by (ts.length, 1)
decreasing_by all_goals omega

-- Named values between commas up to a closing brace.
def members (ts : List Token) : Traced (List Member × Shorter ts) :=
  match accept? '\x7d' ts with
  | some rest => pure ([], rest)
  | none =>
    match ts with
    | [] => fail .endOfText
    | t :: rest =>
      if t.kind = .string ∨ t.kind = .name then do
        let name := if t.kind = .string then unquoted t.text else t.shown
        let start ← expect ':' rest
        have hstart := start.property
        let (v, behind) ← value start.val
        have hbehind := behind.property
        let first : Member :=
          ⟨name, v, (start.val.head?.map Token.start).getD 0, lastStop start.val behind.val⟩
        match accept? ',' behind.val with
        | some next => do
          have hnext := next.property
          let (others, left) ← members next.val
          pure (first :: others, ⟨left.val, by have := left.property; simp; omega⟩)
        | none => do
          let left ← expect '\x7d' behind.val
          pure ([first], ⟨left.val, by have := left.property; simp; omega⟩)
      else fail (.propertyName t.start)
termination_by (ts.length, 1)
decreasing_by all_goals (simp only [List.length_cons]; omega)

end

def readTokens (source : List Char) : Traced (List Token) :=
  Traced.ofExcept ((tokens source).mapError Failure.chain)

def expectEnd (ts : List Token) : Traced Unit :=
  match ts with
  | [] => pure ()
  | t :: _ => fail (.unexpected t.shown t.start)

-- The declaration that a text spells out as one chain; blanks around it do not count.
def declarationOf (text : String) : Traced Entries := do
  let ts ← readTokens (Text.strip Text.isBlank text.toList)
  let (v, rest) ← value ts
  expectEnd rest.val
  match v with
  | .chain declaration => pure declaration
  | _ => fail (.notChain text)

-- The members of a text that is one object literal.
def membersOf (source : List Char) : Traced (List Member) := do
  let ts ← readTokens source
  let inner ← expect '\x7b' ts
  let (found, rest) ← members inner.val
  expectEnd rest.val
  pure found

end TemplateSchema.Chain
