import TemplateSchema.Chain.Reader
import TemplateSchema.Text.Word
/-!
The schema directive of a template: a tag that sets `schema` to a literal in braces. The first tag
that begins like one is the directive; its literal ends at the first closing brace that the tag's
end follows. The literal is JSON or an object of builder chains.
-/
set_option autoImplicit false
namespace TemplateSchema.Directive

def literally? (word : List Char) (cs : List Char) : Option (List Char) :=
  if word.isPrefixOf cs then some (cs.drop word.length) else none

def withoutDash : List Char → List Char
  | '-' :: rest => rest
  | cs => cs

def skipBlanks (cs : List Char) : List Char :=
  cs.dropWhile Text.isBlank

-- The text behind blanks, of which there must be one at least.
def behindBlank? : List Char → Option (List Char)
  | [] => none
  | c :: rest => if Text.isBlank c then some (skipBlanks rest) else none

-- The text behind the brace that opens a directive's literal, at the start of a directive.
def opened? (cs : List Char) : Option (List Char) := do
  let rest ← literally? ['\x7b', '%'] cs
  let rest ← literally? "set".toList (skipBlanks (withoutDash rest))
  let rest ← behindBlank? rest
  let rest ← literally? "schema".toList rest
  let rest ← literally? ['='] (skipBlanks rest)
  literally? ['\x7b'] (skipBlanks rest)

def endsTag (cs : List Char) : Bool :=
  ['%', '\x7d'].isPrefixOf (withoutDash (skipBlanks cs))

-- The text up to and with the brace that closes a directive's literal.
def closed? : List Char → Option (List Char)
  | [] => none
  | c :: rest =>
    if c = '\x7d' ∧ endsTag rest then some [c] else (closed? rest).map (c :: ·)

def literalChars? : List Char → Option (List Char)
  | [] => none
  | c :: rest =>
    match opened? (c :: rest) with
    | some inner => (closed? inner).map ('\x7b' :: ·)
    | none => literalChars? rest

-- The literal of a text's directive.
def literal? (text : String) : Option String :=
  (literalChars? text.toList).map String.ofList

def isCallName (c : Char) : Bool :=
  c.isAlpha || c == '_'

-- A builder's name and the parenthesis of its call.
def startsCall (cs : List Char) : Bool :=
  match literally? ['z', '.'] cs with
  | none => false
  | some rest =>
    !(rest.takeWhile isCallName).isEmpty && (skipBlanks (rest.dropWhile isCallName)).head? == some '('

-- Whether a builder is called somewhere, its first letter not part of a longer word.
def hasCall (afterWord : Bool) : List Char → Bool
  | [] => false
  | c :: rest => (!afterWord && startsCall (c :: rest)) || hasCall (Text.isWord c) rest

def callsBuilder (text : String) : Bool :=
  hasCall false text.toList

-- The chains of the members of a directive, by name; `none` at a member that is none.
def chainsOf (source : List Char) : List Chain.Member → Traced (Option Entries)
  | [] => pure (some [])
  | m :: rest =>
    let text? := match m.value with
      | .chain _ => some (String.ofList ((source.drop m.start).take (m.stop - m.start)))
      | .text s => some s
      | _ => none
    match text? with
    | some s => do
      let others ← chainsOf source rest
      pure (others.map ((.text m.name, .text s) :: ·))
    | none => do
      Traced.record .debug .expressions
        ("Schema directive entry " ++ Text.quoted m.name ++ " is not a zod expression")
      pure none

-- The last member of a name counts, at the place of the first one.
def lastOfEach (members : List Chain.Member) : List Chain.Member :=
  members.foldl (fun seen m =>
    if seen.any (·.name == m.name) then seen.map fun s => if s.name == m.name then m else s
    else seen ++ [m]) []

-- The expressions of a text's directive by name, if it has one that is in builder form.
def chains (text : String) : Traced (Option Entries) :=
  match literalChars? text.toList with
  | none => pure none
  | some source =>
    let read := Chain.membersOf source
    match read.outcome with
    | .ok members => do
      let _ ← (⟨.ok (), read.records⟩ : Traced Unit)
      chainsOf source (lastOfEach members)
    | .error (.chain fault) =>
      ⟨.ok none, read.records ++
        [⟨.warning, .expressions, "Ignoring zod schema directive: " ++ fault.message⟩]⟩
    | .error f => ⟨.error f, read.records⟩

end TemplateSchema.Directive
