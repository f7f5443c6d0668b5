import TemplateSchema.Text.Base64
import TemplateSchema.Value.Mapping
import TemplateSchema.Yaml.Node
/-!
The value of a document. A node is given a value when it is first met, a collection one that is filled
later, in the order in which collections were met. So a collection may hold itself; what stands for
it then goes round as often as is asked for.
-/
set_option autoImplicit false
namespace TemplateSchema.Yaml

-- What a node has been made into: a value, or a collection of nodes that go by their numbers.
inductive Content where
  | scalar (v : Value)
  | list (items : List Nat)
  | pairs (items : List (Nat × Nat))
  | set (members : List Value)
  | map (entries : List (Value × Nat))

structure Building where
  nodes : Array Node
  contents : Array (Option Content)
  -- The collections that are still to be filled.
  waiting : List Nat

abbrev Builder := StateT Building (Except Flaw)

namespace Builder

def flaw {α : Type} (context : Option String) (contextMark : Option Mark) (problem : String) (mark : Mark) :
    Builder α :=
  throw (.report .values ⟨context, contextMark, problem, mark⟩)

def node (number : Nat) : Builder Node := do
  pure ((← get).nodes.getD number default)

def tagOf (number : Nat) : Builder String := do
  pure (← node number).tag

def entriesOf (number : Nat) : Builder (List (Nat × Nat)) := do
  match ← node number with
  | .mapping _ entries _ => pure entries
  | _ => pure []

def setNode (number : Nat) (n : Node) : Builder Unit :=
  modify fun s => { s with nodes := s.nodes.setIfInBounds number n }

def setEntries (number : Nat) (entries : List (Nat × Nat)) : Builder Unit := do
  match ← node number with
  | .mapping tag _ start => setNode number (.mapping tag entries start)
  | _ => pure ()

-- A tag for scalars, of which a mapping may hold one as its default.
def text (fuel number : Nat) : Builder Text := do
  match fuel, ← node number with
  | 0, _ => throw (.scalar .endless)
  | _, .scalar _ text _ => pure text
  | _, .sequence _ _ start => flaw none none "expected a scalar node, but found sequence" start
  | fuel + 1, .mapping _ entries start =>
    match ← entries.findM? fun e => do pure ((← tagOf e.1) == CoreTag.value.uri) with
    | some e => text fuel e.2
    | none => flaw none none "expected a scalar node, but found mapping" start

def encodeProblem (position : Nat) (run : List Point) : String :=
  let code := (run.headD (.char ' ')).code
  let shown :=
    if code < 0x100 then "\\x" ++ Text.paddedHex 2 code
    else if code < 0x10000 then "\\u" ++ Text.paddedHex 4 code
    else "\\U" ++ Text.paddedHex 8 code
  let place :=
    if run.length = 1 then "character '" ++ shown ++ "' in position " ++ Text.decimal position
    else "characters in position " ++ Text.decimal position ++ "-" ++ Text.decimal (position + run.length - 1)
  "failed to convert base64 data into ascii: 'ascii' codec can't encode " ++ place ++
    ": ordinal not in range(128)"

def bytesOf (text : Text) : Except String Value :=
  let ps := text.points
  let ascii := ps.takeWhile fun p => p.code < 128
  match ps.drop ascii.length with
  | [] =>
    match Base64.decode (ps.filterMap Point.char?) with
    | .ok bytes => .ok (.bytes bytes)
    | .error f => .error ("failed to decode base64 data: " ++ f.message)
  | rest => .error (encodeProblem ascii.length (rest.takeWhile fun p => 128 ≤ p.code))

def ofScalar (r : Except ScalarFault Value) : Builder Value :=
  match r with
  | .ok v => pure v
  | .error f => throw (.scalar f)

-- The value of a node under a tag that scalars have.
def scalarValue (number : Nat) (tag : CoreTag) : Builder Value := do
  let text ← text ((← get).nodes.size + 1) number
  match tag with
  | .null => pure .null
  | .bool => ofScalar (boolValue text)
  | .int => ofScalar (integerValue text)
  | .float => ofScalar (floatValue text)
  | .binary => match bytesOf text with
    | .ok v => pure v
    | .error problem => flaw none none problem (← node number).start
  | .timestamp =>
    match ← node number with
    | .scalar .. => ofScalar (timestampValue text)
    | _ => throw (.scalar .notText)
  | _ => pure (.text text)

def isScalarTag : CoreTag → Bool
  | .orderedMap | .pairs | .set | .sequence | .mapping => false
  | _ => true

-- What a collection holds before it is filled.
def unfilled : CoreTag → Content
  | .set => .set []
  | .mapping => .map []
  | _ => .list []

def put (number : Nat) (content : Content) : Builder Unit :=
  modify fun s => { s with contents := s.contents.setIfInBounds number (some content) }

-- Meets a node; only the first time counts.
def met (number : Nat) : Builder Content := do
  match ((← get).contents.getD number none) with
  | some content => pure content
  | none =>
    let n ← node number
    match readableTag? n.tag with
    | none =>
      flaw none none ("could not determine a constructor for the tag " ++ Text.quoted n.tag) n.start
    | some tag =>
      if isScalarTag tag then
        let v ← scalarValue number tag
        put number (.scalar v)
        pure (.scalar v)
      else
        put number (unfilled tag)
        modify fun s => { s with waiting := s.waiting ++ [number] }
        pure (unfilled tag)

/-! ### Merging -/

def mergeFlaw {α : Type} (mapStart : Mark) (expected : String) (found : Node) : Builder α :=
  flaw (some "while constructing a mapping") (some mapStart)
    ("expected a " ++ expected ++ " for merging, but found " ++ found.kind) found.start

-- The entries in front of the first merge key, what it brings in, and the entries behind it.
def splitAtMerge : List (Nat × Nat) → Builder (Option (List (Nat × Nat) × Nat × List (Nat × Nat)))
  | [] => pure none
  | e :: rest => do
    if (← tagOf e.1) == CoreTag.merge.uri then pure (some ([], e.2, rest))
    else
      let found ← splitAtMerge rest
      pure (found.map fun (before, brought, behind) => (e :: before, brought, behind))

-- As an entry's key the mark of a default key is ordinary text.
def asKey (number : Nat) : Builder Unit := do
  match ← node number with
  | .scalar tag text start =>
    if tag = CoreTag.value.uri then setNode number (.scalar CoreTag.text.uri text start)
  | _ => pure ()

-- Carries out the merge keys of a mapping, each of which is gone once it is looked at, so that a
-- mapping that is merged into itself brings in the entries that it has left. What the keys bring in
-- comes before the mapping's own entries; of a list's mappings, the last one first.
def merge (number : Nat) (brought : List (Nat × Nat)) : Nat → Builder Unit
  | 0 => pure ()
  | fuel + 1 => do
    let entries ← entriesOf number
    match ← splitAtMerge entries with
    | none =>
      entries.forM fun e => asKey e.1
      setEntries number (brought ++ entries)
    | some (before, source, behind) =>
      setEntries number (before ++ behind)
      let start := (← node number).start
      let more ← match ← node source with
        | .mapping .. => do
          merge source [] fuel
          entriesOf source
        | .sequence _ items _ => do
          let parts ← items.mapM fun item => do
            match ← node item with
            | .mapping .. =>
              merge item [] fuel
              entriesOf item
            | other => mergeFlaw start "mapping" other
          pure parts.reverse.flatten
        | other => mergeFlaw start "mapping or list of mappings" other
      merge number (brought ++ more) fuel

/-! ### Collections -/

def entryCount : Node → Nat
  | .mapping _ entries _ => entries.length
  | _ => 0

-- The number of entries in all mappings, of which each that is a merge key is carried out.
def size (nodes : Array Node) : Nat :=
  nodes.foldl (fun total n => total + entryCount n) 0

-- The key of an entry: a collection cannot be one.
def keyValue (mapStart : Mark) (number : Nat) : Builder Value := do
  match ← met number with
  | .scalar v => pure v
  | _ =>
    flaw (some "while constructing a mapping") (some mapStart) "found unhashable key" (← node number).start

-- The entries of a mapping; a key that is repeated keeps its place.
def entryValues (number : Nat) : Builder (List (Value × Nat)) := do
  match ← node number with
  | .mapping _ _ start =>
    merge number [] (size (← get).nodes + 1)
    let entries ← (← entriesOf number).mapM fun (k, v) => do
      let key ← keyValue start k
      let _ ← met v
      pure (key, v)
    pure (Entries.ofList entries)
  | n => flaw none none ("expected a mapping node, but found " ++ n.kind) n.start

-- The items of an ordered mapping, each of them a mapping of one entry.
def pairValues (context : String) (number : Nat) : Builder (List (Nat × Nat)) := do
  match ← node number with
  | .sequence _ items start =>
    items.mapM fun item => do
      match ← node item with
      | .mapping _ [(k, v)] _ =>
        let _ ← met k
        let _ ← met v
        pure (k, v)
      | .mapping _ entries itemStart =>
        flaw (some context) (some start)
          ("expected a single mapping item, but found " ++ Text.decimal entries.length ++ " items") itemStart
      | n =>
        flaw (some context) (some start) ("expected a mapping of length 1, but found " ++ n.kind) n.start
  | n =>
    flaw (some context) (some n.start) ("expected a sequence, but found " ++ n.kind) n.start

def itemValues (number : Nat) : Builder (List Nat) := do
  match ← node number with
  | .sequence _ items _ =>
    items.forM fun item => do
      let _ ← met item
    pure items
  | n => flaw none none ("expected a sequence node, but found " ++ n.kind) n.start

-- What a collection holds once it is filled.
def filled (number : Nat) : Builder Content := do
  match readableTag? (← tagOf number) with
  | some .orderedMap => Content.pairs <$> pairValues "while constructing an ordered map" number
  | some .pairs => Content.pairs <$> pairValues "while constructing pairs" number
  | some .set => (fun entries => Content.set (entries.map Prod.fst)) <$> entryValues number
  | some .mapping => Content.map <$> entryValues number
  | _ => Content.list <$> itemValues number

-- Fills the collections in the order in which they were met.
def fillAll : Nat → Builder Unit
  | 0 => pure ()
  | fuel + 1 => do
    match (← get).waiting with
    | [] => pure ()
    | number :: rest =>
      modify fun s => { s with waiting := rest }
      put number (← filled number)
      fillAll fuel

def build (root : Nat) : Builder Unit := do
  let _ ← met root
  fillAll ((← get).nodes.size + 1)

end Builder

/-! ### Values -/

-- What is made of a node, given the values of the numbers in it.
def Content.valued (value : Nat → Value) : Content → Value
  | .scalar v => v
  | .list items => .list (items.map value)
  | .pairs items => .list (items.map fun item => .tuple [value item.1, value item.2])
  | .set members => .set members
  | .map entries => .map (entries.map fun entry => (entry.1, value entry.2))

-- The value that a number stands for, inside of the collections in `around`. A collection that stands
-- inside of itself is gone into `rounds` times more, and then left out.
def Content.unfold (contents : Array (Option Content)) : Nat → Nat → List Nat → Nat → Value
  | 0, _, _, _ => .null
  | fuel + 1, rounds, around, number =>
    let inside (rounds : Nat) (around : List Nat) : Value :=
      match contents.getD number none with
      | none => .null
      | some content => content.valued (unfold contents fuel rounds around)
    if around.contains number then
      match rounds with
      | 0 => .null
      | more + 1 => inside more [number]
    else inside rounds (number :: around)

-- Control characters other than tab and line ends, and code points that are no characters.
def isAcceptable (c : Char) : Bool :=
  let n := c.toNat
  n == 0x09 || n == 0x0A || n == 0x0D || (0x20 ≤ n && n ≤ 0x7E) || n == 0x85 ||
    (0xA0 ≤ n && n ≤ 0xD7FF) || (0xE000 ≤ n && n ≤ 0xFFFD) || 0x10000 ≤ n

-- The value of a text of one document, which goes `rounds` times round where it holds itself.
def loadTo (rounds : Nat) (text : String) : Except Fault Value :=
  let cs := text.toList
  match cs.dropWhile isAcceptable with
  | c :: _ => .error (.character c.toNat (cs.takeWhile isAcceptable).length)
  | [] =>
    match nodesOf cs with
    | .error flaw => .error (.flaw cs flaw)
    | .ok none => .ok .null
    | .ok (some (nodes, root)) =>
      match (Builder.build root).run ⟨nodes, nodes.map fun _ => none, []⟩ with
      | .error flaw => .error (.flaw cs flaw)
      | .ok (_, built) =>
        .ok (Content.unfold built.contents ((rounds + 1) * (nodes.size + 1)) rounds [] root)

def load (text : String) : Except Fault Value :=
  loadTo 2 text

end TemplateSchema.Yaml
