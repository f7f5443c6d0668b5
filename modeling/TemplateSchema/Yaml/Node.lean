import TemplateSchema.Yaml.Lexer
import TemplateSchema.Yaml.Scalar
/-!
The nodes of a document, numbered in the order in which they begin. An alias gives the number of the
node that its anchor stands before, which may be a collection around the alias itself. Tokens are
read one at a time, so a flaw of the text shows only if the reader gets that far.
-/
set_option autoImplicit false
namespace TemplateSchema.Yaml

-- What stands inside a collection is known by its number.
inductive Node where
  | scalar (tag : String) (text : Text) (start : Mark)
  | sequence (tag : String) (items : List Nat) (start : Mark)
  | mapping (tag : String) (entries : List (Nat × Nat)) (start : Mark)
  deriving Inhabited

namespace Node

def tag : Node → String
  | .scalar t _ _ | .sequence t _ _ | .mapping t _ _ => t

def start : Node → Mark
  | .scalar _ _ m | .sequence _ _ m | .mapping _ _ m => m

def kind : Node → String
  | .scalar .. => "scalar"
  | .sequence .. => "sequence"
  | .mapping .. => "mapping"

end Node

structure Anchor where
  name : String
  start : Mark
  number : Nat

structure Reading where
  tokens : List Token
  flaw : Option Flaw
  handles : List (String × String)
  anchors : List Anchor
  nodes : Array Node

abbrev NodeReader := StateT Reading (Except Flaw)

namespace Node

def grammarFlaw {α : Type} (context : Option String) (contextMark : Option Mark) (problem : String) (mark : Mark) :
    NodeReader α :=
  throw (.report .grammar ⟨context, contextMark, problem, mark⟩)

def nodeFlaw {α : Type} (context : Option String) (contextMark : Option Mark) (problem : String) (mark : Mark) :
    NodeReader α :=
  throw (.report .nodes ⟨context, contextMark, problem, mark⟩)

-- Behind the last token there is only the flaw that ended them.
def peek : NodeReader Token := do
  let s ← get
  match s.tokens, s.flaw with
  | token :: _, _ => pure token
  | [], some flaw => throw flaw
  | [], none => pure ⟨.streamEnd, ⟨0, 0, 0⟩, ⟨0, 0, 0⟩⟩

def next : NodeReader Token := do
  let token ← peek
  modify fun s => { s with tokens := s.tokens.drop 1 }
  pure token

def unexpected (token : Token) : String :=
  Text.quoted token.lexeme.name

def defaultHandles : List (String × String) :=
  [("!", "!"), ("!!", coreTagStart)]

-- The directives in front of a document set its tag handles.
def directives (version : Bool) (handles : List (String × String)) : Nat → NodeReader Unit
  | 0 => pure ()
  | fuel + 1 => do
    let token ← peek
    match token.lexeme with
    | .directive d =>
      let _ ← next
      match d with
      | .version major _ =>
        if version then grammarFlaw none none "found duplicate YAML directive" token.start
        else if major ≠ 1 then
          grammarFlaw none none "found incompatible YAML document (version 1.* is required)" token.start
        else directives true handles fuel
      | .handle h tagStart =>
        if handles.any (·.1 == h) then
          grammarFlaw none none ("duplicate tag handle " ++ Text.quoted h) token.start
        else directives version (handles ++ [(h, tagStart)]) fuel
      | .other => directives version handles fuel
    | _ =>
      let missing := defaultHandles.filter fun d => !handles.any (·.1 == d.1)
      modify fun s => { s with handles := handles ++ missing }

-- The anchor and the tag in front of a node, with where they start.
structure Properties where
  anchor : Option String
  tag : Option String
  start : Option Mark

def resolvedTag (spelling : TagSpelling) (start tagStart : Mark) : NodeReader String := do
  match spelling.handle with
  | none => pure spelling.suffix
  | some h =>
    match (← get).handles.find? (·.1 == h) with
    | some (_, tagText) => pure (tagText ++ spelling.suffix)
    | none =>
      grammarFlaw (some "while parsing a node") (some start)
        ("found undefined tag handle " ++ Text.quoted h) tagStart

def properties : NodeReader Properties := do
  let first ← peek
  match first.lexeme with
  | .anchor name =>
    let _ ← next
    let second ← peek
    match second.lexeme with
    | .tag spelling =>
      let _ ← next
      let tag ← resolvedTag spelling first.start second.start
      pure ⟨some name, some tag, some first.start⟩
    | _ => pure ⟨some name, none, some first.start⟩
  | .tag spelling =>
    let _ ← next
    let second ← peek
    let anchor ← match second.lexeme with
      | .anchor name => do
        let _ ← next
        pure (some name)
      | _ => pure none
    let tag ← resolvedTag spelling first.start first.start
    pure ⟨anchor, some tag, some first.start⟩
  | _ => pure ⟨none, none, none⟩

-- Takes down a node and the anchor in front of it. A collection is taken down before what is in it.
def takeDown (anchor : Option String) (node : Node) : NodeReader Nat := do
  let number := (← get).nodes.size
  match anchor with
  | none => pure ()
  | some name =>
    match (← get).anchors.find? (·.name == name) with
    | some earlier =>
      nodeFlaw (some ("found duplicate anchor " ++ Text.quoted name ++ "; first occurrence"))
        (some earlier.start) "second occurrence" node.start
    | none => modify fun s => { s with anchors := s.anchors ++ [⟨name, node.start, number⟩] }
  modify fun s => { s with nodes := s.nodes.push node }
  pure number

-- The node of a number once all of it has been read.
def complete (number : Nat) (node : Node) : NodeReader Nat := do
  modify fun s => { s with nodes := s.nodes.setIfInBounds number node }
  pure number

def isImplicit (tag : Option String) : Bool :=
  tag.isNone || tag == some "!"

def aliased (name : String) (start : Mark) : NodeReader Nat := do
  match (← get).anchors.find? (·.name == name) with
  | none => nodeFlaw none none ("found undefined alias " ++ Text.quoted name) start
  | some a => pure a.number

def scalarNode (p : Properties) (text : Text) (plain : Bool) (start : Mark) : NodeReader Nat :=
  let tag := match p.tag with
    | some t => if t = "!" then (implicitTag text).uri else t
    | none => if plain then (implicitTag text).uri else CoreTag.text.uri
  takeDown p.anchor (.scalar tag text start)

def emptyNode (mark : Mark) : NodeReader Nat :=
  takeDown none (.scalar (implicitTag "").uri "" mark)

def collectionTag (p : Properties) (default : CoreTag) : String :=
  if isImplicit p.tag then default.uri else p.tag.getD ""

mutual

-- Reads a node. Block collections are taken only where `block` holds, and a list without an
-- indentation of its own only where `indentless` holds.
def read (block indentless : Bool) : Nat → NodeReader Nat
  | 0 => pure 0
  | fuel + 1 => do
    let first ← peek
    match first.lexeme with
    | .alias name =>
      let _ ← next
      aliased name first.start
    | _ =>
      let p ← properties
      let token ← peek
      let start := p.start.getD token.start
      match token.lexeme with
      | .blockEntry =>
        if indentless then
          let number ← takeDown p.anchor (.sequence (collectionTag p .sequence) [] start)
          let items ← indentlessItems fuel
          complete number (.sequence (collectionTag p .sequence) items start)
        else noContent block p start token
      | .scalar text plain =>
        let _ ← next
        scalarNode p text plain start
      | .flowSequenceStart =>
        let number ← takeDown p.anchor (.sequence (collectionTag p .sequence) [] start)
        let _ ← next
        let items ← flowItems token.start true fuel
        complete number (.sequence (collectionTag p .sequence) items start)
      | .flowMappingStart =>
        let number ← takeDown p.anchor (.mapping (collectionTag p .mapping) [] start)
        let _ ← next
        let entries ← flowEntries token.start true fuel
        complete number (.mapping (collectionTag p .mapping) entries start)
      | .blockSequenceStart =>
        if block then
          let number ← takeDown p.anchor (.sequence (collectionTag p .sequence) [] start)
          let _ ← next
          let items ← blockItems token.start fuel
          complete number (.sequence (collectionTag p .sequence) items start)
        else noContent block p start token
      | .blockMappingStart =>
        if block then
          let number ← takeDown p.anchor (.mapping (collectionTag p .mapping) [] start)
          let _ ← next
          let entries ← blockEntries token.start fuel
          complete number (.mapping (collectionTag p .mapping) entries start)
        else noContent block p start token
      | _ => noContent block p start token

-- A node may be empty only behind an anchor or a tag.
def noContent (block : Bool) (p : Properties) (start : Mark) (token : Token) : NodeReader Nat := do
  if p.anchor.isSome ∨ p.tag.isSome then scalarNode p "" (isImplicit p.tag) start
  else
    grammarFlaw (some ("while parsing a " ++ (if block then "block" else "flow") ++ " node")) (some start)
      ("expected the node content, but found " ++ unexpected token) token.start

def blockItems (opening : Mark) : Nat → NodeReader (List Nat)
  | 0 => pure []
  | fuel + 1 => do
    let token ← next
    match token.lexeme with
    | .blockEntry =>
      let item ← match (← peek).lexeme with
        | .blockEntry | .blockEnd => emptyNode token.stop
        | _ => read true false fuel
      let rest ← blockItems opening fuel
      pure (item :: rest)
    | .blockEnd => pure []
    | _ =>
      grammarFlaw (some "while parsing a block collection") (some opening)
        ("expected <block end>, but found " ++ unexpected token) token.start

def indentlessItems : Nat → NodeReader (List Nat)
  | 0 => pure []
  | fuel + 1 => do
    match (← peek).lexeme with
    | .blockEntry =>
      let token ← next
      let item ← match (← peek).lexeme with
        | .blockEntry | .key | .value | .blockEnd => emptyNode token.stop
        | _ => read true false fuel
      let rest ← indentlessItems fuel
      pure (item :: rest)
    | _ => pure []

def blockEntries (opening : Mark) : Nat → NodeReader (List (Nat × Nat))
  | 0 => pure []
  | fuel + 1 => do
    let token ← next
    match token.lexeme with
    | .key =>
      let key ← match (← peek).lexeme with
        | .key | .value | .blockEnd => emptyNode token.stop
        | _ => read true true fuel
      let value ← blockEntryValue fuel
      let rest ← blockEntries opening fuel
      pure ((key, value) :: rest)
    | .blockEnd => pure []
    | _ =>
      grammarFlaw (some "while parsing a block mapping") (some opening)
        ("expected <block end>, but found " ++ unexpected token) token.start

def blockEntryValue : Nat → NodeReader Nat
  | 0 => pure 0
  | fuel + 1 => do
    let token ← peek
    match token.lexeme with
    | .value =>
      let _ ← next
      match (← peek).lexeme with
      | .key | .value | .blockEnd => emptyNode token.stop
      | _ => read true true fuel
    | _ => emptyNode token.start

-- The items of a bracketed list; a key mark makes an item a mapping of one entry.
def flowItems (opening : Mark) (isFirst : Bool) : Nat → NodeReader (List Nat)
  | 0 => pure []
  | fuel + 1 => do
    let token ← peek
    match token.lexeme with
    | .flowSequenceEnd =>
      let _ ← next
      pure []
    | _ =>
      flowComma "while parsing a flow sequence" "]" opening isFirst token
      let token ← peek
      match token.lexeme with
      | .flowSequenceEnd =>
        let _ ← next
        pure []
      | .key =>
        let _ ← next
        let key ← match (← peek).lexeme with
          | .value | .flowEntry | .flowSequenceEnd => emptyNode token.stop
          | _ => read false false fuel
        let value ← flowItemValue fuel
        let item ← takeDown none (.mapping CoreTag.mapping.uri [(key, value)] token.start)
        let rest ← flowItems opening false fuel
        pure (item :: rest)
      | _ =>
        let item ← read false false fuel
        let rest ← flowItems opening false fuel
        pure (item :: rest)

def flowItemValue : Nat → NodeReader Nat
  | 0 => pure 0
  | fuel + 1 => do
    let token ← peek
    match token.lexeme with
    | .value =>
      let _ ← next
      match (← peek).lexeme with
      | .flowEntry | .flowSequenceEnd => emptyNode token.stop
      | _ => read false false fuel
    | _ => emptyNode token.start

def flowComma (context closing : String) (opening : Mark) (isFirst : Bool) (token : Token) : NodeReader Unit := do
  if isFirst then pure ()
  else match token.lexeme with
    | .flowEntry =>
      let _ ← next
      pure ()
    | _ =>
      grammarFlaw (some context) (some opening)
        ("expected ',' or '" ++ closing ++ "', but got " ++ unexpected token) token.start

def flowEntries (opening : Mark) (isFirst : Bool) : Nat → NodeReader (List (Nat × Nat))
  | 0 => pure []
  | fuel + 1 => do
    let token ← peek
    match token.lexeme with
    | .flowMappingEnd =>
      let _ ← next
      pure []
    | _ =>
      flowComma "while parsing a flow mapping" "\x7d" opening isFirst token
      let token ← peek
      match token.lexeme with
      | .flowMappingEnd =>
        let _ ← next
        pure []
      | .key =>
        let _ ← next
        let key ← match (← peek).lexeme with
          | .value | .flowEntry | .flowMappingEnd => emptyNode token.stop
          | _ => read false false fuel
        let value ← flowEntryValue fuel
        let rest ← flowEntries opening false fuel
        pure ((key, value) :: rest)
      | _ =>
        let key ← read false false fuel
        let after ← peek
        let value ← emptyNode after.start
        let rest ← flowEntries opening false fuel
        pure ((key, value) :: rest)

def flowEntryValue : Nat → NodeReader Nat
  | 0 => pure 0
  | fuel + 1 => do
    let token ← peek
    match token.lexeme with
    | .value =>
      let _ ← next
      match (← peek).lexeme with
      | .flowEntry | .flowMappingEnd => emptyNode token.stop
      | _ => read false false fuel
    | _ => emptyNode token.start

end

def skipDocumentEnds : Nat → NodeReader Unit
  | 0 => pure ()
  | fuel + 1 => do
    match (← peek).lexeme with
    | .documentEnd =>
      let _ ← next
      skipDocumentEnds fuel
    | _ => pure ()

-- The head of an explicit document: directives and three dashes. `none` at the end of the text.
def documentHead (fuel : Nat) : NodeReader (Option Mark) := do
  skipDocumentEnds fuel
  let first ← peek
  match first.lexeme with
  | .streamEnd => pure none
  | _ =>
    directives false [] fuel
    let token ← next
    match token.lexeme with
    | .documentStart => pure (some first.start)
    | _ =>
      grammarFlaw none none ("expected '<document start>', but found " ++ unexpected token) token.start

def explicitContent (fuel : Nat) : NodeReader Nat := do
  let token ← peek
  match token.lexeme with
  | .directive _ | .documentStart | .documentEnd | .streamEnd => emptyNode token.start
  | _ => read true false fuel

-- The only document of a text, if it has one.
def single (fuel : Nat) : NodeReader (Option Nat) := do
  let _ ← next
  let first ← peek
  let root ← match first.lexeme with
    | .streamEnd => pure none
    | .directive _ | .documentStart =>
      let _ ← documentHead fuel
      some <$> explicitContent fuel
    | _ => some <$> read true false fuel
  match root with
  | none => pure none
  | some number =>
    match ← documentHead fuel with
    | none => pure (some number)
    | some mark =>
      nodeFlaw (some "expected a single document in the stream")
        ((← get).nodes[number]?.map Node.start) "but found another document" mark

end Node

-- The nodes of a text of one document with the number of the root; `none` if there is nothing in it.
def nodesOf (text : List Char) : Except Flaw (Option (Array Node × Nat)) :=
  let (tokens, flaw) := tokens text
  let fuel := 4 * tokens.length + 8
  (fun (root, reading) => root.map fun number => (reading.nodes, number)) <$>
    (Node.single fuel).run
      { tokens := tokens, flaw := flaw, handles := Node.defaultHandles, anchors := [], nodes := #[] }

end TemplateSchema.Yaml
