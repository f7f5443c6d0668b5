import TemplateSchema.Number.Numeral
import TemplateSchema.Text.Utf8
import TemplateSchema.Text.Lines
import TemplateSchema.Yaml.Fault
import TemplateSchema.Yaml.Token
/-!
From text to tokens. Whether a scalar is a key shows only at the colon behind it, so a token that
may still turn out to be one is held back until that is settled; a fault found meanwhile comes
before it. The result is the list of tokens that can be handed out, with the fault that stops it.
-/
set_option autoImplicit false
namespace TemplateSchema.Yaml

-- A place where a key may have begun; a required one must be followed by its colon.
structure KeyCandidate where
  flowLevel : Nat
  number : Nat
  required : Bool
  mark : Mark

structure Lexer where
  cursor : Cursor
  flowLevel : Nat
  held : List Token
  handedOut : Nat
  indent : Int
  outerIndents : List Int
  keyAllowed : Bool
  candidates : List KeyCandidate
  finished : Bool

abbrev Lexing := StateT Lexer (Except Flaw)

namespace Lexer

def start (text : List Char) : Lexer where
  cursor := Cursor.start text
  flowLevel := 0
  held := [⟨.streamStart, ⟨0, 0, 0⟩, ⟨0, 0, 0⟩⟩]
  handedOut := 0
  indent := -1
  outerIndents := []
  keyAllowed := true
  candidates := []
  finished := false

def fail {α : Type} (context : Option String) (contextMark : Option Mark) (problem : String) (mark : Mark) :
    Except Flaw α :=
  .error (.report .tokens ⟨context, contextMark, problem, mark⟩)

def charFault {α : Type} (context : String) (contextMark : Mark) (expected : String) (c : Cursor) : Except Flaw α :=
  fail (some context) (some contextMark)
    (expected ++ ", but found " ++ Text.quoted (String.singleton c.peek)) c.mark

def emit (lexeme : Lexeme) (start stop : Mark) : Lexing Unit :=
  modify fun s => { s with held := s.held ++ [⟨lexeme, start, stop⟩] }

def setCursor (c : Cursor) : Lexing Unit :=
  modify fun s => { s with cursor := c }

def allowKey (allowed : Bool) : Lexing Unit :=
  modify fun s => { s with keyAllowed := allowed }

def missingColon {α : Type} (k : KeyCandidate) (mark : Mark) : Except Flaw α :=
  fail (some "while scanning a simple key") (some k.mark) "could not find expected ':'" mark

def isStale (c : Cursor) (k : KeyCandidate) : Bool :=
  k.mark.line != c.mark.line || 1024 < c.mark.index - k.mark.index

-- A key fits on one line and in 1024 characters.
def dropStale : Lexing Unit := do
  let s ← get
  match s.candidates.find? fun k => isStale s.cursor k && k.required with
  | some k => missingColon k s.cursor.mark
  | none => set { s with candidates := s.candidates.filter fun k => !isStale s.cursor k }

def removeCandidate : Lexing Unit := do
  let s ← get
  match s.candidates.find? (·.flowLevel == s.flowLevel) with
  | some k =>
    if k.required then missingColon k s.cursor.mark
    else set { s with candidates := s.candidates.filter (·.flowLevel != s.flowLevel) }
  | none => pure ()

def saveCandidate : Lexing Unit := do
  let s ← get
  if s.keyAllowed then
    removeCandidate
    let required := s.flowLevel == 0 && s.indent == (s.cursor.column : Int)
    modify fun s => { s with
      candidates := s.candidates ++
        [⟨s.flowLevel, s.handedOut + s.held.length, required, s.cursor.mark⟩] }

def addIndent (column : Int) : Lexing Bool := do
  let s ← get
  if s.indent < column then
    set { s with outerIndents := s.indent :: s.outerIndents, indent := column }
    pure true
  else pure false

def unwindTo (column : Int) (mark : Mark) (indent : Int) : List Int → List Token × Int × List Int
  | [] => ([], indent, [])
  | outer :: rest =>
    if column < indent then
      let (tokens, last, left) := unwindTo column mark outer rest
      (⟨.blockEnd, mark, mark⟩ :: tokens, last, left)
    else ([], indent, outer :: rest)

-- Closes the blocks that are indented deeper than a column.
def unwind (column : Int) : Lexing Unit :=
  modify fun s =>
    if s.flowLevel = 0 then
      let (tokens, indent, outer) := unwindTo column s.cursor.mark s.indent s.outerIndents
      { s with held := s.held ++ tokens, indent := indent, outerIndents := outer }
    else s

-- Skips blanks, comments and line breaks; tells whether a line break was among them.
def gap (c : Cursor) : Nat → Bool × Cursor
  | 0 => (false, c)
  | fuel + 1 =>
    let c := c.skipWhile (· == ' ')
    let c := if c.peek = '#' then c.skipWhile (!isBreakOrEnd ·) else c
    match c.lineBreak with
    | ([], _) => (false, c)
    | (_, next) => (true, (gap next fuel).2)

def skipGap : Lexing Unit :=
  modify fun s =>
    let c := if s.cursor.mark.index = 0 ∧ s.cursor.peek = '\uFEFF' then s.cursor.advance else s.cursor
    let (broken, c) := gap c (c.text.length + 1)
    { s with cursor := c, keyAllowed := s.keyAllowed || (broken && s.flowLevel == 0) }

/-! ### Directives, names and tags -/

def directiveContext : String := "while scanning a directive"

def ignoredLine (context : String) (begun : Mark) (c : Cursor) : Except Flaw Cursor :=
  let c := c.skipWhile (· == ' ')
  let c := if c.peek = '#' then c.skipWhile (!isBreakOrEnd ·) else c
  if isBreakOrEnd c.peek then .ok c.lineBreak.2
  else charFault context begun "expected a comment or a line break" c

def versionNumber (begun : Mark) (c : Cursor) : Except Flaw (Nat × Cursor) :=
  let digits := c.spanWhile Char.isDigit
  if digits.isEmpty then charFault directiveContext begun "expected a digit" c
  else if Numeral.digitLimit < digits.length then .error (.scalar (.digits digits.length))
  else .ok (Text.natOfDigits 10 (digits.map fun d => d.toNat - 48), c.skip digits.length)

def version (begun : Mark) (c : Cursor) : Except Flaw (Directive × Cursor) := do
  let (major, c) ← versionNumber begun (c.skipWhile (· == ' '))
  if c.peek ≠ '.' then charFault directiveContext begun "expected a digit or '.'" c
  else
    let (minor, c) ← versionNumber begun c.advance
    if isSpaceBreakOrEnd c.peek then .ok (.version major minor, c)
    else charFault directiveContext begun "expected a digit or ' '" c

def tagHandle (name : String) (begun : Mark) (c : Cursor) : Except Flaw (String × Cursor) :=
  if c.peek ≠ '!' then charFault ("while scanning a " ++ name) begun "expected '!'" c
  else if c.peekAt 1 = ' ' then .ok ("!", c.advance)
  else
    let inner := c.advance.spanWhile isNameChar
    let after := c.advance.skip inner.length
    if after.peek = '!' then .ok (String.ofList ('!' :: inner ++ ['!']), after.advance)
    else charFault ("while scanning a " ++ name) begun "expected '!'" after

def isUriChar (c : Char) : Bool :=
  c.isAlphanum || "-;/?:@&=+$,_.!~*'()[]%".toList.contains c

def hexValue (c : Char) : Nat :=
  if c.isDigit then c.toNat - 48 else if 'a' ≤ c then c.toNat - 87 else c.toNat - 55

-- The bytes of a run of escapes.
def uriBytes (name : String) (begun : Mark) (c : Cursor) : Nat → Except Flaw (List UInt8 × Cursor)
  | 0 => .ok ([], c)
  | fuel + 1 =>
    if c.peek ≠ '%' then .ok ([], c)
    else
      let c := c.advance
      let expected := "expected URI escape sequence of 2 hexadecimal numbers, but found "
      match [0, 1].find? fun k => !Text.isHexDigit (c.peekAt k) with
      | some k =>
        fail (some ("while scanning a " ++ name)) (some begun)
          (expected ++ Text.quoted (String.singleton (c.peekAt k))) c.mark
      | none => do
        let byte := hexValue (c.peekAt 0) * 16 + hexValue (c.peekAt 1)
        let (bytes, c) ← uriBytes name begun (c.skip 2) fuel
        .ok (UInt8.ofNat byte :: bytes, c)

def uriText (name : String) (begun : Mark) (c : Cursor) : Nat → Except Flaw (List Char × Cursor)
  | 0 => .ok ([], c)
  | fuel + 1 =>
    if c.peek = '%' then do
      let (bytes, after) ← uriBytes name begun c c.text.length
      match Utf8.decode bytes with
      | .ok s => do
        let (rest, c) ← uriText name begun after fuel
        .ok (s.toList ++ rest, c)
      | .error f => fail (some ("while scanning a " ++ name)) (some begun) f.message c.mark
    else if isUriChar c.peek then do
      let (rest, after) ← uriText name begun c.advance fuel
      .ok (c.peek :: rest, after)
    else .ok ([], c)

def uri (name : String) (begun : Mark) (c : Cursor) : Except Flaw (String × Cursor) := do
  if isUriChar c.peek then
    let (text, after) ← uriText name begun c c.text.length
    .ok (String.ofList text, after)
  else charFault ("while parsing a " ++ name) begun "expected URI" c

def handleDirective (begun : Mark) (c : Cursor) : Except Flaw (Directive × Cursor) := do
  let (handle, c) ← tagHandle "directive" begun (c.skipWhile (· == ' '))
  if c.peek ≠ ' ' then charFault directiveContext begun "expected ' '" c
  else
    let (tagStart, c) ← uri "directive" begun (c.skipWhile (· == ' '))
    if isSpaceBreakOrEnd c.peek then .ok (.handle handle tagStart, c)
    else charFault directiveContext begun "expected ' '" c

def directive (c : Cursor) : Except Flaw (Token × Cursor) := do
  let begun := c.mark
  let c := c.advance
  let name := c.spanWhile isNameChar
  let after := c.skip name.length
  if name.isEmpty ∨ isSpaceBreakOrEnd after.peek = false then
    charFault directiveContext begun "expected alphabetic or numeric character" after
  else
    let (d, c) ←
      if name = ['Y', 'A', 'M', 'L'] then version begun after
      else if name = ['T', 'A', 'G'] then handleDirective begun after
      else .ok (.other, after)
    let stop := c.mark
    let c := match d with
      | .other => c.skipWhile (!isBreakOrEnd ·)
      | _ => c
    let c ← ignoredLine directiveContext begun c
    .ok (⟨.directive d, begun, stop⟩, c)

def nameEnds (c : Char) : Bool :=
  isBlankBreakOrEnd c || "?:,]%@\x7d".toList.contains c || c.toNat == 0x60

-- The name behind an anchor's or alias's mark.
def anchorName (kind : String) (c : Cursor) : Except Flaw (String × Cursor) :=
  let name := c.advance.spanWhile isNameChar
  let after := c.advance.skip name.length
  if name.isEmpty ∨ nameEnds after.peek = false then
    charFault ("while scanning an " ++ kind) c.mark "expected alphabetic or numeric character" after
  else .ok (String.ofList name, after)

def tagSpelling (c : Cursor) : Except Flaw (TagSpelling × Cursor) := do
  let begun := c.mark
  let (spelling, after) ←
    if c.peekAt 1 = '<' then do
      let (suffix, c) ← uri "tag" begun (c.skip 2)
      if c.peek = '>' then .ok (TagSpelling.mk none suffix, c.advance)
      else charFault "while parsing a tag" begun "expected '>'" c
    else if isBlankBreakOrEnd (c.peekAt 1) then .ok (TagSpelling.mk none "!", c.advance)
    else if (c.advance.spanWhile (!isSpaceBreakOrEnd ·)).contains '!' then do
      let (handle, c) ← tagHandle "tag" begun c
      let (suffix, c) ← uri "tag" begun c
      .ok (TagSpelling.mk (some handle) suffix, c)
    else do
      let (suffix, c) ← uri "tag" begun c.advance
      .ok (TagSpelling.mk (some "!") suffix, c)
  if isSpaceBreakOrEnd after.peek then .ok (spelling, after)
  else charFault "while scanning a tag" begun "expected ' '" after

/-! ### Block scalars -/

-- Whether final line breaks are dropped, kept, or cut down to one.
inductive Chomping where
  | clip
  | strip
  | keep

def chompingOf? (c : Char) : Option Chomping :=
  if c = '+' then some .keep else if c = '-' then some .strip else none

def blockContext : String := "while scanning a block scalar"

def indentDigit (begun : Mark) (c : Cursor) : Except Flaw (Option Nat × Cursor) :=
  if c.peek = '0' then
    fail (some blockContext) (some begun)
      "expected indentation indicator in the range 1-9, but found 0" c.mark
  else if c.peek.isDigit then .ok (some (c.peek.toNat - 48), c.advance)
  else .ok (none, c)

-- The marks behind a block scalar's first character, in either order.
def blockHeader (begun : Mark) (c : Cursor) : Except Flaw (Chomping × Option Nat × Cursor) := do
  let (chomping, increment, c) ← match chompingOf? c.peek with
    | some chomping => do
      let (increment, c) ← indentDigit begun c.advance
      .ok (chomping, increment, c)
    | none => do
      let (increment, c) ← indentDigit begun c
      match increment, chompingOf? c.peek with
      | some _, some chomping => .ok (chomping, increment, c.advance)
      | _, _ => .ok (.clip, increment, c)
  if isSpaceBreakOrEnd c.peek then .ok (chomping, increment, c)
  else charFault blockContext begun "expected chomping or indentation indicators" c

-- Leading empty lines, with the greatest indentation found among them.
def leadingLines (deepest : Nat) (stop : Mark) (c : Cursor) : Nat → List Char × Nat × Mark × Cursor
  | 0 => ([], deepest, stop, c)
  | fuel + 1 =>
    if c.peek = ' ' then
      let c := c.advance
      leadingLines (max deepest c.column) stop c fuel
    else match c.lineBreak with
      | ([], _) => ([], deepest, stop, c)
      | (br, next) =>
        let (breaks, deepest, stop, c) := leadingLines deepest next.mark next fuel
        (br ++ breaks, deepest, stop, c)

def skipIndent (indent : Nat) (c : Cursor) : Cursor :=
  c.skip (min (indent - c.column) (c.spanWhile (· == ' ')).length)

def emptyLines (indent : Nat) (stop : Mark) (c : Cursor) : Nat → List Char × Mark × Cursor
  | 0 => ([], stop, c)
  | fuel + 1 =>
    match c.lineBreak with
    | ([], _) => ([], stop, c)
    | (br, next) =>
      let (breaks, stop, c) := emptyLines indent next.mark (skipIndent indent next) fuel
      (br ++ breaks, stop, c)

-- The lines of a block scalar: the text, the last line break, the empty lines after it.
def blockLines (folded : Bool) (indent : Nat) (breaks : List Char) (c : Cursor) :
    Nat → List Char × List Char × List Char × Mark × Cursor
  | 0 => ([], [], breaks, c.mark, c)
  | fuel + 1 =>
    let leadingText := !Text.isLineBlank c.peek
    let line := c.spanWhile (!isBreakOrEnd ·)
    let (br, next) := (c.skip line.length).lineBreak
    let (later, stop, next) := emptyLines indent next.mark (skipIndent indent next) (next.text.length + 1)
    if next.column = indent ∧ next.text.isEmpty = false then
      let joint :=
        if folded ∧ br = ['\n'] ∧ leadingText ∧ Text.isLineBlank next.peek = false then
          (if later.isEmpty then [' '] else [])
        else br
      let (rest, last, tail, stop, c) := blockLines folded indent later next fuel
      (breaks ++ line ++ joint ++ rest, last, tail, stop, c)
    else (breaks ++ line, br, later, stop, next)

def blockScalar (folded : Bool) (parentIndent : Int) (c : Cursor) : Except Flaw (Token × Cursor) := do
  let begun := c.mark
  let (chomping, increment, c) ← blockHeader begun c.advance
  let c ← ignoredLine blockContext begun c
  let least := max 1 (parentIndent + 1).toNat
  let size := c.text.length + 1
  let (breaks, indent, stop, c) := match increment with
    | none =>
      let (breaks, deepest, stop, c) := leadingLines 0 c.mark c size
      (breaks, max least deepest, stop, c)
    | some n =>
      let indent := least + n - 1
      let (breaks, stop, c) := emptyLines indent c.mark (skipIndent indent c) size
      (breaks, indent, stop, c)
  let (text, last, tail, stop, c) :=
    if c.column = indent ∧ c.text.isEmpty = false then blockLines folded indent breaks c size
    else ([], [], breaks, stop, c)
  let content := match chomping with
    | .strip => text
    | .clip => text ++ last
    | .keep => text ++ last ++ tail
  .ok (⟨.scalar (String.ofList content) false, begun, stop⟩, c)

/-! ### Quoted scalars -/

def quotedContext : String := "while scanning a double-quoted scalar"

def escape? : Char → Option Char
  | '0' => some '\x00'
  | 'a' => some '\x07'
  | 'b' => some '\x08'
  | 't' => some '\t'
  | '\t' => some '\t'
  | 'n' => some '\n'
  | 'v' => some '\x0b'
  | 'f' => some '\x0c'
  | 'r' => some '\r'
  | 'e' => some '\x1b'
  | ' ' => some ' '
  | '"' => some '"'
  | '\\' => some '\\'
  | '/' => some '/'
  | 'N' => some '\x85'
  | '_' => some '\xa0'
  | 'L' => some '\u2028'
  | 'P' => some '\u2029'
  | _ => none

def escapeLength? : Char → Option Nat
  | 'x' => some 2
  | 'u' => some 4
  | 'U' => some 8
  | _ => none

-- The line breaks inside a quoted scalar; no separator may begin a line of it.
def quotedBreaks (begun : Mark) (c : Cursor) : Nat → Except Flaw (List Char × Cursor)
  | 0 => .ok ([], c)
  | fuel + 1 =>
    if c.atSeparator then
      fail (some "while scanning a quoted scalar") (some begun) "found unexpected document separator" c.mark
    else
      let c := c.skipWhile Text.isLineBlank
      match c.lineBreak with
      | ([], _) => .ok ([], c)
      | (br, next) => do
        let (breaks, c) ← quotedBreaks begun next fuel
        .ok (br ++ breaks, c)

-- Blanks inside a quoted scalar: kept within a line, folded where lines end.
def quotedBlanks (begun : Mark) (c : Cursor) : Except Flaw (List Char × Cursor) :=
  let blanks := c.spanWhile Text.isLineBlank
  let c := c.skip blanks.length
  if c.text.isEmpty then
    fail (some "while scanning a quoted scalar") (some begun) "found unexpected end of stream" c.mark
  else match c.lineBreak with
    | ([], _) => .ok (blanks, c)
    | (br, next) => do
      let (breaks, c) ← quotedBreaks begun next (next.text.length + 1)
      if br ≠ ['\n'] then .ok (br ++ breaks, c)
      else if breaks.isEmpty then .ok ([' '], c)
      else .ok (breaks, c)

def pointOfCode (code : Nat) : Except Flaw Point :=
  if 0x7FFFFFFF < code then .error (.scalar .codeTooLarge)
  else if 0x10FFFF < code then .error (.scalar .codePoint)
  else .ok (.ofCode code)

def hexEscape (begun : Mark) (length : Nat) (c : Cursor) : Except Flaw Point :=
  match (List.range length).find? fun k => !Text.isHexDigit (c.peekAt k) with
  | some k =>
    fail (some quotedContext) (some begun)
      ("expected escape sequence of " ++ Text.decimal length ++ " hexadecimal numbers, but found " ++
        Text.quoted (String.singleton (c.peekAt k))) c.mark
  | none => pointOfCode (Text.natOfDigits 16 ((c.text.take length).map hexValue))

def isQuotedPlain (c : Char) : Bool :=
  !(isBlankBreakOrEnd c || c == '\'' || c == '"' || c == '\\')

-- The code points of a quoted scalar up to its closing quote.
def quotedBody (double : Bool) (begun : Mark) (c : Cursor) : Nat → Except Flaw (List Point × Cursor)
  | 0 => .ok ([], c)
  | fuel + 1 =>
    let run := c.spanWhile isQuotedPlain
    let c := c.skip run.length
    let follow (front : List Point) (next : Cursor) : Except Flaw (List Point × Cursor) := do
      let (rest, last) ← quotedBody double begun next fuel
      .ok (run.map Point.char ++ front ++ rest, last)
    let ch := c.peek
    if double = false ∧ ch = '\'' ∧ c.peekAt 1 = '\'' then follow [.char '\''] (c.skip 2)
    else if (double ∧ ch = '\'') ∨ (double = false ∧ (ch = '"' ∨ ch = '\\')) then follow [.char ch] c.advance
    else if double ∧ ch = '\\' then
      let c := c.advance
      match escape? c.peek, escapeLength? c.peek with
      | some e, _ => follow [.char e] c.advance
      | none, some length => do
        let e ← hexEscape begun length c.advance
        follow [e] (c.advance.skip length)
      | none, none =>
        if isBreak c.peek then do
          let (breaks, next) ← quotedBreaks begun c.lineBreak.2 (c.text.length + 1)
          follow (breaks.map Point.char) next
        else
          fail (some quotedContext) (some begun)
            ("found unknown escape character " ++ Text.quoted (String.singleton c.peek)) c.mark
    else if ch = '\'' ∨ ch = '"' then .ok (run.map Point.char, c.advance)
    else do
      let (blanks, next) ← quotedBlanks begun c
      follow (blanks.map Point.char) next

def quotedScalar (double : Bool) (c : Cursor) : Except Flaw (Token × Cursor) := do
  let (text, after) ← quotedBody double c.mark c.advance (2 * c.text.length + 2)
  .ok (⟨.scalar (Text.ofPoints text) false, c.mark, after.mark⟩, after)

/-! ### Plain scalars -/

def isFlowMark (c : Char) : Bool :=
  c == ',' || c == '[' || c == ']' || c == '\x7b' || c == '\x7d'

-- The characters of a plain scalar up to a blank or to what ends it.
def plainRun (inFlow : Bool) : List Char → List Char
  | [] => []
  | ch :: rest =>
    let next := rest.headD '\x00'
    if isBlankBreakOrEnd ch ∨
        (ch = ':' ∧ (isBlankBreakOrEnd next ∨ (inFlow ∧ isFlowMark next))) ∨
        (inFlow ∧ (isFlowMark ch ∨ ch = '?')) then []
    else ch :: plainRun inFlow rest

-- Line breaks and blanks after the first line break; none if a separator follows a break.
def plainBreaks (c : Cursor) : Nat → Option (List Char) × Cursor
  | 0 => (some [], c)
  | fuel + 1 =>
    if c.peek = ' ' then plainBreaks c.advance fuel
    else match c.lineBreak with
      | ([], _) => (some [], c)
      | (br, next) =>
        if next.atSeparator then (none, next)
        else
          let (breaks, last) := plainBreaks next fuel
          (breaks.map (br ++ ·), last)

-- The blanks between two runs: what they fold to, and whether a line ended.
def plainBlanks (c : Cursor) : List Char × Bool × Cursor :=
  let blanks := c.spanWhile (· == ' ')
  let c := c.skip blanks.length
  match c.lineBreak with
  | ([], _) => (blanks, false, c)
  | (br, next) =>
    if next.atSeparator then ([], true, next)
    else match plainBreaks next (next.text.length + 1) with
      | (none, last) => ([], true, last)
      | (some breaks, last) =>
        if br ≠ ['\n'] then (br ++ breaks, true, last)
        else if breaks.isEmpty then ([' '], true, last)
        else (breaks, true, last)

-- The runs of a plain scalar with the blanks between them. A key may follow if a line ended
-- after the last run.
def plainBody (inFlow : Bool) (indent : Int) (blanks : List Char) (keyAllowed : Bool) (stop : Mark) (c : Cursor) :
    Nat → List Char × Bool × Mark × Cursor
  | 0 => ([], keyAllowed, stop, c)
  | fuel + 1 =>
    let run := if c.peek = '#' then [] else plainRun inFlow c.text
    if run.isEmpty then ([], keyAllowed, stop, c)
    else
      let c := c.skip run.length
      let stop := c.mark
      let (between, broken, c) := plainBlanks c
      if between.isEmpty ∨ c.peek = '#' ∨ (inFlow = false ∧ (c.column : Int) < indent) then
        (blanks ++ run, broken, stop, c)
      else
        let (rest, keyAllowed, stop, c) := plainBody inFlow indent between broken stop c fuel
        (blanks ++ run ++ rest, keyAllowed, stop, c)

/-! ### One token after another -/

def atEndOfStream : Lexing Unit := do
  unwind (-1)
  removeCandidate
  let s ← get
  set { s with
    keyAllowed := false, candidates := [], finished := true,
    held := s.held ++ [Token.mk .streamEnd s.cursor.mark s.cursor.mark] }

def atDirective : Lexing Unit := do
  unwind (-1)
  removeCandidate
  allowKey false
  let (token, c) ← directive (← get).cursor
  setCursor c
  emit token.lexeme token.start token.stop

-- A lexeme of a fixed number of characters.
def take (lexeme : Lexeme) (length : Nat) : Lexing Unit := do
  let c := (← get).cursor
  let after := c.skip length
  setCursor after
  emit lexeme c.mark after.mark

def atDocumentMark (lexeme : Lexeme) : Lexing Unit := do
  unwind (-1)
  removeCandidate
  allowKey false
  take lexeme 3

def atFlowStart (lexeme : Lexeme) : Lexing Unit := do
  saveCandidate
  modify fun s => { s with flowLevel := s.flowLevel + 1, keyAllowed := true }
  take lexeme 1

def atFlowEnd (lexeme : Lexeme) : Lexing Unit := do
  removeCandidate
  modify fun s => { s with flowLevel := s.flowLevel - 1, keyAllowed := false }
  take lexeme 1

def atFlowEntry : Lexing Unit := do
  allowKey true
  removeCandidate
  take .flowEntry 1

-- Opens a block at the current column if it is deeper than the one around it.
def openBlock (lexeme : Lexeme) (refusal : String) : Lexing Unit := do
  let s ← get
  if s.flowLevel = 0 then
    if s.keyAllowed = false then fail none none refusal s.cursor.mark
    else if ← addIndent (s.cursor.column : Int) then emit lexeme s.cursor.mark s.cursor.mark

def atBlockEntry : Lexing Unit := do
  openBlock .blockSequenceStart "sequence entries are not allowed here"
  allowKey true
  removeCandidate
  take .blockEntry 1

def atKey : Lexing Unit := do
  openBlock .blockMappingStart "mapping keys are not allowed here"
  allowKey ((← get).flowLevel == 0)
  removeCandidate
  take .key 1

-- A colon turns the candidate of its level into a key, in front of the tokens held since.
def atValue : Lexing Unit := do
  let s ← get
  match s.candidates.find? (·.flowLevel == s.flowLevel) with
  | some k =>
    set { s with candidates := s.candidates.filter (·.flowLevel != s.flowLevel) }
    let starts ← if s.flowLevel = 0 then addIndent (k.mark.column : Int) else pure false
    let place := k.number - s.handedOut
    let opening := if starts then [Token.mk .blockMappingStart k.mark k.mark] else []
    modify fun s => { s with
      held := s.held.take place ++ opening ++ [Token.mk .key k.mark k.mark] ++ s.held.drop place,
      keyAllowed := false }
  | none =>
    openBlock .blockMappingStart "mapping values are not allowed here"
    allowKey ((← get).flowLevel == 0)
    removeCandidate
  take .value 1

def atName (kind : String) (lexeme : String → Lexeme) : Lexing Unit := do
  saveCandidate
  allowKey false
  let c := (← get).cursor
  let (name, after) ← anchorName kind c
  setCursor after
  emit (lexeme name) c.mark after.mark

def atTag : Lexing Unit := do
  saveCandidate
  allowKey false
  let c := (← get).cursor
  let (spelling, after) ← tagSpelling c
  setCursor after
  emit (.tag spelling) c.mark after.mark

def atBlockScalar (folded : Bool) : Lexing Unit := do
  allowKey true
  removeCandidate
  let s ← get
  let (token, after) ← blockScalar folded s.indent s.cursor
  setCursor after
  emit token.lexeme token.start token.stop

def atQuoted (double : Bool) : Lexing Unit := do
  saveCandidate
  allowKey false
  let (token, after) ← quotedScalar double (← get).cursor
  setCursor after
  emit token.lexeme token.start token.stop

def atPlain : Lexing Unit := do
  saveCandidate
  let s ← get
  let c := s.cursor
  let (text, keyAllowed, stop, after) :=
    plainBody (s.flowLevel != 0) (s.indent + 1) [] false c.mark c (c.text.length + 1)
  set { s with cursor := after, keyAllowed := keyAllowed }
  emit (.scalar (String.ofList text) true) c.mark stop

def startsPlain (inFlow : Bool) (c : Cursor) : Bool :=
  let ch := c.peek
  !(isBlankBreakOrEnd ch || "-?:,[]#&*!|>'\"%@\x7b\x7d".toList.contains ch || ch.toNat == 0x60) ||
    (!isBlankBreakOrEnd (c.peekAt 1) && (ch == '-' || (!inFlow && (ch == '?' || ch == ':'))))

-- Reads the next token, with the block marks that come before it.
def fetch : Lexing Unit := do
  skipGap
  dropStale
  unwind ((← get).cursor.column : Int)
  let s ← get
  let c := s.cursor
  let ch := c.peek
  let inFlow := s.flowLevel != 0
  let aloneOrFlow := inFlow || isBlankBreakOrEnd (c.peekAt 1)
  if c.text.isEmpty then atEndOfStream
  else if ch = '%' ∧ c.column = 0 then atDirective
  else if ch = '-' ∧ c.column = 0 ∧ c.atSeparator then atDocumentMark .documentStart
  else if ch = '.' ∧ c.column = 0 ∧ c.atSeparator then atDocumentMark .documentEnd
  else if ch = '[' then atFlowStart .flowSequenceStart
  else if ch = '\x7b' then atFlowStart .flowMappingStart
  else if ch = ']' then atFlowEnd .flowSequenceEnd
  else if ch = '\x7d' then atFlowEnd .flowMappingEnd
  else if ch = ',' then atFlowEntry
  else if ch = '-' ∧ isBlankBreakOrEnd (c.peekAt 1) then atBlockEntry
  else if ch = '?' ∧ aloneOrFlow then atKey
  else if ch = ':' ∧ aloneOrFlow then atValue
  else if ch = '*' then atName "alias" .alias
  else if ch = '&' then atName "anchor" .anchor
  else if ch = '!' then atTag
  else if ch = '|' ∧ inFlow = false then atBlockScalar false
  else if ch = '>' ∧ inFlow = false then atBlockScalar true
  else if ch = '\'' then atQuoted false
  else if ch = '"' then atQuoted true
  else if startsPlain inFlow c then atPlain
  else
    fail (some "while scanning for the next token") none
      ("found character " ++ Text.quoted (String.singleton ch) ++ " that cannot start any token") c.mark

-- Whether the first held token may still have to be preceded by a key mark.
def isOpen (s : Lexer) : Bool :=
  s.candidates.any (·.number == s.handedOut)

-- Hands out tokens one by one and reads on where none can be handed out.
def run (s : Lexer) : Nat → List Token × Option Flaw
  | 0 => ([], none)
  | fuel + 1 =>
    let handOut (s : Lexer) : List Token × Option Flaw :=
      match s.held with
      | [] => ([], none)
      | token :: rest =>
        let (tokens, flaw) := run { s with held := rest, handedOut := s.handedOut + 1 } fuel
        (token :: tokens, flaw)
    let readOn (s : Lexer) : List Token × Option Flaw :=
      match fetch.run s with
      | .ok (_, s) => run s fuel
      | .error flaw => ([], some flaw)
    if s.finished then handOut s
    else if s.held.isEmpty then readOn s
    else match dropStale.run s with
      | .error flaw => ([], some flaw)
      | .ok (_, s) => if isOpen s then readOn s else handOut s

end Lexer

-- The tokens of a text, up to a flaw if there is one.
def tokens (text : List Char) : List Token × Option Flaw :=
  (Lexer.start text).run (8 * text.length + 16)

end TemplateSchema.Yaml
