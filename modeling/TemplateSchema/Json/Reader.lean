import TemplateSchema.Json.Fault
import TemplateSchema.Number.Numeral
import TemplateSchema.Value.Mapping
/-!
Reading JSON. Beside the standard's values the reader takes `NaN`, `Infinity` and `-Infinity`. A
name that occurs twice in an object keeps its first place and its last value. Each reader returns
the text that it left, with a proof that it is shorter, and a fault tells how much was left.
-/
set_option autoImplicit false
namespace TemplateSchema.Json

-- A reader's failure: the reason with the length of the text from the place it shows at.
inductive Halt where
  | at_ (reason : Reason) (left : Nat)
  | digits (count : Nat)

abbrev Shorter (cs : List Char) := { rest : List Char // rest.length < cs.length }

def isBlank (c : Char) : Bool :=
  c == ' ' || c == '\t' || c == '\n' || c == '\r'

theorem length_dropWhile_le (p : Char → Bool) (cs : List Char) : (cs.dropWhile p).length ≤ cs.length := by
  induction cs with
  | nil => simp
  | cons c cs ih => rw [List.dropWhile_cons]; split <;> simp_all; omega

def skipBlanks (cs : List Char) : { rest : List Char // rest.length ≤ cs.length } :=
  ⟨cs.dropWhile isBlank, length_dropWhile_le _ _⟩

def codeUnit? (a b c d : Char) : Option Nat := do
  some (Text.natOfDigits 16 [← Text.hexDigit? a, ← Text.hexDigit? b, ← Text.hexDigit? c, ← Text.hexDigit? d])

def simpleEscape? : Char → Option Char
  | '"' => some '"'
  | '\\' => some '\\'
  | '/' => some '/'
  | 'b' => some '\x08'
  | 'f' => some '\x0c'
  | 'n' => some '\n'
  | 'r' => some '\r'
  | 't' => some '\t'
  | _ => none

def isHighSurrogate (n : Nat) : Bool := 0xD800 ≤ n && n ≤ 0xDBFF
def isLowSurrogate (n : Nat) : Bool := 0xDC00 ≤ n && n ≤ 0xDFFF

def charOfPair (high low : Nat) : Char :=
  Char.ofNat (0x10000 + (high - 0xD800) * 0x400 + (low - 0xDC00))

-- The code points of a string up to its closing quote; `opening` is the length of the text from
-- the opening quote. An escape of four digits needs one more character behind it.
def stringBody (opening : Nat) : List Char → Except Halt (List Point × List Char)
  | [] => .error (.at_ .unterminated opening)
  | '"' :: rest => .ok ([], rest)
  | '\\' :: 'u' :: a :: b :: c :: d :: '\\' :: 'u' :: e :: f :: g :: h :: i :: rest =>
    match codeUnit? a b c d with
    | none => .error (.at_ .unicodeEscape (rest.length + 12))
    | some first =>
      if isHighSurrogate first then
        match codeUnit? e f g h with
        | none => .error (.at_ .unicodeEscape (rest.length + 6))
        | some second =>
          if isLowSurrogate second then do
            let (ps, tail) ← stringBody opening (i :: rest)
            .ok (.char (charOfPair first second) :: ps, tail)
          else do
            let (ps, tail) ← stringBody opening ('\\' :: 'u' :: e :: f :: g :: h :: i :: rest)
            .ok (.ofCode first :: ps, tail)
      else do
        let (ps, tail) ← stringBody opening ('\\' :: 'u' :: e :: f :: g :: h :: i :: rest)
        .ok (.ofCode first :: ps, tail)
  | '\\' :: 'u' :: a :: b :: c :: d :: e :: rest =>
    match codeUnit? a b c d with
    | none => .error (.at_ .unicodeEscape (rest.length + 6))
    | some unit => do
      let (ps, tail) ← stringBody opening (e :: rest)
      .ok (.ofCode unit :: ps, tail)
  | '\\' :: 'u' :: rest => .error (.at_ .unicodeEscape (rest.length + 1))
  | ['\\'] => .error (.at_ .unterminated opening)
  | '\\' :: c :: rest =>
    match simpleEscape? c with
    | none => .error (.at_ .escape (rest.length + 2))
    | some e => do
      let (ps, tail) ← stringBody opening rest
      .ok (.char e :: ps, tail)
  | c :: rest =>
    if c.toNat < 0x20 then .error (.at_ .controlCharacter (rest.length + 1))
    else do
      let (ps, tail) ← stringBody opening rest
      .ok (.char c :: ps, tail)

-- A string whose opening quote has been read.
def string (opening : Nat) (cs : List Char) : Except Halt (Text × Shorter ('"' :: cs)) :=
  match stringBody opening cs with
  | .error e => .error e
  | .ok (content, rest) =>
    if h : rest.length < cs.length + 1 then .ok (Text.ofPoints content, ⟨rest, h⟩)
    else .error (.at_ .unterminated opening)

-- The characters of a number, and whether it has a fraction or an exponent.
def numberSpan (cs : List Char) : List Char × Bool :=
  let (sign, rest) := match cs with
    | '-' :: tail => (['-'], tail)
    | _ => ([], cs)
  let whole := match rest with
    | '0' :: _ => ['0']
    | _ => rest.takeWhile Char.isDigit
  let rest := rest.drop whole.length
  let fraction := match rest with
    | '.' :: tail =>
      let ds := tail.takeWhile Char.isDigit
      if ds.isEmpty then [] else '.' :: ds
    | _ => []
  let rest := rest.drop fraction.length
  let exponent := match rest with
    | e :: tail =>
      if e = 'e' ∨ e = 'E' then
        let mark := match tail with
          | '+' :: _ => ['+']
          | '-' :: _ => ['-']
          | _ => []
        let ds := (tail.drop mark.length).takeWhile Char.isDigit
        if ds.isEmpty then [] else e :: mark ++ ds
      else []
    | [] => []
  if whole.isEmpty then ([], false)
  else (sign ++ whole ++ fraction ++ exponent, !fraction.isEmpty || !exponent.isEmpty)

def numberOf (span : List Char) (isFraction : Bool) : Except Halt Value :=
  if isFraction then
    match Numeral.scaled? Text.asciiDigit? span with
    | some s => .ok (.float s.toBinary64)
    | none => .error (.at_ .value 0)
  else if Numeral.digitLimit < Numeral.digitCount span then .error (.digits (Numeral.digitCount span))
  else match Numeral.integerIn? Text.asciiDigit? 10 span with
    | some n => .ok (.int n)
    | none => .error (.at_ .value 0)

-- A literal name or a number.
def scalar (cs : List Char) : Except Halt (Value × Shorter cs) :=
  let names : List (String × Value) :=
    [("null", .null), ("true", .bool true), ("false", .bool false), ("NaN", .float .nan),
      ("Infinity", .float (.infinite false)), ("-Infinity", .float (.infinite true))]
  match names.find? fun entry => entry.1.toList.isPrefixOf cs with
  | some (name, value) =>
    if h : (cs.drop name.length).length < cs.length then .ok (value, ⟨cs.drop name.length, h⟩)
    else .error (.at_ .value cs.length)
  | none =>
    let (span, isFraction) := numberSpan cs
    if h : (cs.drop span.length).length < cs.length then do
      let value ← numberOf span isFraction
      .ok (value, ⟨cs.drop span.length, h⟩)
    else .error (.at_ .value cs.length)

-- The text behind a mark, blanks before the mark left out.
def accept? (mark : Char) (cs : List Char) : Option (Shorter cs) :=
  match h : cs.dropWhile isBlank with
  | [] => none
  | c :: rest =>
    if c = mark then
      some ⟨rest, by have := length_dropWhile_le isBlank cs; rw [h] at this; simp at this; omega⟩
    else none

mutual

def value (cs : List Char) : Except Halt (Value × Shorter cs) :=
  match cs with
  | [] => .error (.at_ .value 0)
  | c :: rest =>
    if c = '"' then do
      let (s, tail) ← string (rest.length + 1) rest
      .ok (.text s, ⟨tail.val, by have := tail.property; simpa using this⟩)
    else if c = '[' then
      match accept? ']' rest with
      | some tail => .ok (.list [], ⟨tail.val, by have := tail.property; simp; omega⟩)
      | none => do
        have := (skipBlanks rest).property
        let (found, tail) ← items (skipBlanks rest).val
        .ok (.list found, ⟨tail.val, by have := tail.property; simp; omega⟩)
    else if c = '\x7b' then
      match accept? '\x7d' rest with
      | some tail => .ok (.map [], ⟨tail.val, by have := tail.property; simp; omega⟩)
      | none => do
        have := (skipBlanks rest).property
        let (found, tail) ← members (skipBlanks rest).val
        .ok (.map (Entries.ofList found), ⟨tail.val, by have := tail.property; simp; omega⟩)
    else scalar (c :: rest)
termination_by (cs.length, 0)
decreasing_by all_goals simp_wf; omega

-- The items of an array, at least one, with the closing bracket.
def items (cs : List Char) : Except Halt (List Value × Shorter cs) := do
  let (first, rest) ← value cs
  have hrest := rest.property
  match accept? ']' rest.val with
  | some tail => .ok ([first], ⟨tail.val, by have := tail.property; omega⟩)
  | none =>
    match accept? ',' rest.val with
    | some tail => do
      have htail := tail.property
      have := (skipBlanks tail.val).property
      let (others, last) ← items (skipBlanks tail.val).val
      .ok (first :: others, ⟨last.val, by have := last.property; omega⟩)
    | none => .error (.at_ .comma (skipBlanks rest.val).val.length)
termination_by (cs.length, 1)
decreasing_by all_goals omega

-- The members of an object, at least one, with the closing brace.
def members (cs : List Char) : Except Halt (List (Value × Value) × Shorter cs) :=
  match cs with
  | [] => .error (.at_ .propertyName 0)
  | c :: body =>
    if c = '"' then do
      let (name, afterName) ← string (body.length + 1) body
      have hname := afterName.property
      match accept? ':' afterName.val with
      | none => .error (.at_ .colon (skipBlanks afterName.val).val.length)
      | some afterColon => do
        have hcolon := afterColon.property
        have hstart := (skipBlanks afterColon.val).property
        have : (skipBlanks afterColon.val).val.length < body.length + 1 := by simp at hname; omega
        let (item, rest) ← value (skipBlanks afterColon.val).val
        have hrest := rest.property
        match accept? '\x7d' rest.val with
        | some tail => .ok ([(.text name, item)], ⟨tail.val, by have := tail.property; simp; omega⟩)
        | none =>
          match accept? ',' rest.val with
          | some tail => do
            have htail := tail.property
            have := (skipBlanks tail.val).property
            let (others, last) ← members (skipBlanks tail.val).val
            .ok ((.text name, item) :: others, ⟨last.val, by have := last.property; simp; omega⟩)
          | none => .error (.at_ .comma (skipBlanks rest.val).val.length)
    else .error (.at_ .propertyName (body.length + 1))
termination_by (cs.length, 0)
decreasing_by all_goals simp_wf; simp at *; omega

end

-- Places a failure in the whole text.
def Halt.fault (text : List Char) : Halt → Fault
  | .digits count => .digits count
  | .at_ reason left =>
    let before := text.take (text.length - left)
    let column := (before.reverse.takeWhile (· != '\n')).length + 1
    .malformed reason before.length (before.count '\n' + 1) column

def document (cs : List Char) : Except Halt Value :=
  if cs.head? = some '\uFEFF' then .error (.at_ .byteOrderMark cs.length)
  else do
    let (v, ⟨rest, _⟩) ← value (skipBlanks cs).val
    match skipBlanks rest with
    | ⟨[], _⟩ => .ok v
    | ⟨other, _⟩ => .error (.at_ .extraData other.length)

def read (text : String) : Except Fault Value :=
  (document text.toList).mapError (Halt.fault text.toList)

end TemplateSchema.Json
