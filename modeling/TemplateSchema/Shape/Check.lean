import TemplateSchema.Format.Email
import TemplateSchema.Format.Url
import TemplateSchema.Format.Uuid
import TemplateSchema.Shape.Basic
import TemplateSchema.Shape.Flaw
import TemplateSchema.Shape.Parsed
import TemplateSchema.Text.Utf8
/-!
Checking a value against a shape. Every problem is listed in the order in which the value is gone
through, but at one place only the first flaw counts. Nothing is read into text: a number has to be
a number and a moment a moment.
-/
set_option autoImplicit false
namespace TemplateSchema

-- How text is matched against a format, given what counts as a URL and what as a UUID.
def Format.matching (url uuid : Text → Bool) (f : Format) (s : Text) : Bool :=
  match f with
  | .email => Email.isValid s
  | .url => url s
  | .uuid => uuid s

-- A URL and a UUID consist of characters.
def Format.isMatch (f : Format) (s : Text) : Bool :=
  f.matching (·.whole?.any Url.isValid) (·.whole?.any Uuid.isValid) s

namespace Shape

abbrev Checked (α : Type) := Except (List (Problem Flaw)) α

def flaw {α : Type} (f : Flaw) : Checked α :=
  .error [⟨[], f⟩]

def under {α : Type} (segment : Segment) (x : Checked α) : Checked α :=
  x.mapError fun ps => ps.map (Problem.at_ segment)

-- Two checks side by side.
def both {α β : Type} (x : Checked α) (y : Checked β) : Checked (α × β) :=
  match x, y with
  | .ok a, .ok b => .ok (a, b)
  | .ok _, .error ps => .error ps
  | .error ps, .ok _ => .error ps
  | .error ps, .error qs => .error (ps ++ qs)

-- The first flaw of those that apply.
def firstFlaw (flaws : List (Bool × Flaw)) : Option Flaw :=
  (flaws.find? Prod.fst).map Prod.snd

def unlessFlawed {α : Type} (flaws : List (Bool × Flaw)) (a : α) : Checked α :=
  match firstFlaw flaws with
  | some f => flaw f
  | none => .ok a

def flawIf {β : Type} (bound : Option β) (fails : β → Bool) (f : β → Flaw) : List (Bool × Flaw) :=
  bound.toList.map fun b => (fails b, f b)

-- Text whose length is asked for has to consist of characters.
def checkText (isMatch : Format → Text → Bool) (minLength maxLength : Option Nat) (format : Option Format) :
    Value → Checked Parsed
  | .text s =>
    unlessFlawed (((minLength.isSome || maxLength.isSome) && !s.isWhole, .encoding) ::
      flawIf minLength (s.length < ·) .shortText ++ flawIf maxLength (· < s.length) .longText ++
      flawIf format (fun f => !isMatch f s) .format) (.value (.text s))
  | _ => flaw .text

-- The number that a value is, as a floating-point one.
def float? : Value → Option Binary64
  | .int n => Binary64.ofInt? n
  | .float x => some x
  | _ => none

def checkNumber (min max : Option Binary64) (isPositive isNumber isInteger : Bool) (v : Value) :
    Checked Parsed :=
  match float? v with
  | none => flaw .number
  | some x =>
    unlessFlawed (flawIf max (fun b => !x.le b) .above ++ flawIf min (fun b => !b.le x) .below ++
      [(isPositive && !(Binary64.zero false).lt x, .notPositive), (isNumber && x.isNaN, .notANumber),
        (isInteger && !x.isIntegral, .fraction)]) (.value (.float x))

def checkMoment (min max : Option Moment) : Value → Checked Parsed
  | .moment m =>
    unlessFlawed (flawIf min (fun b => m.instant < b.instant) .early ++
      flawIf max (fun b => b.instant < m.instant) .late) (.value (.moment m))
  | _ => flaw .moment

def isTruth : Value → Bool
  | .bool _ => true
  | _ => false

-- Integers, text and truth values are looked up as such before they are compared with the rest.
def isPlain : Value → Bool
  | .bool _ => true
  | .int _ => true
  | .text _ => true
  | _ => false

def isSameKind (a b : Value) : Bool :=
  a.kindName == b.kindName

-- The option that a value stands for.
def option? (options : List Value) (v : Value) : Option Value :=
  let equal := options.filter fun o => Value.same o v
  (if isPlain v then equal.find? (isSameKind v) else none).or <|
    (equal.find? (!isPlain ·)).or equal.getLast?

-- A value is looked up among text by its characters.
def checkChoice (options : List Value) (v : Value) : Checked Parsed :=
  if v.isTorn && options.any Value.isText then flaw .encoding
  else match option? options v with
    | some o => .ok (.value o)
    | none => flaw (.option options)

-- A list that is too long is not looked into; one that is too short has sound items.
def checkList (minItems maxItems : Option Nat) (items : List Value) (checked : Checked (List Parsed)) :
    Checked Parsed :=
  match firstFlaw (flawIf maxItems (· < items.length) (.longList · items.length)) with
  | some f => flaw f
  | none => do
    let parsed ← checked
    unlessFlawed (flawIf minItems (items.length < ·) (.shortList · items.length)) (.list parsed)

def checkItems (check : Value → Checked Parsed) (position : Nat) : List Value → Checked (List Parsed)
  | [] => .ok []
  | v :: rest =>
    (both (under (.index position) (check v)) (checkItems check (position + 1) rest)).map fun (p, ps) => p :: ps

-- A key has to be text, or bytes that spell out the text it is known by from then on; what stands
-- under another one is checked all the same.
def checkKey (key : Value) : Checked Value :=
  match key with
  | .text _ => .ok key
  | .bytes bs => match Utf8.decode bs with
    | .ok s => .ok (.text s)
    | .error _ => under (.name "[key]") (flaw .encoding)
  | _ => under (.name "[key]") (flaw .text)

def checkEntries (check : Value → Checked Parsed) : Entries → Checked (List (Value × Parsed))
  | [] => .ok []
  | (key, v) :: rest =>
    (both (under (Segment.ofKey key) (both (checkKey key) (check v))) (checkEntries check rest)).map
      fun ((known, p), ps) => (known, p) :: ps

-- Two keys may spell out one text; the later one counts.
def recordOf (rows : List (Value × Parsed)) : Parsed :=
  .record (Entries.ofList rows)

mutual

-- Checks a value, with a judge of what text is in a format.
def checkWith (isMatch : Format → Text → Bool) : Shape → Value → Checked Parsed
  | .text minLength maxLength format, v => checkText isMatch minLength maxLength format v
  | .number min max isPositive isNumber isInteger, v => checkNumber min max isPositive isNumber isInteger v
  | .truth, v => if isTruth v then .ok (.value v) else flaw .truth
  | .moment min max, v => checkMoment min max v
  | .choice options, v => checkChoice options v
  | .list minItems maxItems item, v => match v with
    | .list items => checkList minItems maxItems items (checkItems (fun x => checkWith isMatch item x) 0 items)
    | _ => flaw .list
  | .record inner, v => match v with
    | .map entries => (checkEntries (fun x => checkWith isMatch inner x) entries).map recordOf
    | _ => flaw .record
  | .model name members, v => match v with
    | .map entries => (checkMembers isMatch entries members).map Parsed.model
    | _ => flaw (.model name)
  | .orNull inner, v => match v with
    | .null => .ok (.value .null)
    | _ => checkWith isMatch inner v
  | .orBlank inner, v => match v with
    | .null => .ok (.value .null)
    | .text s => if s.isEmpty then .ok (.value .null) else checkWith isMatch inner v
    | _ => checkWith isMatch inner v

def checkMembers (isMatch : Format → Text → Bool) (entries : Entries) :
    List (Slot × Shape) → Checked (List (String × Parsed))
  | [] => .ok []
  | (slot, shape) :: rest =>
    let found := match Entries.field? entries slot.key with
      | some v => checkWith isMatch shape v
      | none => match slot.default? with
        | some d => .ok (.value d)
        | none => flaw .missing
    (both (under (.name slot.key) found) (checkMembers isMatch entries rest)).map
      fun (p, ps) => (slot.key, p) :: ps

end

def check (s : Shape) (v : Value) : Checked Parsed :=
  checkWith Format.isMatch s v

-- The lines that tell what is wrong with a value; none for a sound one.
def lines (problems : List (Problem Flaw)) : List String :=
  problems.map (Problem.line Flaw.message)

def report (isMatch : Format → Text → Bool) (s : Shape) (v : Value) : List String :=
  match checkWith isMatch s v with
  | .ok _ => []
  | .error problems => lines problems

end Shape

end TemplateSchema
