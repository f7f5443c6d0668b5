import TemplateSchema.Schema.Declaration
import TemplateSchema.Shape.Basic
import TemplateSchema.Text.Uppercase
import TemplateSchema.Value.Instant
import TemplateSchema.Value.Mapping
import TemplateSchema.Value.Members
/-!
From declarations to shapes. A constraint that nothing can be compared with makes a shape unusable,
which comes to light when the model around it is built: behind everything else that is wrong with
its members.
-/
set_option autoImplicit false
namespace TemplateSchema.Shape

open Declaration (given? dateBound)

-- A shape, unless one of its constraints is unusable.
abbrev Draft := Option Shape

-- A truth value counts as the number that it stands for.
def length? (v : Value) : Option Nat :=
  match v.count? with
  | some n => if 0 ≤ n ∧ n < 18446744073709551616 then some n.toNat else none
  | none => none

def bound? (v : Value) : Option Binary64 :=
  match v with
  | .float x => some x
  | v => v.count?.bind Binary64.ofInt?

-- A constraint that may be absent, read by `read?`; the outer `none` is an unusable one.
def constraint? {α : Type} (keys : Entries) (key : String) (read? : Value → Option α) : Option (Option α) :=
  match given? keys key with
  | none => some none
  | some v => (read? v).map some

def format (keys : Entries) : Except Failure (Option Format) :=
  match Entries.field keys "format" with
  | .text s => .ok (Format.ofText? s)
  | v => if v.isHashable then .ok none else .error .unsupported

def textDraft (keys : Entries) : Traced Draft := do
  let format ← Traced.ofExcept (format keys)
  pure (do
    let minLength ← constraint? keys "minLength" length?
    let maxLength ← constraint? keys "maxLength" length?
    some (.text minLength maxLength format))

def anyText : Shape :=
  .text none none none

def numberDraft (keys : Entries) : Draft := do
  let min ← constraint? keys "min" bound?
  let max ← constraint? keys "max" bound?
  some (.number min max (Entries.field keys "positive").isTruthy true (Entries.field keys "integer").isTruthy)

def momentShape (keys : Entries) : Except Failure Shape := do
  let min ← dateBound keys "min"
  let max ← dateBound keys "max"
  .ok (.moment min max)

def isSameOption (a b : Value) : Bool :=
  Value.same a b && a.kindName == b.kindName

-- Options are told apart by kind as well as by value.
def distinctOptions (options : List Value) : List Value :=
  if options.all Value.isHashable then
    options.foldl (fun seen v => if seen.any (isSameOption · v) then seen else seen ++ [v]) []
  else options

-- Without options, any text will do; text with half of a pair in it can be none of them.
def choiceDraft (keys : Entries) : Except Failure Draft :=
  match (Entries.field keys "options").membersOrNone? with
  | none => .error .unsupported
  | some [] => .ok (some anyText)
  | some options =>
    .ok (if options.any Value.isTorn then none else some (.choice (distinctOptions options)))

def listDraft (keys : Entries) (item : Draft) : Draft := do
  let item ← item
  let minItems ← constraint? keys "minItems" length?
  let maxItems ← constraint? keys "maxItems" length?
  some (.list minItems maxItems item)

def capitalizedFront (name : String) : String :=
  Text.uppercase (String.ofList (name.toList.take 1)) ++ String.ofList (name.toList.drop 1)

def capitalized : Text → Text
  | .whole s => .whole (capitalizedFront s)
  | .torn front h back => .torn (capitalizedFront front) h back

def upperByte (b : UInt8) : UInt8 :=
  if 97 ≤ b.toNat ∧ b.toNat ≤ 122 then b - 32 else b

-- The name of the model for an object field.
def modelName (name : Value) : Except Failure Text :=
  match name with
  | .text s => .ok (capitalized s ++ "Object")
  | .bytes bs => .ok (Text.quotedBytes ((bs.take 1).map upperByte) ++ Text.quotedBytes (bs.drop 1) ++ "Object")
  | .list _ | .tuple _ => .error .notMapping
  | _ => .error .unsupported

-- The key of the member at a position; a null key stands for a made-up one.
def slotKey? (position : Nat) (name : Value) : Option String :=
  match name with
  | .text s => s.whole?
  | .null => some ("field_" ++ Text.decimal position)
  | _ => none

def slot? (position : Nat) (name : Value) (d : Declaration) : Option Slot := do
  let key ← slotKey? position name
  some ⟨key, match d.default? with
    | some v => some v
    | none => if d.isOptional then some .null else none⟩

-- A number that has to be whole needs no second check.
def withoutNumberCheck : Shape → Shape
  | .number min max isPositive isNumber isInteger => .number min max isPositive (isNumber && !isInteger) isInteger
  | s => s

-- A member's shape: blank values are nothing where it is optional.
def ofMember (isOptional : Bool) (s : Shape) : Shape :=
  if isOptional then .orBlank s else withoutNumberCheck s

-- The shape of what stands inside a list or a record.
def ofInner (isOptional : Bool) (s : Shape) : Shape :=
  if isOptional then .orNull s else s

def allUsable : List (Option Slot × Draft) → Option (List (Slot × Shape))
  | [] => some []
  | (slot, draft) :: rest => do
    let slot ← slot
    let shape ← draft
    let members ← allUsable rest
    some ((slot, shape) :: members)

-- Builds a model from its members; its name has to be text that can be encoded.
def build (name : Text) (members : List (Option Slot × Draft)) : Traced Shape :=
  match name with
  | .torn .. => Traced.failed .unencodable
  | .whole name =>
    if name.toList.contains '\x00' then Traced.failed .nullCharacter
    else match allUsable members with
      | some members => pure (.model name members)
      | none => Traced.failed .unusableConstraint

mutual

-- The shape that a declaration asks for, apart from whether a value may be absent.
def draft (name : Value) : Declaration → Traced Draft
  | .broken gap => Traced.failed gap.failure
  | .string keys => textDraft keys
  | .number keys => pure (numberDraft keys)
  | .boolean _ => pure (some .truth)
  | .date keys => do
    let shape ← Traced.ofExcept (momentShape keys)
    pure (some shape)
  | .array keys item => do
    let inner ← draft (Declaration.itemName name) item
    pure (listDraft keys (inner.map (ofInner item.isOptional)))
  | .object _ properties => do
    let modelName ← Traced.ofExcept (modelName name)
    let members ← drafts 0 properties
    let shape ← build modelName members
    pure (some shape)
  | .enum keys => do
    Traced.ofExcept (choiceDraft keys)
  | .record _ value => do
    let inner ← draft (Declaration.valueName name) value
    pure ((inner.map (ofInner value.isOptional)).map Shape.record)
  | .unknown keys => do
    Traced.record .debug .compilation ("Field " ++ name.display ++ " has unknown type " ++
      (Entries.field keys Declaration.typeKey).display ++ "; compiling it as a string")
    pure (some anyText)

def drafts (position : Nat) : List (Value × Declaration) → Traced (List (Option Slot × Draft))
  | [] => pure []
  | (name, d) :: rest => do
    let inner ← draft name d
    let others ← drafts (position + 1) rest
    pure ((slot? position name d, inner.map (ofMember d.isOptional)) :: others)

end

-- The shape of one field's values.
def ofDeclaration (name : Value) (d : Declaration) : Traced Shape := do
  match ← draft name d with
  | some shape => pure shape
  | none => Traced.failed .unusableConstraint

-- The model of a schema's documents.
def ofSchema (schema : Value) (name : Value) : Traced Shape := do
  let declared ← Traced.ofExcept (declarations schema)
  let members ← drafts 0 declared
  match name with
  | .text s => build s members
  | _ => Traced.failed .unsupported

end TemplateSchema.Shape
