import TemplateSchema.Failure
import TemplateSchema.Number.Numeral
import TemplateSchema.Schema.Field
import TemplateSchema.Value.Mapping
/-!
Judging the values of a document for display beside its fields: at most one complaint for each
field, about the first place that does not conform and the first check that fails there. Null and
empty text count as absent where a value may be absent; a value that is missing elsewhere counts as
null, which is of no kind.
-/
set_option autoImplicit false
namespace TemplateSchema.Document

-- The checks that a value can fail.
inductive Rule where
  | text
  | minLength (n : Int)
  | maxLength (n : Int)
  | email
  | number
  | integral
  | positive
  | atLeast (bound : Quantity)
  | atMost (bound : Quantity)
  | truth
  | moment
  | list
  | minItems (n : Int)
  | maxItems (n : Int)
  | mapping
  | oneOf (options : List Text)
  deriving DecidableEq

def Rule.message : Rule → Text
  | .text => "Must be a string"
  | .minLength n => "Must be at least " ++ Text.signedDecimal n ++ " characters"
  | .maxLength n => "Must be at most " ++ Text.signedDecimal n ++ " characters"
  | .email => "Must be a valid email address"
  | .number => "Must be a number"
  | .integral => "Must be an integer"
  | .positive => "Must be positive"
  | .atLeast bound => "Must be at least " ++ bound.label
  | .atMost bound => "Must be at most " ++ bound.label
  | .truth => "Must be a boolean"
  | .moment => "Must be a valid date"
  | .list => "Must be an array"
  | .minItems n => "Must have at least " ++ Text.signedDecimal n ++ " items"
  | .maxItems n => "Must have at most " ++ Text.signedDecimal n ++ " items"
  | .mapping => "Must be an object"
  | .oneOf options => "Must be one of: " ++ Text.intercalate ", " options

-- Whether the integers of a message are not too long to be written.
def Rule.isShort : Rule → Bool
  | .minLength n | .maxLength n | .minItems n | .maxItems n => Numeral.isShort n
  | .atLeast (.int n) | .atMost (.int n) => Numeral.isShort n
  | _ => true

-- A step from a value into it. Items count from one.
inductive Step where
  | property (name : Text)
  | key (key : Value)
  | item (position : Nat)

def Step.label : Step → Text
  | .property s => s
  | .key k => k.label
  | .item n => "Item " ++ Text.decimal n

mutual

-- A key is a scalar or a tuple of keys.
def isShortKey : Value → Bool
  | .int n => Numeral.isShort n
  | .tuple items => areShortKeys items
  | _ => true

def areShortKeys : List Value → Bool
  | [] => true
  | v :: rest => isShortKey v && areShortKeys rest

end

def Step.isShort : Step → Bool
  | .key k => isShortKey k
  | _ => true

-- The place of the first value that does not conform, and the check that it fails.
structure Complaint where
  steps : List Step
  rule : Rule

def prefixed (label message : Text) : Text :=
  label ++ ": " ++ message

namespace Complaint

def of (rule : Rule) : Complaint :=
  ⟨[], rule⟩

def inside (step : Step) (c : Complaint) : Complaint :=
  { c with steps := step :: c.steps }

def message (c : Complaint) : Text :=
  c.steps.foldr (fun step text => prefixed step.label text) c.rule.message

def isShort (c : Complaint) : Bool :=
  c.rule.isShort && c.steps.all Step.isShort

-- A complaint to be shown, which takes the integers in it to be written.
def written (c : Complaint) : Except Failure Complaint :=
  if c.isShort then .ok c else .error (.digits 0)

end Complaint

-- Nothing, as far as optional fields are concerned.
def isEmpty : Value → Bool
  | .null => true
  | .text s => s.isEmpty
  | _ => false

def reject (rule : Rule) (failed : Bool) : Option Complaint :=
  if failed then some (Complaint.of rule) else none

def rejectBelow (rule : Int → Rule) (size : Nat) (bound : Option Int) : Option Complaint :=
  bound.bind fun n => reject (rule n) ((size : Int) < n)

def rejectAbove (rule : Int → Rule) (size : Nat) (bound : Option Int) : Option Complaint :=
  bound.bind fun n => reject (rule n) (n < (size : Int))

def judgeText (minLength maxLength : Option Int) (format : Option Format) : Value → Option Complaint
  | .text s =>
    (rejectBelow .minLength s.length minLength).or <|
    (rejectAbove .maxLength s.length maxLength).or <|
    reject .email (format == some .email && !s.holds '@')
  | _ => some (Complaint.of .text)

def judgeNumber (min max : Option Quantity) (isInteger isPositive : Option Bool) (v : Value) :
    Option Complaint :=
  match Quantity.ofValue? v with
  | none => some (Complaint.of .number)
  | some q =>
    (reject .integral (isInteger.getD false && !q.isIntegral)).or <|
    (reject .positive (isPositive.getD false && !q.isPositive)).or <|
    (min.bind fun bound => reject (.atLeast bound) (q.lt bound)).or <|
    max.bind fun bound => reject (.atMost bound) (bound.lt q)

def judgeTruth : Value → Option Complaint
  | .bool _ => none
  | _ => some (Complaint.of .truth)

def judgeMoment : Value → Option Complaint
  | .moment _ => none
  | _ => some (Complaint.of .moment)

def judgeOption (options : List Text) : Value → Option Complaint
  | .text s => reject (.oneOf options) (!options.contains s)
  | _ => some (Complaint.of (.oneOf options))

-- The first complaint about the items of a list, the first item being at `position`.
def firstItem (judge : Value → Option Complaint) (position : Nat) : List Value → Option Complaint
  | [] => none
  | v :: rest =>
    ((judge v).map (Complaint.inside (.item position))).or (firstItem judge (position + 1) rest)

def firstEntry (judge : Value → Option Complaint) : Entries → Option Complaint
  | [] => none
  | (key, v) :: rest => ((judge v).map (Complaint.inside (.key key))).or (firstEntry judge rest)

-- A field's value is not looked at where the field is optional and the value is empty.
def unlessEmpty (f : Field) (v : Value) (complaint : Option Complaint) : Option Complaint :=
  if f.isOptional && isEmpty v then none else complaint

mutual

-- The first complaint about a value as that of a field.
def judge : Field → Value → Option Complaint
  | .string _ minLength maxLength format, v => judgeText minLength maxLength format v
  | .number _ min max isInteger isPositive, v => judgeNumber min max isInteger isPositive v
  | .boolean _, v => judgeTruth v
  | .date .., v => judgeMoment v
  | .enum _ options, v => judgeOption options v
  | .array _ minItems maxItems item, v => match v with
    | .list items =>
      (rejectBelow .minItems items.length minItems).or <|
      (rejectAbove .maxItems items.length maxItems).or <|
      firstItem (fun x => judge item x) 1 items
    | _ => some (Complaint.of .list)
  | .object _ properties, v => match v with
    | .map entries => firstProperty entries properties
    | _ => some (Complaint.of .mapping)
  | .record _ inner, v => match v with
    | .map entries => firstEntry (fun x => judge inner x) entries
    | _ => some (Complaint.of .mapping)

def firstProperty (entries : Entries) : List Field → Option Complaint
  | [] => none
  | p :: rest =>
    let v := Entries.field entries p.name
    ((unlessEmpty p v (judge p v)).map (Complaint.inside (.property p.name))).or
      (firstProperty entries rest)

end

-- The fields of a document whose values do not conform, in the order of the schema.
def complaints (schema : Schema) (entries : Entries) : List (Value × Complaint) :=
  schema.filterMap fun (key, f) =>
    let v := Entries.getOrNull entries key
    (unlessEmpty f v (judge f v)).map fun c => (key, c)

-- Without fields, anything is a document.
def validate (schema : Schema) (values : Value) : Except Failure (List (Value × Complaint)) :=
  match schema, values with
  | [], _ => .ok []
  | _, .map entries => .ok (complaints schema entries)
  | _, _ => .error .notMapping

-- What is shown about a value as that of a field.
def told (f : Field) (v : Value) : Except Failure (Option Complaint) :=
  match judge f v with
  | none => .ok none
  | some c => c.written.map some

-- What is shown about a document: all the complaints, or none if one of them cannot be written.
def report (schema : Schema) (values : Value) : Except Failure (List (Value × Complaint)) := do
  let found ← validate schema values
  found.mapM fun (key, c) => do .ok (key, ← c.written)

end TemplateSchema.Document
