import TemplateSchema.Failure
import TemplateSchema.Schema.Attribute
import TemplateSchema.Schema.Field
import TemplateSchema.Value.Stored
/-!
Fields in the form in which they are stored: mappings of attributes, without those that are absent
or null. Reading one back restores all but a default of null.
-/
set_option autoImplicit false
namespace TemplateSchema

namespace Field

def nameKey : String := "name"
def descriptionKey : String := "description"
def optionalKey : String := "is_optional"
def defaultKey : String := "default_value"
def typeKey : String := "type"
def itemKey : String := "item_type"
def propertiesKey : String := "properties"
def valueKey : String := "value_type"

-- The attribute for a value that is there.
def present (name : String) (v : Option Value) : Entries :=
  match v with
  | none => []
  | some .null => []
  | some v => [(.text name, v)]

def headerAttributes (h : Header) (kind : Kind) : Entries :=
  [(.text nameKey, .text h.name), (.text descriptionKey, .text h.description),
    (.text optionalKey, .bool h.isOptional)] ++
  present defaultKey (h.default?.map Value.stored) ++ [(.text typeKey, .text kind.name)]

mutual

def attributes : Field → Entries
  | .string h minLength maxLength format =>
    headerAttributes h .string ++ present "min_length" (minLength.map Value.int) ++
      present "max_length" (maxLength.map Value.int) ++ present "format" (format.map fun f => .text f.name)
  | .number h min max isInteger isPositive =>
    headerAttributes h .number ++ present "min" (min.map Quantity.toValue) ++
      present "max" (max.map Quantity.toValue) ++ present "is_integer" (isInteger.map Value.bool) ++
      present "is_positive" (isPositive.map Value.bool)
  | .boolean h => headerAttributes h .boolean
  | .date h min max =>
    headerAttributes h .date ++ present "min" (min.map Value.moment) ++ present "max" (max.map Value.moment)
  | .array h minItems maxItems item =>
    headerAttributes h .array ++ present "min_items" (minItems.map Value.int) ++
      present "max_items" (maxItems.map Value.int) ++ [(.text itemKey, .map (attributes item))]
  | .object h properties =>
    headerAttributes h .object ++ [(.text propertiesKey, .tuple (attributesOfAll properties))]
  | .enum h options =>
    headerAttributes h .enum ++ [(.text "options", .tuple (options.map Value.text))]
  | .record h value => headerAttributes h .record ++ [(.text valueKey, .map (attributes value))]

def attributesOfAll : List Field → List Value
  | [] => []
  | f :: rest => .map (attributes f) :: attributesOfAll rest

end

def readHeader (attributes : Entries) : Reading Header :=
  ((Reading.required attributes nameKey Attribute.text).and <|
    (Reading.orElse attributes descriptionKey ("" : Text) Attribute.text).and <|
    (Reading.orElse attributes optionalKey false Attribute.truth).and <|
    Reading.orElse attributes defaultKey none fun v => .ok (some v)).map
  fun (name, description, isOptional, default?) => ⟨name, description, isOptional, default?⟩

-- The names of a kind's own attributes.
def ownAttributes : Kind → List String
  | .string => ["min_length", "max_length", "format"]
  | .number => ["min", "max", "is_integer", "is_positive"]
  | .boolean => []
  | .date => ["min", "max"]
  | .array => ["min_items", "max_items", itemKey]
  | .object => [propertiesKey]
  | .enum => ["options"]
  | .record => [valueKey]

def isAttribute (kind : Kind) (name : String) : Bool :=
  ([nameKey, descriptionKey, optionalKey, defaultKey, typeKey] ++ ownAttributes kind).contains name

-- Keys that are no attributes of a kind.
def extraProblems (kind : Kind) (attributes : Entries) : List (Problem Misfit) :=
  attributes.filterMap fun (key, _) =>
    match key with
    | .text s =>
      if s.whole?.any (isAttribute kind) then none else some ⟨[.name s.replaced], .unknownAttribute⟩
    | _ => some ⟨[Segment.ofKey key], .attributeName⟩

-- A key with half of a pair in it ends the reading, whatever else is wrong.
def withoutTorn (attributes : Entries) (reading : Reading Field) : Reading Field :=
  if attributes.any fun entry => entry.1.isTorn then Reading.misfit .encoding else reading

def readString (attributes : Entries) : Reading Field :=
  ((readHeader attributes).and <|
    (Reading.optional attributes "min_length" Attribute.integer).and <|
    (Reading.optional attributes "max_length" Attribute.integer).and <|
    Reading.optional attributes "format" Attribute.format).map
  fun (h, minLength, maxLength, format) => .string h minLength maxLength format

def readNumber (attributes : Entries) : Reading Field :=
  ((readHeader attributes).and <|
    (Reading.optional attributes "min" Attribute.quantity).and <|
    (Reading.optional attributes "max" Attribute.quantity).and <|
    (Reading.optional attributes "is_integer" Attribute.truth).and <|
    Reading.optional attributes "is_positive" Attribute.truth).map
  fun (h, min, max, isInteger, isPositive) => .number h min max isInteger isPositive

def readDate (attributes : Entries) : Reading Field :=
  ((readHeader attributes).and <|
    (Reading.optional attributes "min" Attribute.moment).and <|
    Reading.optional attributes "max" Attribute.moment).map
  fun (h, min, max) => .date h min max

def readArray (attributes : Entries) (item : Reading Field) : Reading Field :=
  ((readHeader attributes).and <|
    (Reading.optional attributes "min_items" Attribute.integer).and <|
    (Reading.optional attributes "max_items" Attribute.integer).and <|
    Reading.under (.name itemKey) item).map
  fun (h, minItems, maxItems, item) => .array h minItems maxItems item

def readEnum (attributes : Entries) : Reading Field :=
  ((readHeader attributes).and (Reading.orElse attributes "options" [] Attribute.options)).map
  fun (h, options) => .enum h options

-- What a value without a tag is wrong in depends on whether it could have had one.
def untagged : Value → Misfit
  | .date _ | .moment _ | .chain _ | .map _ => .noTag
  | _ => .field

-- The kind that a nested field's type names, letter by letter.
def tag (v : Value) : Except Misfit Kind :=
  match v.entries?.bind fun attributes => Entries.field? attributes typeKey with
  | none => .error (untagged v)
  | some type => match type.label with
    | .whole s => match Kind.ofName? s with
      | some kind => .ok kind
      | none => .error (.unknownTag s)
    | .torn .. => .error .encoding

-- A nested field is read as its tag says; the tag is a step of the path.
def readTagged (v : Value) (read : Kind → Reading Field) : Reading Field :=
  match tag v with
  | .ok kind => Reading.under (.name kind.name) (read kind)
  | .error m => Reading.misfit m

mutual

-- A field of a kind from its attributes.
def ofAttributes (kind : Kind) : Value → Reading Field
  | .map attributes =>
    withoutTorn attributes <| Reading.followedBy (extraProblems kind attributes) (match kind with
      | .string => readString attributes
      | .number => readNumber attributes
      | .boolean => (readHeader attributes).map Field.boolean
      | .date => readDate attributes
      | .array => readArray attributes (nestedIn itemKey attributes)
      | .object =>
        ((readHeader attributes).and (Reading.under (.name propertiesKey) (propertiesIn attributes))).map
          fun (h, properties) => .object h properties
      | .enum => readEnum attributes
      | .record =>
        ((readHeader attributes).and (Reading.under (.name valueKey) (nestedIn valueKey attributes))).map
          fun (h, value) => .record h value)
  | _ => Reading.misfit .field

def nestedIn (key : String) : List (Value × Value) → Reading Field
  | [] => Reading.misfit .required
  | (k, v) :: rest =>
    if Value.same k (.text key) then readTagged v fun kind => ofAttributes kind v else nestedIn key rest

def propertiesIn : List (Value × Value) → Reading (List Field)
  | [] => .ok []
  | (k, v) :: rest =>
    if Value.same k (.text propertiesKey) then propertiesOf v else propertiesIn rest

def propertiesOf : Value → Reading (List Field)
  | .list items => taggedFields 0 items
  | .tuple items => taggedFields 0 items
  | .set items => taggedFields 0 items
  | _ => Reading.misfit .tuple

def taggedFields (position : Nat) : List Value → Reading (List Field)
  | [] => .ok []
  | v :: rest =>
    ((Reading.under (.index position) (readTagged v fun kind => ofAttributes kind v)).and
      (taggedFields (position + 1) rest)).map fun (f, fs) => f :: fs

end

-- Reads a stored field; its own type may be spelled as authors spell it.
def ofStored (v : Value) : Except Failure Field :=
  match v with
  | .map attributes =>
    match Kind.read? (Entries.field attributes typeKey) with
    | some kind => (ofAttributes kind v).mapError Failure.misfits
    | none => .error (.unknownKind (Entries.field attributes typeKey))
  | _ => .error .notMapping

end Field

namespace Schema

-- A stored field takes its key for a name if it has none of its own.
def named (key : Value) (attributes : Entries) : Entries :=
  attributes.foldl (fun entries pair => Entries.insert entries pair.1 pair.2) [(.text Field.nameKey, key)]

def ofStoredEntries : List (Value × Value) → Except Failure Schema
  | [] => .ok []
  | (key, v) :: rest =>
    match v with
    | .map attributes => do
      let field ← Field.ofStored (.map (named key attributes))
      let others ← ofStoredEntries rest
      .ok ((key, field) :: others)
    | _ => .error .unsupported

def ofStored (v : Value) : Except Failure Schema :=
  match v with
  | .map entries => ofStoredEntries entries
  | _ => .error .notMapping

-- The stored form of each field, by key.
def attributes (schema : Schema) : Entries :=
  schema.map fun (key, field) => (key, .map field.attributes)

end Schema

end TemplateSchema
