import TemplateSchema.Failure
import TemplateSchema.Schema.Kind
import TemplateSchema.Value.Mapping
/-!
What the calls of a builder chain declare. The first call gives a declaration; each call after it
writes some keys of it, or none if the method does not apply to the declared type.
-/
set_option autoImplicit false
namespace TemplateSchema.Chain

def typeKey : Value := .text "type"

def typed (k : Kind) (entries : List (String × Value)) : Entries :=
  (typeKey, .text k.name) :: entries.map fun (key, v) => (.text key, v)

def chainAt? (args : List Value) (index : Nat) : Option Entries :=
  match args[index]? with
  | some (.chain declaration) => some declaration
  | _ => none

-- The declarations of an object's properties, each of them a chain.
def properties : Entries → Except Fault Entries
  | [] => .ok []
  | (key, v) :: rest =>
    match v with
    | .chain declaration => (properties rest).map ((key, .map declaration) :: ·)
    | _ => .error (.property key.label)

-- The declaration that a chain starts with.
def build (name : String) (args : List Value) : Except Fault Entries :=
  if name = "string" then .ok (typed .string [])
  else if name = "number" then .ok (typed .number [])
  else if name = "boolean" then .ok (typed .boolean [])
  else if name = "date" then .ok (typed .date [])
  else if name = "array" then
    match chainAt? args 0 with
    | some declaration => .ok (typed .array [("items", .map declaration)])
    | none => .error .elementArgument
  else if name = "object" then
    match args with
    | .map entries :: _ => (properties entries).map fun ps => typed .object [("properties", .map ps)]
    | _ => .error .propertiesArgument
  else if name = "enum" then
    match args with
    | .list options :: _ =>
      if options.all Value.isText then .ok (typed .enum [("options", .list options)]) else .error .optionsArgument
    | _ => .error .optionsArgument
  else if name = "record" then
    -- The keys' chain may come before the values' one.
    match chainAt? args (args.length - 1) with
    | some declaration => .ok (typed .record [("values", .map declaration)])
    | none => .error .valuesArgument
  else .error (.unknownBuilder name)

-- The keys of the lower and the upper bound, for the types that have bounds.
def boundKeys? : Kind → Option (String × String)
  | .string => some ("minLength", "maxLength")
  | .number | .date => some ("min", "max")
  | .array => some ("minItems", "maxItems")
  | _ => none

def boundWrites (low high method : String) (bound : Value) : List (String × Value) :=
  (if method = "min" ∨ method = "length" then [(low, bound)] else []) ++
    (if method = "max" ∨ method = "length" then [(high, bound)] else [])

def isBound (method : String) : Bool :=
  method == "min" || method == "max" || method == "length"

-- What methods of every type write.
def commonWrites (method : String) (args : List Value) : Except Fault (Option (List (String × Value))) :=
  if method = "optional" then .ok (some [("optional", .bool true)])
  else if method = "default" then .ok (some [("default", args.headD .null)])
  else if method = "describe" then
    match args with
    | .text s :: _ => .ok (some [("description", .text s)])
    | _ => .error .descriptionArgument
  else .ok none

-- What a method writes into a declaration of a kind; `none` if it does not apply.
def writes (kind : Kind) (method : String) (args : List Value) : Except Fault (Option (List (String × Value))) :=
  match isBound method, boundKeys? kind with
  | true, some (low, high) =>
    match args with
    | bound :: _ => .ok (some (boundWrites low high method bound))
    | [] => .error (.missingBound method)
  | _, keys =>
    if method = "nonempty" ∧ (kind = .string ∨ kind = .array) then
      .ok (keys.map fun (low, _) => [(low, .int 1)])
    else if method = "int" ∧ kind = .number then .ok (some [("integer", .bool true)])
    else if method = "positive" ∧ kind = .number then .ok (some [("positive", .bool true)])
    else if kind = .string ∧ (Format.ofName? method).isSome then .ok (some [("format", .text method)])
    else commonWrites method args

def writeAll (declaration : Entries) (entries : List (String × Value)) : Entries :=
  entries.foldl (fun d (key, v) => Entries.insert d (.text key) v) declaration

def kindOf (declaration : Entries) : Kind :=
  ((Entries.getOrNull declaration typeKey).label.whole?.bind Kind.ofName?).getD .string

-- Applies a method call to a declaration.
def apply (declaration : Entries) (method : String) (args : List Value) : Traced Entries :=
  let kind := kindOf declaration
  match writes kind method args with
  | .error fault => Traced.failed (.chain fault)
  | .ok (some entries) => Traced.done (writeAll declaration entries)
  | .ok none => do
    Traced.record .debug .expressions
      ("Ignoring unsupported zod modifier ." ++ method ++ "() on " ++ kind.name)
    pure declaration

end TemplateSchema.Chain
