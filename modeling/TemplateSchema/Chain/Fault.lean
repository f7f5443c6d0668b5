import TemplateSchema.Text.Quoted
/-!
Why a text is no builder chain, or a chain that means nothing.
-/
set_option autoImplicit false
namespace TemplateSchema.Chain

inductive Fault where
  | character (c : Char) (offset : Nat)
  | endOfText
  | expected (mark : String) (offset : Nat) (found : String)
  | unexpected (found : String) (offset : Nat)
  | propertyName (offset : Nat)
  | methodName (offset : Nat)
  -- A value that is no chain; `text` is all that was given.
  | notChain (text : String)
  | elementArgument
  | propertiesArgument
  | property (name : Text)
  | optionsArgument
  | valuesArgument
  | unknownBuilder (name : String)
  | missingBound (method : String)
  | descriptionArgument
  deriving DecidableEq

def atOffset (offset : Nat) : String :=
  " at offset " ++ Text.decimal offset

def Fault.message : Fault → String
  | .character c offset => "Unexpected character " ++ Text.quoted (String.singleton c) ++ atOffset offset
  | .endOfText => "Unexpected end of expression"
  | .expected mark offset found =>
    "Expected " ++ Text.quoted mark ++ atOffset offset ++ ", got " ++ Text.quoted found
  | .unexpected found offset => "Unexpected " ++ Text.quoted found ++ atOffset offset
  | .propertyName offset => "Expected a property name" ++ atOffset offset
  | .methodName offset => "Expected a method name" ++ atOffset offset
  | .notChain text => "Expected a zod expression, got " ++ Text.quoted text
  | .elementArgument => "z.array expects a zod expression argument"
  | .propertiesArgument => "z.object expects an object argument"
  | .property name => "z.object property " ++ Text.quoted name ++ " must be a zod expression"
  | .optionsArgument => "z.enum expects a list of strings"
  | .valuesArgument => "z.record expects a zod expression argument"
  | .unknownBuilder name => "Unsupported zod type z." ++ name ++ "()"
  | .missingBound method => "." ++ method ++ "() expects an argument"
  | .descriptionArgument => ".describe() expects a string"

end TemplateSchema.Chain
