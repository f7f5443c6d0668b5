import TemplateSchema.Text.Basic
import TemplateSchema.Text.Decimal
import TemplateSchema.Text.Printable
/-!
Quoted text for messages. Single quotes are used unless the text holds a single quote and no
double quote; the chosen quote and the backslash are escaped, and what cannot be printed is
written by its code point.
-/
set_option autoImplicit false
namespace TemplateSchema.Text

def escapedChar (quote : Char) (c : Char) : String :=
  if c = quote ∨ c = '\\' then String.ofList ['\\', c]
  else if c = '\t' then "\\t"
  else if c = '\n' then "\\n"
  else if c = '\r' then "\\r"
  else if isPrintable c then String.singleton c
  else if c.toNat < 0x100 then "\\x" ++ paddedHex 2 c.toNat
  else if c.toNat < 0x10000 then "\\u" ++ paddedHex 4 c.toNat
  else "\\U" ++ paddedHex 8 c.toNat

def escapedPoint (quote : Char) : Point → String
  | .char c => escapedChar quote c
  | .half h => "\\u" ++ paddedHex 4 h.code

def quoteFor (t : Text) : Char :=
  if t.holds '\'' && !t.holds '"' then '"' else '\''

def quoted (t : Text) : String :=
  let q := quoteFor t
  String.singleton q ++ String.join (t.points.map (escapedPoint q)) ++ String.singleton q

def escapedByte (quote : Char) (b : UInt8) : String :=
  let c := Char.ofNat b.toNat
  if b.toNat < 0x80 then escapedChar quote c else "\\x" ++ paddedHex 2 b.toNat

def quotedBytes (bytes : List UInt8) : String :=
  let q := quoteFor (String.ofList (bytes.map fun b => Char.ofNat b.toNat))
  "b" ++ String.singleton q ++ String.join (bytes.map (escapedByte q)) ++ String.singleton q

end TemplateSchema.Text
