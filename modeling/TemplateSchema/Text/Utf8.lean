import TemplateSchema.Text.Decimal
/-!
Reading bytes as text. The first sequence that is no character ends the reading, and the fault
names the bytes that it takes up.
-/
set_option autoImplicit false
namespace TemplateSchema.Utf8

inductive Reason where
  | startByte
  | continuationByte
  | endOfData
  deriving DecidableEq

-- The undecodable bytes, from `first` to `last`; `byte` is the first of them.
structure Fault where
  reason : Reason
  first : Nat
  last : Nat
  byte : Nat
  deriving DecidableEq

def Reason.text : Reason → String
  | .startByte => "invalid start byte"
  | .continuationByte => "invalid continuation byte"
  | .endOfData => "unexpected end of data"

def Fault.message (f : Fault) : String :=
  let place :=
    if f.first = f.last then "byte 0x" ++ Text.paddedHex 2 f.byte ++ " in position " ++ Text.decimal f.first
    else "bytes in position " ++ Text.decimal f.first ++ "-" ++ Text.decimal f.last
  "'utf-8' codec can't decode " ++ place ++ ": " ++ f.reason.text

-- A sequence that has begun: its first byte and place, the bytes it still needs, the bounds of
-- the next one, and the bits read so far.
structure Pending where
  first : Nat
  byte : Nat
  needed : Nat
  low : Nat
  high : Nat
  code : Nat

-- The bounds of the second byte keep out long forms, surrogates and code points beyond the last.
def begin? (first byte : Nat) : Option Pending :=
  if byte < 0xC2 then none
  else if byte < 0xE0 then some ⟨first, byte, 1, 0x80, 0xBF, byte - 0xC0⟩
  else if byte < 0xF0 then
    some ⟨first, byte, 2, if byte = 0xE0 then 0xA0 else 0x80, if byte = 0xED then 0x9F else 0xBF, byte - 0xE0⟩
  else if byte < 0xF5 then
    some ⟨first, byte, 3, if byte = 0xF0 then 0x90 else 0x80, if byte = 0xF4 then 0x8F else 0xBF, byte - 0xF0⟩
  else none

def decodeFrom (position : Nat) (pending : Option Pending) : List UInt8 → Except Fault (List Char)
  | [] => match pending with
    | none => .ok []
    | some p => .error ⟨.endOfData, p.first, position - 1, p.byte⟩
  | b :: rest =>
    let byte := b.toNat
    match pending with
    | none =>
      if byte < 0x80 then
        (decodeFrom (position + 1) none rest).map (Char.ofNat byte :: ·)
      else match begin? position byte with
        | some p => decodeFrom (position + 1) (some p) rest
        | none => .error ⟨.startByte, position, position, byte⟩
    | some p =>
      if p.low ≤ byte ∧ byte ≤ p.high then
        let code := p.code * 64 + (byte - 0x80)
        if p.needed = 1 then (decodeFrom (position + 1) none rest).map (Char.ofNat code :: ·)
        else decodeFrom (position + 1) (some ⟨p.first, p.byte, p.needed - 1, 0x80, 0xBF, code⟩) rest
      else .error ⟨.continuationByte, p.first, position - 1, p.byte⟩

def decode (bytes : List UInt8) : Except Fault String :=
  (decodeFrom 0 none bytes).map String.ofList

end TemplateSchema.Utf8
