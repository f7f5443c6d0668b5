import TemplateSchema.Text.Decimal
/-!
Reading base64. Characters outside the alphabet are passed over, and reading ends at the padding
that completes a group of four.
-/
set_option autoImplicit false
namespace TemplateSchema.Base64

inductive Fault where
  | length (characters : Nat)
  | padding
  deriving DecidableEq

def Fault.message : Fault → String
  | .length characters =>
    "Invalid base64-encoded string: number of data characters (" ++ Text.decimal characters ++
      ") cannot be 1 more than a multiple of 4"
  | .padding => "Incorrect padding"

def sextet? (c : Char) : Option Nat :=
  if 'A' ≤ c ∧ c ≤ 'Z' then some (c.toNat - 65)
  else if 'a' ≤ c ∧ c ≤ 'z' then some (c.toNat - 71)
  else if c.isDigit then some (c.toNat + 4)
  else if c = '+' then some 62
  else if c = '/' then some 63
  else none

-- `group` holds the sextets of the group that is not complete, `bytes` those already written.
def decodeFrom (group : List Nat) (pads bytes : Nat) : List Char → Except Fault (List UInt8)
  | [] =>
    if group.isEmpty then .ok []
    else if group.length = 1 then .error (.length (bytes / 3 * 4 + 1))
    else .error .padding
  | c :: rest =>
    if c = '=' then
      if 2 ≤ group.length ∧ 4 ≤ group.length + (pads + 1) then .ok []
      else decodeFrom group (if 2 ≤ group.length then pads + 1 else pads) bytes rest
    else match sextet? c with
      | none => decodeFrom group pads bytes rest
      | some s =>
        match group with
        | [a] => (decodeFrom [a, s] 0 (bytes + 1) rest).map (UInt8.ofNat (a * 4 + s / 16) :: ·)
        | [a, b] =>
          (decodeFrom [a, b, s] 0 (bytes + 1) rest).map (UInt8.ofNat (b % 16 * 16 + s / 4) :: ·)
        | [_, _, d] => (decodeFrom [] 0 (bytes + 1) rest).map (UInt8.ofNat (d % 4 * 64 + s) :: ·)
        | _ => decodeFrom [s] 0 bytes rest

def decode (cs : List Char) : Except Fault (List UInt8) :=
  decodeFrom [] 0 0 cs

end TemplateSchema.Base64
