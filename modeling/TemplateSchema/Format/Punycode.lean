/-!
Decoding the labels of internationalized domains. Each variable-length number says how far the next
character lies behind the last one, counted in characters and places at once.
-/
set_option autoImplicit false
namespace TemplateSchema.Punycode

def digit? (c : Char) : Option Nat :=
  if 'a' ≤ c ∧ c ≤ 'z' then some (c.toNat - 97)
  else if 'A' ≤ c ∧ c ≤ 'Z' then some (c.toNat - 65)
  else if c.isDigit then some (c.toNat - 22)
  else none

def threshold (position bias : Nat) : Nat :=
  if position ≤ bias then 1 else if bias + 26 ≤ position then 26 else position - bias

-- A digit below its threshold ends the number.
def number? (bias : Nat) (position weight sum : Nat) : List Char → Option (Nat × List Char)
  | [] => none
  | c :: rest =>
    match digit? c with
    | none => none
    | some d =>
      if d < threshold position bias then some (sum + d * weight, rest)
      else
        number? bias (position + 36) (weight * (36 - threshold position bias)) (sum + d * weight) rest

theorem length_of_number {bias : Nat} : ∀ {cs : List Char} {position weight sum n : Nat} {rest : List Char},
    number? bias position weight sum cs = some (n, rest) → rest.length < cs.length
  | [], _, _, _, _, _, read => by simp [number?] at read
  | c :: cs, position, weight, sum, n, rest, read => by
    rw [number?] at read
    split at read
    · simp at read
    · split at read
      · simp at read; rw [← read.2]; simp
      · have := length_of_number read
        simp; omega

def damped (delta : Nat) (position : Nat) : Nat :=
  if 455 < delta then damped (delta / 35) (position + 36) else position + 36 * delta / (delta + 38)
termination_by delta
decreasing_by omega

def adapted (delta count : Nat) (first : Bool) : Nat :=
  let delta := if first then delta / 700 else delta / 2
  damped (delta + delta / count) 0

def isScalar (n : Nat) : Bool :=
  n < 0xD800 || (0xDFFF < n && n < 0x110000)

def insertAt (position : Nat) (c : Char) (cs : List Char) : List Char :=
  cs.take position ++ c :: cs.drop position

-- Puts in the characters that the numbers describe, one after the other.
def insertions? (bias code place : Nat) (done : List Char) : List Char → Option (List Char)
  | [] => some done
  | c :: rest =>
    match read : number? bias 36 1 place (c :: rest) with
    | none => none
    | some (sum, left) =>
      let count := done.length + 1
      let code := code + sum / count
      let place' := sum % count
      if isScalar code then
        insertions? (adapted (sum - place) count (place == 0)) code (place' + 1)
          (insertAt place' (Char.ofNat code) done) left
      else none
termination_by cs => cs.length
decreasing_by have := length_of_number read; simpa using this

-- The label behind an `xn--`: plain characters before the last hyphen, numbers after it.
def decode? (cs : List Char) : Option (List Char) :=
  let numbers := (cs.reverse.takeWhile (· != '-')).reverse
  let plain := (cs.take (cs.length - numbers.length)).dropLast
  insertions? 72 128 0 plain numbers

end TemplateSchema.Punycode
