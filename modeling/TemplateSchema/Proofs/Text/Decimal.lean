import Mathlib.Algebra.Group.Nat.Defs
import TemplateSchema.Text.Decimal
import TemplateSchema.Text.Digit
/-!
Digits that are written are read back: by any reader that knows the digits below the base, with or
without zeros in front.
-/
set_option autoImplicit false
namespace TemplateSchema.Text

variable {base n : Nat} {digit? : Char → Option Nat} {cs : List Char}

-- Each character is a digit to the reader, and together they make up the number.
def Spells (digit? : Char → Option Nat) (base : Nat) (cs : List Char) (n : Nat) : Prop :=
  ∃ ds, cs.map digit? = ds.map some ∧ natOfDigits base ds = n

-- The reader knows every digit of the base.
def KnowsDigits (digit? : Char → Option Nat) (base : Nat) : Prop :=
  ∀ d < base, digit? (Nat.digitChar d) = some d

theorem knows_ascii : KnowsDigits asciiDigit? 10 := by
  unfold KnowsDigits
  decide

theorem knows_hex : KnowsDigits hexDigit? 16 := by
  unfold KnowsDigits
  decide

theorem natOfDigits_snoc (ds : List Nat) (d : Nat) :
    natOfDigits base (ds ++ [d]) = natOfDigits base ds * base + d := by
  simp [natOfDigits]

theorem natOfDigits_zeros (count : Nat) (ds : List Nat) :
    natOfDigits base (List.replicate count 0 ++ ds) = natOfDigits base ds := by
  induction count with
  | zero => rfl
  | succ count ih =>
    rw [List.replicate_succ,List.cons_append,← ih]
    simp [natOfDigits]

theorem Spells.filterMap (spells : Spells digit? base cs n) :
    (cs.filterMap digit?).length = cs.length ∧ natOfDigits base (cs.filterMap digit?) = n := by
  obtain ⟨ds,read,value⟩ := spells
  have found : cs.filterMap digit? = ds := by
    calc cs.filterMap digit? = (cs.map digit?).filterMap id := by rw [List.filterMap_map,Function.id_comp]
      _ = ds := by rw [read,List.filterMap_map,Function.id_comp,List.filterMap_some]
  rw [found]
  exact ⟨by simpa using (congrArg List.length read).symm,value⟩

theorem toDigits_spells (base : Nat) (large : 1 < base) (knows : KnowsDigits digit? base) (n : Nat) :
    Spells digit? base (Nat.toDigits base n) n := by
  induction n using Nat.strongRecOn with
  | ind n ih =>
    rw [Nat.toDigits_eq_if large]
    split
    · rename_i small
      exact ⟨[n],by simp [knows n small],by simp [natOfDigits]⟩
    · rename_i many
      have smaller : n / base < n := Nat.div_lt_self (by omega) large
      obtain ⟨ds,read,value⟩ := ih _ smaller
      have last := knows (n % base) (Nat.mod_lt _ (by omega))
      refine ⟨ds ++ [n % base],by simp [read,last],?_⟩
      rw [natOfDigits_snoc,value,Nat.div_add_mod']

theorem padded_spells (base : Nat) (large : 1 < base) (knows : KnowsDigits digit? base) (width n : Nat) :
    Spells digit? base (zeroPadded width (Nat.toDigits base n)) n := by
  obtain ⟨ds,read,value⟩ := toDigits_spells base large knows n
  have zero : digit? '0' = some 0 := knows 0 (by omega)
  refine ⟨List.replicate (width - (Nat.toDigits base n).length) 0 ++ ds,?_,by rw [natOfDigits_zeros,value]⟩
  simp [zeroPadded,read,zero]

theorem padded_length (base width : Nat) (large : 1 < base) (positive : 0 < width) (fits : n < base ^ width) :
    (zeroPadded width (Nat.toDigits base n)).length = width := by
  have short := (Nat.length_toDigits_le_iff large positive).mpr fits
  simp only [zeroPadded,List.length_append,List.length_replicate]
  omega

-- Digits in front of a number that is not zero begin with one that is not zero.
theorem toDigits_head (base : Nat) (large : 1 < base) (small : base ≤ 16) (positive : 0 < n) :
    ∃ c rest, Nat.toDigits base n = c :: rest ∧ c ≠ '0' := by
  induction n using Nat.strongRecOn with
  | ind n ih =>
    rw [Nat.toDigits_eq_if large]
    split
    · refine ⟨_,[],rfl,?_⟩
      rw [Ne,Nat.digitChar_eq_zero]
      omega
    · rename_i many
      have smaller : n / base < n := Nat.div_lt_self positive large
      obtain ⟨c,rest,digits,nonzero⟩ := ih _ smaller (Nat.div_pos (by omega) (by omega))
      exact ⟨c,rest ++ [_],by rw [digits]; rfl,nonzero⟩

end TemplateSchema.Text
