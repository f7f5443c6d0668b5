import Mathlib.Algebra.Order.Field.Basic
import Mathlib.Algebra.Order.Field.Rat
import Mathlib.Data.Rat.Cast.Order
import Mathlib.Tactic.Ring
import Mathlib.Tactic.Linarith
import Mathlib.Tactic.NormNum
import TemplateSchema.Number.Quantity
/-!
Integers of at most 53 bits are binary64 numbers: nothing is lost when one is turned into the
other, so a quantity and its binary64 form compare alike with others.
-/
set_option autoImplicit false
namespace TemplateSchema.Binary64

-- The quotient by one is already an integer, so rounding has nothing to decide.
theorem roundHalfEven_one (n : Nat) : roundHalfEven n 1 = n := by
  simp [roundHalfEven,Nat.mod_one]

theorem binaryExponent_one (n : Nat) (positive : n ≠ 0) : binaryExponent n 1 = Nat.log2 n := by
  have least : ¬ n < 2 ^ Nat.log2 n := Nat.not_lt.mpr (Nat.log2_self_le positive)
  have unit : Nat.log2 1 = 0 := by decide
  simp [binaryExponent,unit,least]

def aligned (n : Nat) : Nat :=
  n * 2 ^ (52 - Nat.log2 n)

theorem aligned_canonical (n : Nat) (positive : n ≠ 0) (small : n < 2 ^ 53) :
    IsCanonical (aligned n) ((Nat.log2 n : Int) - 52) := by
  have bits : Nat.log2 n < 53 := (Nat.log2_lt positive).mpr small
  have lower : 2 ^ Nat.log2 n ≤ n := Nat.log2_self_le positive
  have upper : n < 2 ^ (Nat.log2 n + 1) := Nat.lt_log2_self
  refine ⟨?_,by omega,by omega,.inl ?_⟩
  · calc aligned n < 2 ^ (Nat.log2 n + 1) * 2 ^ (52 - Nat.log2 n) :=
          Nat.mul_lt_mul_of_pos_right upper (Nat.two_pow_pos _)
      _ = 2 ^ 53 := by rw [← Nat.pow_add]; congr 1; omega
  · calc 2 ^ 52 = 2 ^ Nat.log2 n * 2 ^ (52 - Nat.log2 n) := by rw [← Nat.pow_add]; congr 1; omega
      _ ≤ aligned n := Nat.mul_le_mul_right _ lower

theorem ofRatio_small (negative : Bool) (n : Nat) (positive : n ≠ 0) (small : n < 2 ^ 53) :
    ofRatio negative n 1 =
      .finite negative (aligned n) ((Nat.log2 n : Int) - 52) (aligned_canonical n positive small) := by
  have bits : Nat.log2 n < 53 := (Nat.log2_lt positive).mpr small
  have exponent : max ((Nat.log2 n : Int) - 52) (-1074) = (Nat.log2 n : Int) - 52 := by omega
  have up : (-((Nat.log2 n : Int) - 52)).toNat = 52 - Nat.log2 n := by omega
  have down : ((Nat.log2 n : Int) - 52).toNat = 0 := by omega
  simp only [ofRatio,positive,if_false,binaryExponent_one n positive,exponent,up,down]
  have exact_ : roundHalfEven (n * Nat.pow 2 (52 - Nat.log2 n)) (1 * Nat.pow 2 0) = aligned n :=
    roundHalfEven_one _
  rw [exact_,pack,dif_pos (aligned_canonical n positive small)]

theorem toRat_aligned (negative : Bool) (n : Nat) (positive : n ≠ 0) (small : n < 2 ^ 53) :
    (ofRatio negative n 1).toRat? = some (if negative then -(n : Rat) else (n : Rat)) := by
  have bits : Nat.log2 n < 53 := (Nat.log2_lt positive).mpr small
  have shift : ((Nat.log2 n : Int) - 52) = -((52 - Nat.log2 n : Nat) : Int) := by omega
  have value : magnitude (aligned n) ((Nat.log2 n : Int) - 52) = n := by
    rw [magnitude,aligned,shift,zpow_neg,zpow_natCast]
    push_cast
    exact mul_inv_cancel_right₀ (pow_ne_zero _ two_ne_zero) _
  simp only [ofRatio_small negative n positive small,toRat?,value]

theorem toInt_aligned (negative : Bool) (n : Nat) (positive : n ≠ 0) (small : n < 2 ^ 53) :
    (ofRatio negative n 1).toInt? = some (if negative then -(n : Int) else (n : Int)) := by
  have bits : Nat.log2 n < 53 := (Nat.log2_lt positive).mpr small
  have up : (-((Nat.log2 n : Int) - 52)).toNat = 52 - Nat.log2 n := by omega
  have down : ((Nat.log2 n : Int) - 52).toNat = 0 := by omega
  have unit : 0 < 2 ^ (52 - Nat.log2 n) := Nat.two_pow_pos _
  simp only [ofRatio_small negative n positive small,toInt?,up,down,aligned,Nat.pow_eq,pow_zero,mul_one,
    Nat.mul_mod_left,if_true,Nat.mul_div_cancel _ unit]

-- The number is the integer, by both ways of reading it.
def IsInteger (x : Binary64) (n : Int) : Prop :=
  x.toRat? = some (n : Rat) ∧ x.toInt? = some n

theorem zero_isInteger : (zero false).IsInteger 0 := by
  constructor
  · simp [zero,toRat?,magnitude]
  · decide +kernel

theorem ofInt_exact (n : Int) (small : n.natAbs < 2 ^ 53) : ∃ x, ofInt? n = some x ∧ x.IsInteger n := by
  by_cases none_ : n.natAbs = 0
  · have : n = 0 := by omega
    subst this
    exact ⟨zero false,by simp [ofInt?,ofRatio,zero],zero_isInteger⟩
  · refine ⟨ofRatio (n < 0) n.natAbs 1,?_,?_,?_⟩
    · simp only [ofInt?,ofRatio_small _ _ none_ small]
    · rw [toRat_aligned _ _ none_ small]
      rcases Int.lt_or_le n 0 with below | above
      · have size : ((n.natAbs : Int) : Rat) = ((-n : Int) : Rat) := by congr 1; omega
        simp only [Int.cast_natCast,Int.cast_neg] at size
        simp [below,size]
      · have size : ((n.natAbs : Int) : Rat) = (n : Rat) := by congr 1; omega
        simp only [Int.cast_natCast] at size
        simp [Int.not_lt.mpr above,size]
    · rw [toInt_aligned _ _ none_ small]
      rcases Int.lt_or_le n 0 with below | above
      · simp only [below,decide_true,if_true,Option.some.injEq]; omega
      · simp only [Int.not_lt.mpr above,decide_false,Bool.false_eq_true,if_false,Option.some.injEq]; omega

theorem lt_rat {x y : Binary64} {p q : Rat} (left : x.toRat? = some p) (right : y.toRat? = some q) :
    x.lt y = decide (p < q) := by
  cases x with
  | finite =>
    cases y with
    | finite => simp only [lt,left,right]
    | infinite => cases right
    | nan => cases right
  | infinite => cases left
  | nan => cases left

theorem ltInt_exact {x y : Binary64} {n : Int} (integer : y.IsInteger n) : x.ltInt n = x.lt y := by
  cases y with
  | finite =>
    cases x with
    | finite => simp only [ltInt,lt,integer.1]; rfl
    | infinite => rfl
    | nan => rfl
  | infinite => cases integer.1
  | nan => cases integer.1

theorem gtInt_exact {x y : Binary64} {n : Int} (integer : x.IsInteger n) : y.gtInt n = x.lt y := by
  cases x with
  | finite =>
    cases y with
    | finite => simp only [gtInt,lt,integer.1]; rfl
    | infinite => rfl
    | nan => rfl
  | infinite => cases integer.1
  | nan => cases integer.1

theorem lt_asymm {x y : Binary64} (less : x.lt y = true) : y.lt x = false := by
  cases x with
  | finite =>
    cases y with
    | finite =>
      simp only [lt,toRat?,decide_eq_true_eq,decide_eq_false_iff_not] at less ⊢
      exact not_lt_of_gt less
    | infinite b => simpa [lt] using less
    | nan => rfl
  | infinite a =>
    cases y with
    | finite => simpa [lt] using less
    | infinite b => simp_all [lt]
    | nan => rfl
  | nan => cases y <;> cases less

-- Without NaN the order is total.
theorem le_not_lt {x y : Binary64} (left : x.isNaN = false) (right : y.isNaN = false) :
    x.le y = !y.lt x := by
  cases before : x.lt y with
  | true => simp [le,before,lt_asymm before]
  | false => simp [le,same,before,left,right]

theorem isInteger_not_nan {x : Binary64} {n : Int} (integer : x.IsInteger n) : x.isNaN = false := by
  cases x with
  | nan => cases integer.1
  | _ => rfl

-- NaN is not a whole number.
theorem integral_not_nan {x : Binary64} (integral : x.isIntegral = true) : x.isNaN = false := by
  cases x with
  | nan => cases integral
  | _ => rfl

end TemplateSchema.Binary64

namespace TemplateSchema.Quantity

def toBinary64? : Quantity → Option Binary64
  | .int n => Binary64.ofInt? n
  | .float x => some x

-- A number that binary64 holds as it is.
def IsExact : Quantity → Prop
  | .int n => n.natAbs < 2 ^ 53
  | .float x => x.isNaN = false

def Denotes : Quantity → Binary64 → Prop
  | .int n, x => x.IsInteger n
  | .float y, x => y = x

theorem lt_denotes {q r : Quantity} {x y : Binary64} (left : q.Denotes x) (right : r.Denotes y) :
    q.lt r = x.lt y := by
  cases q with
  | int m =>
    cases r with
    | int n => simp [lt,Binary64.lt_rat left.1 right.1]
    | float z => cases right; exact Binary64.gtInt_exact left
  | float z =>
    cases left
    cases r with
    | int n => exact Binary64.ltInt_exact right
    | float w => cases right; rfl

theorem isIntegral_denotes {q : Quantity} {x : Binary64} (denotes : q.Denotes x) :
    q.isIntegral = x.isIntegral := by
  cases q with
  | int n => simp [isIntegral,Binary64.isIntegral,denotes.2]
  | float y => cases denotes; rfl

theorem isPositive_denotes {q : Quantity} {x : Binary64} (denotes : q.Denotes x) :
    q.isPositive = (Binary64.zero false).lt x :=
  lt_denotes (q := .int 0) Binary64.zero_isInteger denotes

theorem denotes_exact {q : Quantity} {x : Binary64} (isExact : q.IsExact) (same : q.toBinary64? = some x) :
    q.Denotes x ∧ x.isNaN = false := by
  cases q with
  | int n =>
    obtain ⟨y,converted,integer⟩ := Binary64.ofInt_exact n isExact
    obtain rfl : y = x := Option.some.inj (converted.symm.trans same)
    exact ⟨integer,Binary64.isInteger_not_nan integer⟩
  | float y => cases same; exact ⟨rfl,isExact⟩

end TemplateSchema.Quantity
