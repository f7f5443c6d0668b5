import Mathlib.Algebra.Order.Ring.Abs
import TemplateSchema.Proofs.Number.Exact
/-!
Integers of any size as binary64 numbers. Beyond 53 bits an integer is rounded to the nearest
number there is, so the order of two numbers is kept except that different ones can meet; what is
above zero stays above it, and what is whole stays whole.
-/
set_option autoImplicit false
namespace TemplateSchema.Binary64

section Multiples

-- The distance of neighbouring binary64 numbers of the size of `n`, if they are integers.
def gap (n : Nat) : Nat :=
  2 ^ (Nat.log2 n - 52)

def rounded (n : Nat) : Nat :=
  roundHalfEven n (gap n) * gap n

theorem gap_positive (n : Nat) : 0 < gap n :=
  Nat.two_pow_pos _

theorem roundHalfEven_near (num : Nat) {den : Nat} (positive : 0 < den) :
    2 * |((roundHalfEven num den * den : Nat) : Int) - num| ≤ den := by
  have whole : den * (num / den) + num % den = num := Nat.div_add_mod num den
  have rest : num % den < den := Nat.mod_lt _ positive
  unfold roundHalfEven
  simp only
  split
  · rename_i up
    have above : (num / den + 1) * den = num + (den - num % den) := by
      rw [Nat.add_mul,Nat.mul_comm,Nat.one_mul]
      omega
    rw [above,abs_of_nonneg (by omega)]
    omega
  · rename_i down
    have below : num / den * den = num - num % den := by
      rw [Nat.mul_comm]
      omega
    rw [below,abs_of_nonpos (by omega)]
    omega

-- No multiple of the gap is nearer: the next one is at least half a gap away.
theorem rounded_near (n : Nat) (j : Int) : |(rounded n : Int) - n| ≤ |j * gap n - n| := by
  have near := roundHalfEven_near n (gap_positive n)
  change 2 * |(rounded n : Int) - n| ≤ gap n at near
  by_cases same : j = roundHalfEven n (gap n)
  · rw [same]
    exact le_of_eq (by rw [rounded]; push_cast; rfl)
  · have apart : (gap n : Int) ≤ |j * gap n - rounded n| := by
      have factored : j * gap n - rounded n = (j - roundHalfEven n (gap n)) * gap n := by
        rw [rounded]
        push_cast
        ring
      rw [factored,abs_mul,abs_of_nonneg (Int.natCast_nonneg (gap n))]
      exact le_mul_of_one_le_left (Int.natCast_nonneg _) (Int.one_le_abs (sub_ne_zero.mpr same))
    have between : |j * gap n - rounded n| ≤ |j * gap n - n| + |(rounded n : Int) - n| := by
      rw [abs_sub_comm (rounded n : Int) n]
      exact abs_sub_le _ _ _
    omega

end Multiples

section Nearest

variable {x y : Binary64} {v w p q : Rat} {n : Nat}

theorem value_form (value : y.toRat? = some q) :
    ∃ m e, m < 2 ^ 53 ∧ (q = magnitude m e ∨ q = -magnitude m e) := by
  cases y with
  | finite negative m e canonical =>
    refine ⟨m,e,canonical.1,?_⟩
    cases negative <;> cases value
    · exact .inl rfl
    · exact .inr rfl
  | infinite => cases value
  | nan => cases value

-- Numbers on a finer grid are all below the power of two that `n` begins with.
theorem fine_below {m : Nat} {e : Int} (bits : m < 2 ^ 53) (fine : e < (Nat.log2 n - 52 : Nat)) :
    magnitude m e ≤ (2 ^ 52 * gap n : Nat) := by
  have exponent : e + 1 ≤ (Nat.log2 n - 52 : Nat) := fine
  have power : (2 : Rat) ^ (e + 1) ≤ 2 ^ ((Nat.log2 n - 52 : Nat) : Int) := zpow_le_zpow_right₀ one_le_two exponent
  calc magnitude m e = m * 2 ^ e := rfl
    _ ≤ 2 ^ 53 * 2 ^ e := by
        have few : (m : Rat) ≤ 2 ^ 53 := by exact_mod_cast bits.le
        exact mul_le_mul_of_nonneg_right few (zpow_nonneg zero_le_two e)
    _ = 2 ^ 52 * 2 ^ (e + 1) := by rw [zpow_add_one₀ two_ne_zero]; ring
    _ ≤ 2 ^ 52 * 2 ^ ((Nat.log2 n - 52 : Nat) : Int) := mul_le_mul_of_nonneg_left power (pow_nonneg zero_le_two 52)
    _ = (2 ^ 52 * gap n : Nat) := by rw [gap]; push_cast; rfl

theorem gap_below (positive : n ≠ 0) (large : 0 < Nat.log2 n - 52) : 2 ^ 52 * gap n ≤ n := by
  have first : 2 ^ 52 * gap n = 2 ^ Nat.log2 n := by
    rw [gap,← Nat.pow_add]
    congr 1
    omega
  rw [first]
  exact Nat.log2_self_le positive

-- Numbers on the grid of the gap are multiples of it.
theorem coarse_multiple {m : Nat} {e : Int} (coarse : ((Nat.log2 n - 52 : Nat) : Int) ≤ e) :
    ∃ j : Nat, magnitude m e = ((j * gap n : Nat) : Rat) := by
  obtain ⟨d,rfl⟩ := Int.le.dest coarse
  refine ⟨m * 2 ^ d,?_⟩
  rw [magnitude,gap,zpow_add₀ two_ne_zero,zpow_natCast,zpow_natCast]
  push_cast
  ring

theorem magnitude_nonneg (m : Nat) (e : Int) : 0 ≤ magnitude m e :=
  mul_nonneg (Nat.cast_nonneg m) (zpow_nonneg zero_le_two e)

theorem rounded_small (small : Nat.log2 n - 52 = 0) : rounded n = n := by
  rw [rounded,gap,small,pow_zero,roundHalfEven_one,Nat.mul_one]

theorem nearest_fine {m : Nat} {e : Int} (positive : n ≠ 0) (bits : m < 2 ^ 53)
    (fine : e < (Nat.log2 n - 52 : Nat)) (below : q ≤ magnitude m e) : |(rounded n : Rat) - n| ≤ |q - n| := by
  by_cases small : Nat.log2 n - 52 = 0
  · rw [rounded_small small,sub_self,abs_zero]
    exact abs_nonneg _
  · have first := gap_below positive (Nat.pos_of_ne_zero small)
    have size := below.trans (fine_below bits fine)
    have near := rounded_near n ((2 ^ 52 : Nat) : Int)
    rw [← Nat.cast_mul] at near
    generalize 2 ^ 52 * gap n = least at first size near
    have first : (least : Rat) ≤ n := by exact_mod_cast first
    calc |(rounded n : Rat) - n| ≤ |(least : Rat) - n| := by exact_mod_cast near
      _ = n - least := by rw [abs_sub_comm,abs_of_nonneg (sub_nonneg.mpr first)]
      _ ≤ n - q := sub_le_sub_left size _
      _ ≤ |q - n| := by rw [abs_sub_comm]; exact le_abs_self _

theorem nearest_coarse {m : Nat} {e : Int} (coarse : ((Nat.log2 n - 52 : Nat) : Int) ≤ e)
    (form : q = magnitude m e ∨ q = -magnitude m e) : |(rounded n : Rat) - n| ≤ |q - n| := by
  obtain ⟨j,multiple⟩ := coarse_multiple (m := m) coarse
  have near (k : Int) (same : q = k * gap n) : |(rounded n : Rat) - n| ≤ |q - n| := by
    rw [same]
    exact_mod_cast rounded_near n k
  rcases form with rfl | rfl
  · exact near j (by rw [multiple]; push_cast; rfl)
  · exact near (-j) (by rw [multiple]; push_cast; ring)

theorem rounded_nearest (positive : n ≠ 0) (value : y.toRat? = some q) : |(rounded n : Rat) - n| ≤ |q - n| := by
  obtain ⟨m,e,bits,form⟩ := value_form value
  rcases Int.lt_or_le e ((Nat.log2 n - 52 : Nat) : Int) with fine | coarse
  · have above := magnitude_nonneg m e
    refine nearest_fine positive bits fine ?_
    rcases form with rfl | rfl
    · exact le_rfl
    · linarith
  · exact nearest_coarse coarse form

end Nearest

section Integers

variable {x y : Binary64} {v w q : Rat} {n : Int}

def signed (negative : Bool) (q : Rat) : Rat :=
  if negative then -q else q

-- A carry into a 54th bit moves the number to the next exponent, and keeps it.
theorem pack_value {negative : Bool} {m : Nat} {e : Int} (finite : (pack negative m e).isFinite = true) :
    (pack negative m e).toRat? = some (signed negative (magnitude m e)) := by
  unfold pack at finite ⊢
  split
  · rfl
  · split
    · rename_i carry
      have moved : magnitude (Nat.pow 2 52) (e + 1) = magnitude m e := by
        rw [carry.1,magnitude,magnitude,zpow_add_one₀ two_ne_zero,Nat.pow_eq,Nat.pow_eq]
        push_cast
        ring
      rw [toRat?,moved]
      rfl
    · rename_i small large
      rw [dif_neg small,dif_neg large] at finite
      cases finite

theorem finite_integral {negative : Bool} {m : Nat} {e : Int} (canonical : IsCanonical m e) (whole : 0 ≤ e) :
    (finite negative m e canonical).isIntegral = true := by
  have unit : (-e).toNat = 0 := by omega
  simp only [isIntegral,toInt?,unit,Nat.pow_eq,Nat.pow_zero,Nat.mod_one,if_true,Option.isSome_some]

theorem pack_integral {negative : Bool} {m : Nat} {e : Int} (whole : 0 ≤ e)
    (finite : (pack negative m e).isFinite = true) : (pack negative m e).isIntegral = true := by
  unfold pack at finite ⊢
  split
  · exact finite_integral _ whole
  · split
    · exact finite_integral _ (by omega)
    · rename_i small large
      rw [dif_neg small,dif_neg large] at finite
      cases finite

theorem ofRatio_large (negative : Bool) {n : Nat} (large : 52 < Nat.log2 n) :
    ofRatio negative n 1 = pack negative (roundHalfEven n (gap n)) ((Nat.log2 n : Int) - 52) := by
  have positive : n ≠ 0 := by
    rintro rfl
    exact absurd large (by decide)
  have exponent : max ((Nat.log2 n : Int) - 52) (-1074) = (Nat.log2 n : Int) - 52 := by omega
  have up : (-((Nat.log2 n : Int) - 52)).toNat = 0 := by omega
  have down : ((Nat.log2 n : Int) - 52).toNat = Nat.log2 n - 52 := by omega
  simp only [ofRatio,positive,if_false,binaryExponent_one n positive,exponent,up,down]
  rw [Nat.pow_eq,Nat.pow_eq,Nat.pow_zero,Nat.mul_one,Nat.one_mul]
  rfl

theorem ofRatio_value {negative : Bool} {n : Nat} (finite : (ofRatio negative n 1).isFinite = true) :
    (ofRatio negative n 1).toRat? = some (signed negative (rounded n)) := by
  by_cases none_ : n = 0
  · subst none_
    have nothing : rounded 0 = 0 := rounded_small (by decide)
    cases negative <;> simp [ofRatio,zero,toRat?,magnitude,signed,nothing]
  rcases Nat.lt_or_ge 52 (Nat.log2 n) with large | small
  · rw [ofRatio_large negative large] at finite ⊢
    have exponent : (Nat.log2 n : Int) - 52 = ((Nat.log2 n - 52 : Nat) : Int) := by omega
    rw [pack_value finite,magnitude,exponent,zpow_natCast,rounded,gap]
    push_cast
    rfl
  · have bits : n < 2 ^ 53 := (Nat.log2_lt none_).mp (by omega)
    rw [toRat_aligned negative n none_ bits,rounded_small (by omega)]
    rfl

theorem ofInt_ratio (converted : ofInt? n = some x) :
    x = ofRatio (n < 0) n.natAbs 1 ∧ (ofRatio (n < 0) n.natAbs 1).isFinite = true := by
  unfold ofInt? at converted
  split at converted
  · rename_i same
    cases converted
    exact ⟨same.symm,by rw [same]; rfl⟩
  · cases converted

theorem ofInt_integral (converted : ofInt? n = some x) : x.isIntegral = true := by
  obtain ⟨rfl,finite⟩ := ofInt_ratio converted
  rcases Nat.lt_or_ge 52 (Nat.log2 n.natAbs) with large | small
  · rw [ofRatio_large _ large] at finite ⊢
    exact pack_integral (by omega) finite
  · have bits : n.natAbs < 2 ^ 53 := by
      by_cases none_ : n.natAbs = 0
      · omega
      · exact (Nat.log2_lt none_).mp (by omega)
    obtain ⟨y,again,integer⟩ := ofInt_exact n bits
    obtain rfl := Option.some.inj (again.symm.trans converted)
    rw [isIntegral,integer.2]
    rfl

-- The finite number that comes nearest to a rational one.
def IsNearest (x : Binary64) (q : Rat) : Prop :=
  ∃ v, x.toRat? = some v ∧ ∀ {y : Binary64} {r : Rat}, y.toRat? = some r → |v - q| ≤ |r - q|

theorem negated_value (value : y.toRat? = some q) : ∃ z : Binary64, z.toRat? = some (-q) := by
  cases y with
  | finite negative m e canonical =>
    refine ⟨.finite (!negative) m e canonical,?_⟩
    cases negative <;> cases value <;> simp [toRat?]
  | infinite => cases value
  | nan => cases value

theorem ofInt_nearest (converted : ofInt? n = some x) : x.IsNearest n := by
  obtain ⟨rfl,finite⟩ := ofInt_ratio converted
  refine ⟨_,ofRatio_value finite,?_⟩
  intro y r value
  by_cases none_ : n.natAbs = 0
  · have zero_ : n = 0 := by omega
    subst zero_
    have nothing : rounded 0 = 0 := rounded_small (by decide)
    simp [signed,nothing]
  rcases Int.lt_or_le n 0 with below | above
  · have size : (n : Rat) = -(n.natAbs : Rat) := by
      have opposite : n = -(n.natAbs : Int) := by omega
      exact_mod_cast opposite
    have left : signed (n < 0) (rounded n.natAbs) - n = -((rounded n.natAbs : Rat) - n.natAbs) := by
      rw [signed,if_pos (decide_eq_true below),size]
      ring
    have right : r - n = -(-r - n.natAbs) := by
      rw [size]
      ring
    obtain ⟨z,opposite⟩ := negated_value value
    rw [left,right,abs_neg,abs_neg]
    exact rounded_nearest none_ opposite
  · have size : (n : Rat) = (n.natAbs : Rat) := by
      have same : n = (n.natAbs : Int) := by omega
      rw [← Int.cast_natCast,← same]
    have left : signed (n < 0) (rounded n.natAbs) = rounded n.natAbs := by
      rw [signed,if_neg (by simpa using above)]
    rw [left,size]
    exact rounded_nearest none_ value

end Integers

section Order

variable {x y : Binary64} {v w p q r : Rat} {n : Int}

-- What is nearer to the first of two numbers lies on its side of the middle.
theorem nearer_first (near : |v - p| ≤ |w - p|) (less : v < w) : 2 * p ≤ v + w := by
  have product : 0 ≤ (w - v) * (v + w - 2 * p) :=
    calc 0 ≤ (w - p) ^ 2 - (v - p) ^ 2 := sub_nonneg.mpr (sq_le_sq.mpr near)
      _ = (w - v) * (v + w - 2 * p) := by ring
  have side := nonneg_of_mul_nonneg_right product (sub_pos.mpr less)
  linarith

theorem nearer_second (near : |w - q| ≤ |v - q|) (less : v < w) : v + w ≤ 2 * q := by
  have product : 0 ≤ (w - v) * (2 * q - (v + w)) :=
    calc 0 ≤ (v - q) ^ 2 - (w - q) ^ 2 := sub_nonneg.mpr (sq_le_sq.mpr near)
      _ = (w - v) * (2 * q - (v + w)) := by ring
  have side := nonneg_of_mul_nonneg_right product (sub_pos.mpr less)
  linarith

theorem IsNearest.valued (nearest : x.IsNearest q) : ∃ v, x.toRat? = some v := by
  obtain ⟨v,own,_⟩ := nearest
  exact ⟨v,own⟩

theorem IsNearest.near (nearest : x.IsNearest q) (own : x.toRat? = some v) (value : y.toRat? = some r) :
    |v - q| ≤ |r - q| := by
  obtain ⟨a,first,closest⟩ := nearest
  obtain rfl := Option.some.inj (first.symm.trans own)
  exact closest value

theorem nearest_le (left : x.IsNearest p) (right : y.IsNearest q) (first : x.toRat? = some v)
    (second : y.toRat? = some w) (less : v < w) : p ≤ q := by
  have below := nearer_first (left.near first second) less
  have above := nearer_second (right.near second first) less
  linarith

theorem nearest_above (nearest : x.IsNearest q) (own : x.toRat? = some v) (value : y.toRat? = some r)
    (less : r < v) : r < q := by
  have middle := nearer_second (nearest.near own value) less
  linarith

theorem nearest_below (nearest : x.IsNearest q) (own : x.toRat? = some v) (value : y.toRat? = some r)
    (less : v < r) : q < r := by
  have middle := nearer_first (nearest.near own value) less
  linarith

theorem gtInt_rat (value : y.toRat? = some v) : y.gtInt n = decide ((n : Rat) < v) := by
  cases y with
  | finite => simp only [gtInt,value]
  | infinite => cases value
  | nan => cases value

theorem ltInt_rat (value : x.toRat? = some v) : x.ltInt n = decide (v < (n : Rat)) := by
  cases x with
  | finite => simp only [ltInt,value]
  | infinite => cases value
  | nan => cases value

theorem ltInt_asymm (above : y.gtInt n = true) : y.ltInt n = false := by
  cases y with
  | finite negative m e canonical =>
    rw [gtInt_rat rfl,decide_eq_true_eq] at above
    rw [ltInt_rat rfl,decide_eq_false_iff_not]
    exact not_lt_of_gt above
  | infinite negative => simpa [gtInt,ltInt] using above
  | nan => rfl

theorem same_comm (x y : Binary64) : x.same y = y.same x := by
  unfold same
  cases x.isNaN <;> cases y.isNaN <;> cases x.lt y <;> cases y.lt x <;> rfl

theorem lt_infinite {negative : Bool} (value : x.toRat? = some v) : x.lt (.infinite negative) = !negative := by
  cases x with
  | finite => rfl
  | infinite => cases value
  | nan => cases value

theorem infinite_lt {negative : Bool} (value : x.toRat? = some v) : (infinite negative).lt x = negative := by
  cases x with
  | finite => rfl
  | infinite => cases value
  | nan => cases value

theorem gtInt_rounded (nearest : x.IsNearest n) (less : x.lt y = true) : y.gtInt n = true := by
  obtain ⟨v,own⟩ := nearest.valued
  cases y with
  | finite negative m e canonical =>
    rw [lt_rat own rfl,decide_eq_true_eq] at less
    rw [gtInt_rat rfl,decide_eq_true_eq]
    exact nearest_below (y := .finite negative m e canonical) nearest own rfl less
  | infinite negative => rwa [lt_infinite own] at less
  | nan => cases x <;> cases less

theorem ltInt_rounded (nearest : y.IsNearest n) (less : x.lt y = true) : x.ltInt n = true := by
  obtain ⟨v,own⟩ := nearest.valued
  cases x with
  | finite negative m e canonical =>
    rw [lt_rat rfl own,decide_eq_true_eq] at less
    rw [ltInt_rat rfl,decide_eq_true_eq]
    exact nearest_above (y := .finite negative m e canonical) nearest own rfl less
  | infinite negative => rwa [infinite_lt own] at less
  | nan => cases less

-- An integer above zero is at least one, which is a binary64 number, and stays so.
theorem positive_rounded (converted : ofInt? n = some x) (positive : 0 < n) : (zero false).lt x = true := by
  have nearest := ofInt_nearest converted
  obtain ⟨v,own⟩ := nearest.valued
  obtain ⟨one,_,integer⟩ := ofInt_exact 1 (by decide)
  have above : 1 ≤ v := by
    by_contra below
    rw [not_le] at below
    have small : (n : Rat) < ((1 : Int) : Rat) := nearest_below nearest own integer.1 (by simpa using below)
    have least : n < 1 := by exact_mod_cast small
    omega
  rw [lt_rat zero_isInteger.1 own,decide_eq_true_eq]
  exact lt_of_lt_of_le (by norm_num) above

-- Integers that are rounded apart are not the same, so the order between them is strict.
theorem int_rounded {m : Int} (left : ofInt? m = some x) (right : ofInt? n = some y) (less : x.lt y = true) :
    m < n := by
  have near := ofInt_nearest left
  have close := ofInt_nearest right
  obtain ⟨v,own⟩ := near.valued
  obtain ⟨w,other⟩ := close.valued
  rw [lt_rat own other,decide_eq_true_eq] at less
  have ordered : (m : Rat) ≤ n := nearest_le near close own other less
  have different : m ≠ n := by
    rintro rfl
    obtain rfl := Option.some.inj (left.symm.trans right)
    obtain rfl := Option.some.inj (own.symm.trans other)
    exact lt_irrefl _ less
  exact lt_of_le_of_ne (by exact_mod_cast ordered) different

end Order

end TemplateSchema.Binary64

namespace TemplateSchema.Quantity

open Binary64 (ofInt_nearest)

variable {q r : Quantity} {x y : Binary64}

theorem rounded_number {n : Int} (converted : Binary64.ofInt? n = some x) : x.isNaN = false := by
  obtain ⟨v,own⟩ := (ofInt_nearest converted).valued
  cases x with
  | nan => cases own
  | _ => rfl

-- What is in order after rounding was in order before.
theorem lt_rounded (left : q.toBinary64? = some x) (right : r.toBinary64? = some y) (less : x.lt y = true) :
    q.lt r = true := by
  cases q with
  | int m =>
    cases r with
    | int n => exact decide_eq_true (Binary64.int_rounded left right less)
    | float z => cases right; exact Binary64.gtInt_rounded (ofInt_nearest left) less
  | float z =>
    cases left
    cases r with
    | int n => exact Binary64.ltInt_rounded (ofInt_nearest right) less
    | float w => cases right; exact less

theorem isIntegral_rounded (converted : q.toBinary64? = some x) : q.isIntegral = x.isIntegral := by
  cases q with
  | int n => rw [Binary64.ofInt_integral converted]; rfl
  | float z => cases converted; rfl

theorem isPositive_rounded (converted : q.toBinary64? = some x) : q.isPositive = (Binary64.zero false).lt x := by
  cases q with
  | int n =>
    rw [Bool.eq_iff_iff]
    constructor
    · intro positive
      exact Binary64.positive_rounded converted (of_decide_eq_true positive)
    · intro positive
      have nothing : (Quantity.int 0).toBinary64? = some (Binary64.zero false) := rfl
      exact lt_rounded (r := .int n) nothing converted positive
  | float z =>
    cases converted
    exact Binary64.gtInt_exact Binary64.zero_isInteger

theorem lt_asymm (less : q.lt r = true) : r.lt q = false := by
  cases q with
  | int m =>
    cases r with
    | int n => exact decide_eq_false (not_lt_of_gt (of_decide_eq_true less))
    | float y => exact Binary64.ltInt_asymm less
  | float x =>
    cases r with
    | int n =>
      cases above : x.gtInt n with
      | false => exact above
      | true => exact absurd ((Binary64.ltInt_asymm above).symm.trans less) Bool.false_ne_true
    | float y => exact Binary64.lt_asymm less

-- A number below another, unless both are rounded to the same.
theorem le_rounded (left : q.toBinary64? = some x) (right : r.toBinary64? = some y) (number : x.isNaN = false)
    (bound : y.isNaN = false) (told : q.lt r = true → x.same y = false) : y.le x = !q.lt r := by
  rw [Binary64.le_not_lt bound number]
  cases less : q.lt r with
  | false =>
    cases rounded : x.lt y with
    | false => rfl
    | true => rw [lt_rounded left right rounded] at less; cases less
  | true =>
    have apart := told less
    cases rounded : x.lt y with
    | true => rfl
    | false =>
      have reversed : y.lt x = true := by
        simpa [Binary64.same,number,bound,rounded] using apart
      have asymmetric := lt_asymm (lt_rounded right left reversed)
      rw [less] at asymmetric
      cases asymmetric

end TemplateSchema.Quantity
