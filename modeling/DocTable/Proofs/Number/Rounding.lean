import DocTable.Number.Binary
import Mathlib.Algebra.Order.GroupWithZero.Basic
import Mathlib.Data.Nat.Digits.Defs

/-!
# Integers as doubles

An integer has a double nearest to it just below `doubleLimit`; from there on it is infinite,
whether it is rounded by its binary digits or read off its decimal ones.
-/

namespace DocTable

/-! ## Rounding -/

theorem le_divideToEven_iff {num den k : Nat} (positive : 0 < den) (even : k % 2 = 0) :
    k ≤ divideToEven num den ↔ 2 * (k * den) ≤ 2 * num + den := by
  have whole : num / den * den + num % den = num := Nat.div_add_mod' num den
  have rest : num % den < den := Nat.mod_lt num positive
  unfold divideToEven
  generalize num / den = q at *
  generalize num % den = r at *
  rcases Nat.lt_trichotomy k (q + 1) with below | rfl | above
  · have products : k * den ≤ q * den := Nat.mul_le_mul_right den (Nat.le_of_lt_succ below)
    have reached : 2 * (k * den) ≤ 2 * num + den := by omega
    simp only [reached, iff_true]
    split <;> omega
  · -- the number in front of an even one is odd, so half of the way is enough
    have product : (q + 1) * den = q * den + den := Nat.succ_mul q den
    have odd : ¬ q % 2 = 0 := by omega
    simp only [odd, decide_false, Bool.and_false, Bool.or_false, decide_eq_true_eq]
    split <;> omega
  · have products : (q + 2) * den ≤ k * den := Nat.mul_le_mul_right den above
    rw [Nat.add_mul] at products
    have missed : ¬ 2 * (k * den) ≤ 2 * num + den := by omega
    simp only [missed, iff_false]
    split <;> omega

theorem divideToEven_le (num den : Nat) : divideToEven num den ≤ num / den + 1 := by
  unfold divideToEven
  dsimp only
  split <;> omega

theorem divideToEven_one (n : Nat) : divideToEven n 1 = n := by
  simp [divideToEven, Nat.mod_one]

namespace BinaryFormat

variable {n : Nat}

theorem leadingExponent_one (positive : 0 < n) : leadingExponent n 1 = n.log2 := by
  have reaches : 2 ^ n.log2 ≤ n := Nat.log2_self_le (Nat.ne_of_gt positive)
  simp [leadingExponent, reaches, show Nat.log2 1 = 0 by decide]

/-- The binary digits that a double keeps of an integer, rounded at the last one. -/
def significand (n : Nat) : Nat :=
  if 52 ≤ n.log2 then divideToEven n (2 ^ (n.log2 - 52)) else n * 2 ^ (52 - n.log2)

theorem double_fieldsOfRatio_one (positive : 0 < n) :
    double.fieldsOfRatio n 1 =
      min double.infinityFields ((n.log2 + 1022) * 2 ^ 52 + significand n) := by
  have least : double.leastExponent = -1074 := by decide
  have bits : double.fractionBits = 52 := rfl
  have exponent : max ((n.log2 : Int) - 52) (-1074) = n.log2 - 52 := by omega
  have field : ((n.log2 : Int) - 52 - -1074).toNat = n.log2 + 1022 := by omega
  have digits : (if (0 : Int) ≤ n.log2 - 52 then
        divideToEven n (1 * Nat.pow 2 ((n.log2 : Int) - 52).toNat)
      else divideToEven (n * Nat.pow 2 (-((n.log2 : Int) - 52)).toNat) 1) = significand n := by
    unfold significand
    split
    · next reached =>
      rw [if_pos (by omega), Nat.one_mul, show ((n.log2 : Int) - 52).toNat = n.log2 - 52 by omega]
      rfl
    · next short =>
      rw [if_neg (by omega), divideToEven_one,
        show (-((n.log2 : Int) - 52)).toNat = 52 - n.log2 by omega]
      rfl
  rw [fieldsOfRatio, if_neg (Nat.ne_of_gt positive)]
  simp only [leadingExponent_one positive, bits, least, Nat.cast_ofNat, exponent, field, digits]
  rfl

theorem significand_bounds (positive : 0 < n) :
    2 ^ 52 ≤ significand n ∧ significand n ≤ 2 ^ 53 := by
  have least : 2 ^ n.log2 ≤ n := Nat.log2_self_le (Nat.ne_of_gt positive)
  have greatest : n < 2 ^ (n.log2 + 1) := Nat.lt_log2_self
  unfold significand
  split
  · next reached =>
    obtain ⟨shift, length⟩ := Nat.exists_eq_add_of_le reached
    have unit : 0 < 2 ^ shift := Nat.two_pow_pos shift
    rw [length, Nat.add_sub_cancel_left]
    rw [length] at least greatest
    constructor
    · rw [le_divideToEven_iff unit (by decide), ← Nat.pow_add]
      omega
    · have quotient : n / 2 ^ shift < 2 ^ 53 := by
        rw [Nat.div_lt_iff_lt_mul unit, ← Nat.pow_add]
        exact lt_of_lt_of_eq greatest (congrArg (2 ^ ·) (by omega))
      have := divideToEven_le n (2 ^ shift)
      omega
  · next short =>
    have length : n.log2 + (52 - n.log2) = 52 := by omega
    constructor
    · calc 2 ^ 52 = 2 ^ n.log2 * 2 ^ (52 - n.log2) := by rw [← Nat.pow_add, length]
        _ ≤ n * 2 ^ (52 - n.log2) := Nat.mul_le_mul_right _ least
    · calc n * 2 ^ (52 - n.log2) ≤ 2 ^ (n.log2 + 1) * 2 ^ (52 - n.log2) :=
          Nat.mul_le_mul_right _ (Nat.le_of_lt greatest)
        _ = 2 ^ 53 := by rw [← Nat.pow_add]; congr 1; omega

/-- Above the midpoint in front of a power of two an integer reaches that power, itself or by being
rounded. -/
theorem lt_midpoint_iff (positive : 0 < n) (k : Nat) :
    n < (2 ^ 54 - 1) * 2 ^ k ↔ n.log2 < 53 + k ∨ n.log2 = 53 + k ∧ significand n < 2 ^ 53 := by
  have least : 2 ^ n.log2 ≤ n := Nat.log2_self_le (Nat.ne_of_gt positive)
  have greatest : n < 2 ^ (n.log2 + 1) := Nat.lt_log2_self
  rcases Nat.lt_trichotomy n.log2 (53 + k) with short | length | long
  · have below := lt_of_lt_of_le greatest (Nat.pow_le_pow_right (by decide) short)
    rw [Nat.pow_add] at below
    simp only [short, true_or, iff_true]
    omega
  · have carries : 2 ^ 53 ≤ significand n ↔ 2 * (2 ^ 53 * 2 ^ (k + 1)) ≤ 2 * n + 2 ^ (k + 1) := by
      rw [significand, if_pos (by omega), show n.log2 - 52 = k + 1 by omega,
        le_divideToEven_iff (Nat.two_pow_pos (k + 1)) (by decide)]
    rw [Nat.pow_succ] at carries
    omega
  · have above := le_trans (Nat.pow_le_pow_right (by decide) (Nat.succ_le_of_lt long)) least
    rw [show (53 + k).succ = 54 + k by omega, Nat.pow_add] at above
    omega

/-- The midpoint in front of the power of two behind the greatest finite double. -/
def doubleLimit : Nat := (2 ^ 54 - 1) * 2 ^ 970

/-- Integers of 64 bits have doubles. -/
theorem two_pow_le_doubleLimit : 2 ^ 64 ≤ doubleLimit := by
  calc 2 ^ 64 ≤ (2 ^ 54 - 1) * 2 ^ 11 := by decide
    _ ≤ doubleLimit := Nat.mul_le_mul_left _ (pow_le_pow_right₀ (by decide) (by decide))

theorem doubleLimit_pos : 0 < doubleLimit :=
  Nat.lt_of_lt_of_le (by decide) two_pow_le_doubleLimit

theorem double_fieldsOfRatio_one_lt_iff (positive : 0 < n) :
    double.fieldsOfRatio n 1 < double.infinityFields ↔ n < doubleLimit := by
  have infinity : double.infinityFields = 2047 * 2 ^ 52 := rfl
  have digits := significand_bounds positive
  rw [double_fieldsOfRatio_one positive, infinity, doubleLimit, lt_midpoint_iff positive]
  omega

theorem fieldsOfRatio_le (format : BinaryFormat) (num den : Nat) :
    format.fieldsOfRatio num den ≤ format.infinityFields := by
  unfold fieldsOfRatio
  split
  · exact Nat.zero_le _
  · exact Nat.min_le_left ..

end BinaryFormat

/-! ## Finite doubles -/

namespace BinaryFloat

open BinaryFormat (doubleLimit)

section Format

variable {format : BinaryFormat} {negative : Bool} {fields : Nat}

theorem fields_ofFields (small : fields < 2 ^ (format.exponentBits + format.fractionBits)) :
    (ofFields negative fields : BinaryFloat format).fields = fields := by
  have divides : 2 ^ (format.exponentBits + format.fractionBits) ∣ 2 ^ format.width :=
    Nat.pow_dvd_pow 2 (by rw [BinaryFormat.width]; omega)
  simp only [BinaryFloat.fields, ofFields, BitVec.toNat_ofNat, Nat.pow_eq]
  rw [Nat.mod_mod_of_dvd _ divides]
  cases negative <;> simp [Nat.mod_eq_of_lt small]

theorem isFinite_iff {x : BinaryFloat format} :
    x.isFinite = true ↔ x.exponentField ≠ 2 ^ format.exponentBits - 1 := by
  unfold isFinite magnitude
  by_cases all : x.exponentField = 2 ^ format.exponentBits - 1
  · by_cases zero : x.fractionField = 0 <;> simp [all, zero]
  · by_cases zero : x.exponentField = 0
    · simp [← zero, all]
    · simp [all, zero]

theorem isFinite_ofFields (bound : fields ≤ format.infinityFields) :
    (ofFields negative fields : BinaryFloat format).isFinite = true ↔
      fields < format.infinityFields := by
  have unit : 0 < 2 ^ format.fractionBits := Nat.two_pow_pos _
  have ones : 0 < 2 ^ format.exponentBits := Nat.two_pow_pos _
  have infinity : format.infinityFields =
    (2 ^ format.exponentBits - 1) * 2 ^ format.fractionBits := rfl
  have small : fields < 2 ^ (format.exponentBits + format.fractionBits) := by
    have less : format.infinityFields < 2 ^ format.exponentBits * 2 ^ format.fractionBits := by
      rw [infinity]
      exact Nat.mul_lt_mul_of_pos_right (Nat.sub_lt ones Nat.one_pos) unit
    rw [Nat.pow_add]
    omega
  rw [isFinite_iff, exponentField, fields_ofFields small, Nat.pow_eq]
  have most : fields / 2 ^ format.fractionBits ≤ 2 ^ format.exponentBits - 1 :=
    Nat.div_le_of_le_mul (Nat.mul_comm .. ▸ bound)
  have reached : 2 ^ format.exponentBits - 1 ≤ fields / 2 ^ format.fractionBits ↔
      format.infinityFields ≤ fields := Nat.le_div_iff_mul_le unit
  omega

end Format

theorem isFinite_ofRatio_one (negative : Bool) (n : Nat) :
    (ofRatio negative n 1 : Binary64).isFinite = true ↔ n < doubleLimit := by
  rw [ofRatio, isFinite_ofFields (BinaryFormat.fieldsOfRatio_le ..)]
  rcases Nat.eq_zero_or_pos n with rfl | positive
  · have zero : BinaryFormat.double.fieldsOfRatio 0 1 = 0 := rfl
    simp only [zero, BinaryFormat.doubleLimit_pos, iff_true]
    decide
  · exact BinaryFormat.double_fieldsOfRatio_one_lt_iff positive

theorem doubleLimit_le_of_digits {n : Nat} (long : 400 < (Nat.toDigits 10 n).length) :
    doubleLimit ≤ n := by
  have decimal : 10 ^ 400 ≤ n := by
    by_contra short
    exact absurd (Nat.toDigits_length 10 n 400 (by decide) (by omega)) (by omega)
  have exponents : 54 + 970 ≤ 3 * 400 := by decide
  calc doubleLimit ≤ 2 ^ 54 * 2 ^ 970 := Nat.mul_le_mul_right _ (by decide)
    _ = 2 ^ (54 + 970) := by rw [pow_add]
    _ ≤ 2 ^ (3 * 400) := pow_le_pow_right₀ (by decide) exponents
    _ = (2 ^ 3) ^ 400 := pow_mul 2 3 400
    _ ≤ 10 ^ 400 := pow_le_pow_left₀ (by decide) (by decide) 400
    _ ≤ n := decimal

theorem ofDecimal_integer_eq_ofRatio (negative : Bool) (n : Nat) :
    (ofDecimal negative n 0 : Binary64) = ofRatio negative n 1 := by
  rw [ofDecimal_integer]
  split
  · next long =>
    have beyond := doubleLimit_le_of_digits long
    have positive : 0 < n := Nat.lt_of_lt_of_le BinaryFormat.doubleLimit_pos beyond
    have infinite := BinaryFormat.double_fieldsOfRatio_one_lt_iff positive
    have most := BinaryFormat.fieldsOfRatio_le .double n 1
    rw [ofRatio, Nat.le_antisymm most (by omega)]
  · rfl

end BinaryFloat

end DocTable
