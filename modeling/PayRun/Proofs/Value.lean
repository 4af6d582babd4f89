import Mathlib
import PayRun.Proofs.Bonus

/-!
# The value of an amount

An amount is read as a rational number (`Decimal.toRat`).  Sums, differences and products are those of the
values, and the order is that of the values, so the shortcuts for large powers of ten decide rightly.  A quotient
is the value divided and rounded to sixteen places, a half going away from zero (`Decimal.toRat_divNat`).
-/

namespace PayRun

/-- The whole number nearest to a rational number, a half going away from zero. -/
def roundAway (x : ℚ) : ℤ := if 0 ≤ x then ⌊x + 1 / 2⌋ else ⌈x - 1 / 2⌉

namespace Decimal

/-- The value of an amount. -/
def toRat (d : Decimal) : ℚ := d.coefficient * 10 ^ d.exponent

private theorem ten_zpow_pos (e : ℤ) : (0 : ℚ) < 10 ^ e := zpow_pos (by norm_num) e

/-! ### Sums and products -/

theorem toRat_ofInt (n : ℤ) : (ofInt n).toRat = n := by
  show (n : ℚ) * 10 ^ (0 : ℤ) = n
  rw [zpow_zero, mul_one]

theorem toRat_cents (n : ℤ) : (cents n).toRat = n / 100 := by
  show (n : ℚ) * 10 ^ (-2 : ℤ) = n / 100
  norm_num [zpow_neg, div_eq_mul_inv]

theorem toRat_zero : zero.toRat = 0 := by
  show ((0 : ℤ) : ℚ) * 10 ^ (1 : ℤ) = 0
  rw [Int.cast_zero, zero_mul]

/-- Rescaling keeps the value. -/
theorem coefficientAt_mul {d : Decimal} {e : ℤ} (h : e ≤ d.exponent) :
    (d.coefficientAt e : ℚ) * 10 ^ e = d.toRat := by
  have hk : ((d.exponent - e).toNat : ℤ) = d.exponent - e := Int.toNat_of_nonneg (by omega)
  rw [coefficientAt, scaleUp_eq, toRat]
  push_cast
  rw [mul_assoc, ← zpow_natCast, hk, ← zpow_add₀ (by norm_num), sub_add_cancel]

theorem toRat_add (a b : Decimal) : (a + b).toRat = a.toRat + b.toRat := by
  rw [← coefficientAt_mul (min_le_left a.exponent b.exponent),
    ← coefficientAt_mul (min_le_right a.exponent b.exponent)]
  rw [← add_mul, ← Int.cast_add]
  rfl

theorem toRat_neg (d : Decimal) : (-d).toRat = -d.toRat := by
  show ((-d.coefficient : ℤ) : ℚ) * 10 ^ d.exponent = -(d.coefficient * 10 ^ d.exponent)
  rw [Int.cast_neg, neg_mul]

theorem toRat_sub (a b : Decimal) : (a - b).toRat = a.toRat - b.toRat := by
  show (a + -b).toRat = _
  rw [toRat_add, toRat_neg, sub_eq_add_neg]

theorem toRat_mul {a b c : Decimal} (h : a.mul b = .ok c) : c.toRat = a.toRat * b.toRat := by
  obtain ⟨hc, he⟩ := mul_eq_ok h
  rw [toRat, toRat, toRat, hc, he, zpow_add₀ (by norm_num), Int.cast_mul]
  ring

/-! ### Order -/

theorem isNegative_iff {d : Decimal} : d.IsNegative ↔ d.toRat < 0 := by
  unfold IsNegative toRat
  rw [mul_neg_iff]
  simp [ten_zpow_pos d.exponent, (ten_zpow_pos d.exponent).le.not_gt]

theorem isPositive_iff {d : Decimal} : d.IsPositive ↔ 0 < d.toRat := by
  unfold IsPositive toRat
  rw [mul_pos_iff_of_pos_right (ten_zpow_pos _), Int.cast_pos]

theorem toRat_nonneg_iff {d : Decimal} : 0 ≤ d.toRat ↔ 0 ≤ d.coefficient := by
  rw [← not_lt, ← isNegative_iff]
  exact Int.not_lt

/-- A number is below any power of ten with an exponent beyond its binary length. -/
private theorem natAbs_lt_ten_pow {b : ℕ} {k : ℕ} (h : b.log2 < k) : b < 10 ^ k := by
  calc b < 2 ^ (b.log2 + 1) := Nat.lt_log2_self
    _ ≤ 2 ^ k := Nat.pow_le_pow_right (by norm_num) h
    _ ≤ 10 ^ k := Nat.pow_le_pow_left (by norm_num) k

/-- The shortcut for a large power of ten decides as the power does. -/
private theorem compareScaled_eq (a b : ℤ) (k : ℕ) : compareScaled a b k = Ord.compare (a * 10 ^ k) b := by
  unfold compareScaled
  split
  · rename_i h
    obtain ⟨ha, hb⟩ := h
    have hpow : (b.natAbs : ℤ) < 10 ^ k := by exact_mod_cast natAbs_lt_ten_pow hb
    rcases lt_or_gt_of_ne ha with hneg | hpos
    · have hle : a * 10 ^ k ≤ -1 * 10 ^ k := mul_le_mul_of_nonneg_right (by omega) (by positivity)
      rw [compare_lt_iff_lt.2 hneg, compare_lt_iff_lt.2 (by omega)]
    · have hle : 1 * 10 ^ k ≤ a * 10 ^ k := mul_le_mul_of_nonneg_right (by omega) (by positivity)
      rw [compare_gt_iff_gt.2 hpos, compare_gt_iff_gt.2 (show b < a * 10 ^ k by omega)]
  · rw [scaleUp_eq]

/-- Amounts at two exponents are compared at the lower one. -/
private theorem mul_ten_pow_lt_iff {a b : Decimal} (h : b.exponent ≤ a.exponent) :
    (a.coefficient * 10 ^ (a.exponent - b.exponent).toNat < b.coefficient ↔ a.toRat < b.toRat) ∧
      (b.coefficient < a.coefficient * 10 ^ (a.exponent - b.exponent).toNat ↔ b.toRat < a.toRat) := by
  have ha : a.toRat = ((a.coefficient * 10 ^ (a.exponent - b.exponent).toNat : ℤ) : ℚ) * 10 ^ b.exponent := by
    rw [← coefficientAt_mul h, coefficientAt, scaleUp_eq]
  rw [ha, toRat, mul_lt_mul_iff_left₀ (ten_zpow_pos _), mul_lt_mul_iff_left₀ (ten_zpow_pos _), Int.cast_lt,
    Int.cast_lt]
  exact ⟨Iff.rfl, Iff.rfl⟩

/-- The order of amounts is the order of their values. -/
theorem lt_iff_toRat_lt {a b : Decimal} : a < b ↔ a.toRat < b.toRat := by
  show a.compare b = .lt ↔ _
  unfold Decimal.compare
  split
  · rename_i h
    rw [compareScaled_eq, compare_lt_iff_lt]
    exact (mul_ten_pow_lt_iff h).1
  · rename_i h
    rw [Ordering.swap_eq_lt, compareScaled_eq, compare_gt_iff_gt]
    exact (mul_ten_pow_lt_iff (by omega)).2

/-! ### Quotients -/

private theorem nearest_eq_floor (a : ℕ) {b : ℕ} (hb : 0 < b) : (nearest a b : ℤ) = ⌊(a : ℚ) / b + 1 / 2⌋ := by
  have hb' : (b : ℚ) ≠ 0 := by positivity
  have hsum : (a : ℚ) / b + 1 / 2 = ((2 * a + b : ℕ) : ℚ) / ((2 * b : ℕ) : ℚ) := by
    push_cast
    field_simp
  rw [hsum, Rat.floor_natCast_div_natCast]
  rfl

/-- The shortcut for a large power of ten divides as the power does. -/
private theorem nearestBelow_eq (a : ℕ) {b : ℕ} (hb : 0 < b) (k : ℕ) :
    nearestBelow a b k = nearest a (b * 10 ^ k) := by
  unfold nearestBelow
  split
  · rename_i hk
    have htwice : 2 * a < 10 ^ k := by
      calc 2 * a < 2 * 2 ^ (a.log2 + 1) := by have := @Nat.lt_log2_self a; omega
        _ = 2 ^ (a.log2 + 1 + 1) := by ring
        _ ≤ 2 ^ k := Nat.pow_le_pow_right (by norm_num) hk
        _ ≤ 10 ^ k := Nat.pow_le_pow_left (by norm_num) k
    have hle : 10 ^ k ≤ b * 10 ^ k := Nat.le_mul_of_pos_left _ hb
    rw [nearest, Nat.div_eq_of_lt (by omega)]
  · rfl

/-- The size of a quotient at sixteen places. -/
private theorem quotientSize_eq_floor (d : Decimal) {n : ℕ} (hn : 0 < n) :
    (d.quotientSize n : ℤ) = ⌊|d.toRat| / n * 10 ^ 16 + 1 / 2⌋ := by
  have hn' : (n : ℚ) ≠ 0 := by positivity
  have habs : |d.toRat| / n * 10 ^ 16 = (d.coefficient.natAbs : ℚ) * 10 ^ (d.exponent + 16) / n := by
    rw [toRat, abs_mul, abs_of_pos (ten_zpow_pos _), zpow_add₀ (by norm_num), Nat.cast_natAbs, Int.cast_abs]
    norm_cast
    ring
  rw [habs]
  by_cases hshift : 0 ≤ d.exponent + 16
  · have hsize : d.quotientSize n = nearest (scaleUp d.coefficient (d.exponent + 16).toNat).natAbs n := if_pos hshift
    have hpow : (10 : ℚ) ^ (d.exponent + 16) = 10 ^ (d.exponent + 16).toNat := by
      rw [← zpow_natCast, Int.toNat_of_nonneg hshift]
    rw [hsize, nearest_eq_floor _ hn, scaleUp_eq, Int.natAbs_mul, Int.natAbs_pow, hpow]
    push_cast
    rfl
  · have hsize : d.quotientSize n = nearestBelow d.coefficient.natAbs n (-(d.exponent + 16)).toNat := if_neg hshift
    have hpow : (10 : ℚ) ^ (d.exponent + 16) = (10 ^ (-(d.exponent + 16)).toNat)⁻¹ := by
      rw [← zpow_natCast, Int.toNat_of_nonneg (by omega), zpow_neg, inv_inv]
    rw [hsize, nearestBelow_eq _ hn, nearest_eq_floor _ (by positivity), hpow]
    push_cast
    congr 2
    field_simp

end Decimal

/-! ### Rounding -/

theorem roundAway_of_nonneg {x : ℚ} (h : 0 ≤ x) : roundAway x = ⌊x + 1 / 2⌋ := if_pos h

theorem roundAway_neg (x : ℚ) : roundAway (-x) = -roundAway x := by
  rcases lt_trichotomy x 0 with h | rfl | h
  · have h' : ¬ 0 ≤ x := not_le.2 h
    rw [roundAway_of_nonneg (by linarith), roundAway, if_neg h', ← Int.floor_neg]
    congr 1
    ring
  · norm_num [roundAway]
  · have h' : ¬ 0 ≤ -x := by linarith
    rw [roundAway_of_nonneg h.le, roundAway, if_neg h', ← Int.ceil_neg]
    congr 1
    ring

theorem roundAway_nonneg {x : ℚ} (h : 0 ≤ x) : 0 ≤ roundAway x := by
  rw [roundAway_of_nonneg h]
  exact Int.floor_nonneg.2 (by linarith)

theorem roundAway_mono {x y : ℚ} (h : x ≤ y) : roundAway x ≤ roundAway y := by
  by_cases hx : 0 ≤ x
  · rw [roundAway_of_nonneg hx, roundAway_of_nonneg (hx.trans h)]
    exact Int.floor_mono (by linarith)
  · by_cases hy : 0 ≤ y
    · -- zero lies between the two, and keeps their roundings apart
      have hleft := roundAway_nonneg (x := -x) (by linarith)
      have hright := roundAway_nonneg hy
      rw [roundAway_neg] at hleft
      omega
    · rw [roundAway, roundAway, if_neg hx, if_neg hy]
      exact Int.ceil_mono (by linarith)

/-- A quotient is the quotient of the values, rounded to sixteen places. -/
theorem Decimal.toRat_divNat {d q : Decimal} {n : ℕ} (hn : 0 < n) (h : d.divNat n = .ok q) :
    q.toRat = roundAway (d.toRat / n * 10 ^ 16) / 10 ^ 16 := by
  have hq : q.toRat = (d.coefficient.sign * d.quotientSize n : ℤ) / 10 ^ 16 := by
    have hn' : n ≠ 0 := by omega
    unfold divNat at h
    rw [if_neg hn'] at h
    split at h
    · cases h
      rw [toRat, zpow_neg, div_eq_mul_inv]
      rfl
    · cases h
  have hround := roundAway_of_nonneg (show 0 ≤ |d.toRat| / n * 10 ^ 16 by positivity)
  rw [hq, d.quotientSize_eq_floor hn, ← hround]
  congr 2
  rcases lt_trichotomy d.coefficient 0 with hc | hc | hc
  · have hneg : d.toRat < 0 := isNegative_iff.1 hc
    have hflip : -d.toRat / n * 10 ^ 16 = -(d.toRat / n * 10 ^ 16) := by ring
    rw [Int.sign_eq_neg_one_of_neg hc, abs_of_neg hneg, hflip, roundAway_neg, neg_one_mul, neg_neg]
  · have hzero : d.toRat = 0 := by rw [toRat, hc, Int.cast_zero, zero_mul]
    rw [hc, hzero]
    norm_num [roundAway]
  · have hpos : 0 < d.toRat := isPositive_iff.1 hc
    rw [Int.sign_eq_one_of_pos hc, abs_of_pos hpos, one_mul]

end PayRun
