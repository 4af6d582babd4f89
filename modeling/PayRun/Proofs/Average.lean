import Mathlib
import PayRun.Proofs.Monotone

/-!
# The daily average

What it means to round to a multiple of a unit is said without an algorithm (`NearestMultiple`): no other multiple is
nearer, and one that is as near is not farther from zero.  There is exactly one such multiple, and it is what
`roundAway` gives (`nearestMultiple_iff`).

* The daily average of any net salary, of either sign and at any exponent, is the multiple of `10 ^ -16` nearest to
  the quotient, so that it misses the quotient by half a unit at most and is exact where sixteen places are enough.
  It changes its sign with the net salary (`averageDaily_neg`), and it is monotone in it (`averageDaily_rounds`).
-/

namespace PayRun

/-! ### Nearest multiples -/

/-- The multiple of a unit that is nearest to a number, and of two the one that is farther from zero. -/
structure NearestMultiple (unit x q : ℚ) : Prop where
  multiple : ∃ m : ℤ, q = m * unit
  nearest : ∀ k : ℤ, |x - q| ≤ |x - k * unit|
  away : ∀ k : ℤ, |x - k * unit| = |x - q| → |k * unit| ≤ |q|

/-- There is one nearest multiple only. -/
private theorem NearestMultiple.unique {unit x q q' : ℚ} (h : NearestMultiple unit x q)
    (h' : NearestMultiple unit x q') :
    q = q' := by
  obtain ⟨m, hm⟩ := h.multiple
  obtain ⟨m', hm'⟩ := h'.multiple
  have hdistance : |x - q| = |x - q'| := by
    apply le_antisymm
    · rw [hm']
      exact h.nearest m'
    · rw [hm]
      exact h'.nearest m
  have hsize : |q| = |q'| := by
    apply le_antisymm
    · rw [hm] at hdistance ⊢
      exact h'.away m hdistance
    · rw [hm'] at hdistance ⊢
      exact h.away m' hdistance.symm
  rcases abs_eq_abs.1 hsize with heq | hneg
  · exact heq
  · -- two multiples on the two sides of zero are equally near to zero alone, and zero is a multiple itself
    have hzero : q' = 0 := by
      rw [hneg] at hdistance
      rcases abs_eq_abs.1 hdistance with hsame | hflip
      · linarith
      · have hx : x = 0 := by linarith
        have hnear := h'.nearest 0
        rw [hx, Int.cast_zero, zero_mul, sub_zero, abs_zero, zero_sub, abs_neg] at hnear
        exact abs_nonpos_iff.1 hnear
    rw [hneg, hzero, neg_zero]

private theorem NearestMultiple.neg {unit x q : ℚ} (h : NearestMultiple unit x q) :
    NearestMultiple unit (-x) (-q) := by
  have hflip : ∀ k : ℤ, |-x - k * unit| = |x - (-k : ℤ) * unit| := by
    intro k
    rw [← abs_neg]
    congr 1
    push_cast
    ring
  have hdistance : |-x - -q| = |x - q| := by
    rw [← abs_neg]
    congr 1
    ring
  obtain ⟨m, hm⟩ := h.multiple
  refine ⟨⟨-m, ?_⟩, ?_, ?_⟩
  · rw [hm]
    push_cast
    ring
  · intro k
    rw [hdistance, hflip]
    exact h.nearest (-k)
  · intro k hk
    rw [hdistance, hflip] at hk
    have haway := h.away (-k) hk
    rw [Int.cast_neg, neg_mul, abs_neg] at haway
    rw [abs_neg]
    exact haway

/-- A half goes up on the right of zero, so that no other whole number is as near and larger. -/
private theorem nearest_roundAway_of_nonneg {x : ℚ} (h : 0 ≤ x) (k : ℤ) :
    |x - roundAway x| ≤ |x - k| ∧ (|x - k| = |x - roundAway x| → |(k : ℚ)| ≤ |(roundAway x : ℚ)|) := by
  have hnonneg : (0 : ℚ) ≤ roundAway x := by exact_mod_cast roundAway_nonneg h
  have hlow : (roundAway x : ℚ) ≤ x + 1 / 2 := by
    rw [roundAway_of_nonneg h]
    exact Int.floor_le _
  have hhigh : x + 1 / 2 < roundAway x + 1 := by
    rw [roundAway_of_nonneg h]
    exact Int.lt_floor_add_one _
  have hhalf : |x - roundAway x| ≤ 1 / 2 := abs_le.2 ⟨by linarith, by linarith⟩
  rcases lt_trichotomy k (roundAway x) with hk | hk | hk
  · have hstep : (k : ℚ) + 1 ≤ roundAway x := by exact_mod_cast hk
    have hleft : |x - k| = x - k := abs_of_nonneg (by linarith)
    refine ⟨by rw [hleft]; linarith, ?_⟩
    intro htie
    -- a tie puts `x` in the middle, at or above zero
    rw [hleft] at htie
    rw [abs_of_nonneg hnonneg]
    rcases abs_choice (x - roundAway x) with habs | habs
    · rw [habs] at htie
      linarith
    · rw [habs] at htie
      exact abs_le.2 ⟨by linarith, by linarith⟩
  · rw [hk]
    exact ⟨le_rfl, fun _ => le_rfl⟩
  · have hstep : (roundAway x : ℚ) + 1 ≤ k := by exact_mod_cast hk
    have hright : |x - k| = k - x := by
      rw [abs_sub_comm]
      exact abs_of_nonneg (by linarith)
    rw [hright]
    refine ⟨by linarith, ?_⟩
    intro htie
    linarith

/-- Distances from multiples, counted in units. -/
private theorem abs_sub_mul_unit {unit : ℚ} (hunit : 0 < unit) (x : ℚ) (k : ℤ) :
    |x - k * unit| = |x / unit - k| * unit := by
  have hdiv : x - k * unit = (x / unit - k) * unit := by
    field_simp
  rw [hdiv, abs_mul, abs_of_pos hunit]

private theorem nearestMultiple_roundAway {unit : ℚ} (hunit : 0 < unit) (x : ℚ) :
    NearestMultiple unit x (roundAway (x / unit) * unit) := by
  have hnonneg : ∀ y : ℚ, 0 ≤ y → NearestMultiple unit y (roundAway (y / unit) * unit) := by
    intro y hy
    have hround := nearest_roundAway_of_nonneg (div_nonneg hy hunit.le)
    refine ⟨⟨_, rfl⟩, ?_, ?_⟩
    · intro k
      rw [abs_sub_mul_unit hunit, abs_sub_mul_unit hunit]
      exact mul_le_mul_of_nonneg_right (hround k).1 hunit.le
    · intro k htie
      rw [abs_sub_mul_unit hunit, abs_sub_mul_unit hunit, mul_left_inj' hunit.ne'] at htie
      rw [abs_mul, abs_mul]
      exact mul_le_mul_of_nonneg_right ((hround k).2 htie) (abs_nonneg unit)
  rcases le_total 0 x with hx | hx
  · exact hnonneg x hx
  · have hneg := (hnonneg (-x) (by linarith)).neg
    rw [neg_div, roundAway_neg, Int.cast_neg, neg_mul, neg_neg, neg_neg] at hneg
    exact hneg

theorem nearestMultiple_iff {unit : ℚ} (hunit : 0 < unit) {x q : ℚ} :
    NearestMultiple unit x q ↔ q = roundAway (x / unit) * unit := by
  constructor
  · intro h
    exact h.unique (nearestMultiple_roundAway hunit x)
  · rintro rfl
    exact nearestMultiple_roundAway hunit x

/-- The nearest multiple misses a number by half a unit at most. -/
private theorem NearestMultiple.error_le {unit x q : ℚ} (hunit : 0 < unit) (h : NearestMultiple unit x q) :
    |x - q| ≤ unit / 2 := by
  have hround := abs_sub_round (x / unit)
  calc |x - q| ≤ |x - round (x / unit) * unit| := h.nearest _
    _ = |x / unit - round (x / unit)| * unit := abs_sub_mul_unit hunit x _
    _ ≤ 1 / 2 * unit := mul_le_mul_of_nonneg_right hround hunit.le
    _ = unit / 2 := by ring

/-- A multiple of the unit is its own nearest multiple. -/
private theorem NearestMultiple.exact {unit x q : ℚ} (h : NearestMultiple unit x q) {k : ℤ} (hx : x = k * unit) :
    q = x := by
  have hnear := h.nearest k
  rw [← hx, sub_self, abs_zero] at hnear
  have hzero := abs_nonpos_iff.1 hnear
  linarith

/-! ### Quotients -/

private theorem Decimal.coefficient_neg (d : Decimal) : (-d).coefficient = -d.coefficient := rfl

private theorem Decimal.quotientSize_neg (d : Decimal) (n : ℕ) : (-d).quotientSize n = d.quotientSize n := by
  simp only [quotientSize, coefficient_neg, exponent_neg, scaleUp_eq, neg_mul, Int.natAbs_neg]

private theorem Decimal.divNat_neg (d : Decimal) (n : ℕ) : (-d).divNat n = (d.divNat n).map fun q => -q := by
  unfold divNat
  rw [exponent_neg, quotientSize_neg, coefficient_neg]
  split
  · rfl
  · split
    · refine congrArg Except.ok (Decimal.ext ?_ rfl)
      show (-d.coefficient).sign * _ = -(d.coefficient.sign * _)
      rw [Int.sign_neg, neg_mul]
    · rfl

/-- The daily average changes its sign with the net salary, and fails for the same reasons. -/
theorem averageDaily_neg (net : Decimal) (days : Int64) :
    averageDaily (-net) days = (averageDaily net days).map fun q => -q := by
  unfold averageDaily
  split
  · rfl
  · rw [Decimal.divNat_neg]
    cases net.divNat days.toInt.toNat <;> rfl

private theorem averageDaily_eq_noDays_iff {net : Decimal} {days : Int64} :
    averageDaily net days = .error .noDaysWorked ↔ days.toInt ≤ 0 := by
  have hdays : days ≤ 0 ↔ days.toInt ≤ 0 := Int64.le_iff_toInt_le
  rw [← hdays]
  unfold averageDaily
  split
  · rename_i h
    simp [h]
  · rename_i h
    simp only [h, iff_false]
    cases net.divNat days.toInt.toNat <;> simp [Except.mapError]

/-- A daily average that is defined is the multiple of `10 ^ -16` nearest to the quotient. -/
private theorem averageDaily_nearest {net q : Decimal} {days : Int64} (h : averageDaily net days = .ok q) :
    NearestMultiple (10 ^ (-16 : ℤ)) (net.toRat / days.toInt) q.toRat := by
  obtain ⟨hpos, hq⟩ := Run.averageDaily_eq_ok h
  have hcast : ((days.toInt.toNat : ℕ) : ℚ) = days.toInt := by
    exact_mod_cast Int.toNat_of_nonneg (show 0 ≤ days.toInt by omega)
  have hround := Decimal.toRat_divNat hpos hq
  rw [hcast] at hround
  have hunit : (0 : ℚ) < 10 ^ (-16 : ℤ) := by positivity
  rw [nearestMultiple_iff hunit, hround]
  norm_num [zpow_neg, div_eq_mul_inv]

/-- The daily average: when there is none, and which multiple of `10 ^ -16` it is. -/
theorem averageDaily_rounds (net : Decimal) (days : Int64) :
    (averageDaily net days = .error .noDaysWorked ↔ days.toInt ≤ 0) ∧
    AverageError.noDaysWorked.amount?.map Decimal.toRat = some 0 ∧
    (0 < days.toInt → 2 ^ 31 - 1 < net.exponent + 16 → averageDaily net days = .error (.overflow .quotient)) ∧
    (0 < days.toInt → net.exponent + 16 ≤ 2 ^ 31 - 1 → ∃ q, averageDaily net days = .ok q ∧
      (∀ v : ℚ, NearestMultiple (10 ^ (-16 : ℤ)) (net.toRat / days.toInt) v ↔ v = q.toRat) ∧
      |q.toRat * days.toInt - net.toRat| ≤ days.toInt * 10 ^ (-16 : ℤ) / 2 ∧
      averageDaily (-net) days = .ok (-q) ∧
      (∀ net' q' : Decimal, net.toRat ≤ net'.toRat → averageDaily net' days = .ok q' → q.toRat ≤ q'.toRat) ∧
      ((∃ k : ℤ, net.toRat / days.toInt = k * 10 ^ (-16 : ℤ)) → q.toRat = net.toRat / days.toInt)) := by
  have hvalue : AverageError.noDaysWorked.amount?.map Decimal.toRat = some 0 := congrArg some Decimal.toRat_zero
  refine ⟨averageDaily_eq_noDays_iff, hvalue, ?_, ?_⟩
  · intro hdays hlarge
    have hpos : 0 < days.toInt.toNat := by omega
    have hout : (2147483648 : ℤ) ≤ net.exponent + 16 := by omega
    exact (Run.averageDaily_eq_error_iff_of_pos hpos).2 ⟨hout, rfl⟩
  · intro hdays hsmall
    have hpos : 0 < days.toInt.toNat := by omega
    obtain ⟨q, hq⟩ : ∃ q, averageDaily net days = .ok q := by
      cases haverage : averageDaily net days with
      | ok q => exact ⟨q, rfl⟩
      | error cause =>
        have hout : (2147483648 : ℤ) ≤ net.exponent + 16 := ((Run.averageDaily_eq_error_iff_of_pos hpos).1 haverage).1
        omega
    have hnearest := averageDaily_nearest hq
    refine ⟨q, hq, ?_, ?_, ?_, ?_, ?_⟩
    · intro v
      constructor
      · intro hv
        exact hv.unique hnearest
      · rintro rfl
        exact hnearest
    · have hdays' : (0 : ℚ) < days.toInt := by exact_mod_cast hdays
      have herror := hnearest.error_le (by positivity)
      have hproduct : q.toRat * days.toInt - net.toRat = -((net.toRat / days.toInt - q.toRat) * days.toInt) := by
        field_simp
        ring
      rw [hproduct, abs_neg, abs_mul, abs_of_pos hdays', mul_comm]
      calc (days.toInt : ℚ) * |net.toRat / days.toInt - q.toRat| ≤ days.toInt * (10 ^ (-16 : ℤ) / 2) := by gcongr
        _ = days.toInt * 10 ^ (-16 : ℤ) / 2 := by ring
    · rw [averageDaily_neg, hq]
      rfl
    · intro net' q' hle hq'
      exact Run.averageDaily_mono hle hq hq'
    · rintro ⟨k, hk⟩
      exact hnearest.exact hk

/-- Half of the last place, below zero: the average is the whole of it. -/
theorem averageDaily_rounds_tie :
    let net : Decimal := { coefficient := -1, exponent := -16 }
    ∃ q, averageDaily net 2 = .ok q ∧ NearestMultiple (10 ^ (-16 : ℤ)) (net.toRat / 2) q.toRat ∧
      q.toRat = -10 ^ (-16 : ℤ) ∧ averageDaily (-net) 2 = .ok (-q) := by
  intro net
  have hdays : (2 : Int64).toInt = 2 := by decide
  obtain ⟨q, hq, hnearest, -, hneg, -⟩ := (averageDaily_rounds net 2).2.2.2 (by decide) (by decide)
  have hvalue : q = net := Except.ok.inj (hq.symm.trans (by decide))
  rw [hdays] at hnearest
  refine ⟨q, hq, (hnearest _).2 rfl, ?_, hneg⟩
  rw [hvalue]
  norm_num [Decimal.toRat, net]

end PayRun
