import Mathlib
import PayRun.Run.Basic

/-!
# The bonus as one share of the salary

The bonus of an adult is one product, whatever its share is made of: after a full year the two products that are
added have the same exponent, so nothing is rescaled (`Employee.bonus_of_adult`).  From this the amounts of a run
are read off as sums and products (`Run.amounts_eq_ok`).
-/

namespace PayRun

namespace Decimal

private theorem mul_of_inRange {a b : Decimal} (h : InRange (a.exponent + b.exponent)) :
    a.mul b = .ok ⟨a.coefficient * b.coefficient, a.exponent + b.exponent, h⟩ := by
  rw [mul, dif_pos h]

private theorem mul_of_not_inRange {a b : Decimal} (h : ¬ InRange (a.exponent + b.exponent)) :
    a.mul b = .error (.product (a.exponent + b.exponent)) := by
  rw [mul, dif_neg h]

/-- A product that is defined is exact. -/
theorem mul_eq_ok {a b c : Decimal} (h : a.mul b = .ok c) :
    c.coefficient = a.coefficient * b.coefficient ∧ c.exponent = a.exponent + b.exponent := by
  by_cases hr : InRange (a.exponent + b.exponent)
  · rw [mul_of_inRange hr, Except.ok.injEq] at h
    subst h
    exact ⟨rfl, rfl⟩
  · rw [mul_of_not_inRange hr] at h
    cases h

theorem scaleUp_eq (c : Int) (k : Nat) : scaleUp c k = c * 10 ^ k := by
  have hpow : (tenPow k : Int) = 10 ^ k := Int.natCast_pow 10 k
  unfold scaleUp
  split
  · rename_i h
    rw [h, zero_mul]
  · rw [hpow]

/-- Amounts at one exponent are added without rescaling. -/
private theorem coefficient_add_of_exponent_eq {a b : Decimal} (h : a.exponent = b.exponent) :
    (a + b).coefficient = a.coefficient + b.coefficient := by
  show a.coefficientAt (min a.exponent b.exponent) + b.coefficientAt (min a.exponent b.exponent) = _
  simp only [coefficientAt, h, min_self, sub_self, Int.toNat_zero, scaleUp_eq, pow_zero, mul_one]

/-- Two shares of an amount in hundredths are one share. -/
private theorem mul_cents_add (d : Decimal) (m n : Int) :
    (do return (← d.mul (cents m)) + (← d.mul (cents n))) = d.mul (cents (m + n)) := by
  by_cases hr : InRange (d.exponent + (cents m).exponent)
  · rw [mul_of_inRange hr, mul_of_inRange (b := cents n) hr, mul_of_inRange (b := cents (m + n)) hr]
    refine congrArg Except.ok (Decimal.ext ?_ (min_self _))
    have hsum := coefficient_add_of_exponent_eq
      (a := ⟨d.coefficient * m, d.exponent + -2, hr⟩) (b := ⟨d.coefficient * n, d.exponent + -2, hr⟩) rfl
    exact hsum.trans (mul_add _ _ _).symm
  · rw [mul_of_not_inRange hr, mul_of_not_inRange (b := cents (m + n)) hr]
    rfl

end Decimal

namespace Employee

/-- The hundredths of the salary that an adult has as a bonus. -/
def bonusCents (e : Employee) : Int :=
  if ¬ bonusThreshold < e.salary then 3
  else if e.daysWorked < 240 then 5
  else if 3 < e.totalProjects then 15
  else 12

theorem bonus_of_minor {e : Employee} (h : e.age < 18) : e.bonus = .ok .zero := by
  rw [bonus, if_pos h]

/-- The bonus of an adult is one product. -/
theorem bonus_of_adult {e : Employee} (h : ¬ e.age < 18) : e.bonus = e.salary.mul (.cents e.bonusCents) := by
  rw [bonus, if_neg h]
  unfold bonusCents
  split
  · rfl
  · split
    · rfl
    · unfold projectRate
      split
      · exact Decimal.mul_cents_add e.salary 10 5
      · exact Decimal.mul_cents_add e.salary 10 2

end Employee

/-- The settlement of a salary is defined exactly if the tax is, and holds the exact sums. -/
theorem Settlement.of_eq (salary bonus taxRate : Decimal) :
    Settlement.of salary bonus taxRate =
      ((salary + bonus).mul taxRate).map fun tax => ⟨salary + bonus, tax, salary + bonus - tax⟩ := by
  unfold Settlement.of
  cases (salary + bonus).mul taxRate <;> rfl

theorem Run.amounts_of_bonus {e : Employee} {bonus : Decimal} (h : e.bonus = .ok bonus) :
    amounts e = (Settlement.of e.salary bonus e.taxRate).map (bonus, ·) := by
  rw [amounts, h]
  rfl

/-- The amounts of a run that are defined. -/
theorem Run.amounts_eq_ok {e : Employee} {bonus : Decimal} {settlement : Settlement}
    (h : amounts e = .ok (bonus, settlement)) :
    e.bonus = .ok bonus ∧ ∃ tax, (e.salary + bonus).mul e.taxRate = .ok tax ∧
      settlement = ⟨e.salary + bonus, tax, e.salary + bonus - tax⟩ := by
  cases hb : e.bonus with
  | error cause => rw [amounts, hb] at h; cases h
  | ok b =>
    rw [amounts_of_bonus hb, Settlement.of_eq] at h
    cases ht : (e.salary + b).mul e.taxRate with
    | error cause => rw [ht] at h; cases h
    | ok tax =>
      rw [ht] at h
      cases h
      exact ⟨rfl, tax, ht, rfl⟩

end PayRun
