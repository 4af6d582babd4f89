import Mathlib
import PayRun.Proofs.Outcome
import PayRun.Proofs.Value

/-!
# Reports in closed form

The amounts of a report are those of the pay rules in exact arithmetic: the bonus is a share of the salary
(`Employee.bonusShare`), the tax a share of both, and nothing is rounded but the daily average
(`Run.settle_closedForm`).
-/

namespace PayRun

namespace Employee

/-- The share of the salary that is paid as a bonus: the first rule that applies decides. -/
def bonusShare (e : Employee) : ℚ :=
  if e.age.toInt < 18 then 0
  else if e.salary.toRat ≤ 40000 then 0.03
  else if e.daysWorked.toInt < 240 then 0.05
  else if 3 < e.totalProjects.toInt then 0.15
  else 0.12

private theorem bonusThreshold_lt_iff {d : Decimal} : bonusThreshold < d ↔ ¬ d.toRat ≤ 40000 := by
  rw [Decimal.lt_iff_toRat_lt, bonusThreshold, Decimal.toRat_ofInt, not_le]
  norm_cast

private theorem bonusShare_of_adult {e : Employee} (h : ¬ e.age < 18) : e.bonusShare = (e.bonusCents : ℚ) / 100 := by
  have hage : ¬ e.age.toInt < 18 := fun hlt => h (Int64.lt_iff_toInt_lt.2 hlt)
  have hdays : e.daysWorked < 240 ↔ e.daysWorked.toInt < 240 := Int64.lt_iff_toInt_lt
  have hprojects : 3 < e.totalProjects ↔ 3 < e.totalProjects.toInt := Int64.lt_iff_toInt_lt
  unfold bonusShare bonusCents
  rw [if_neg hage]
  simp only [bonusThreshold_lt_iff, hdays, hprojects, not_not]
  split
  · norm_num
  · split
    · norm_num
    · split <;> norm_num

/-- The bonus is its share of the salary. -/
theorem toRat_bonus {e : Employee} {bonus : Decimal} (h : e.bonus = .ok bonus) :
    bonus.toRat = e.salary.toRat * e.bonusShare := by
  by_cases hage : e.age < 18
  · have hminor : e.age.toInt < 18 := Int64.lt_iff_toInt_lt.1 hage
    rw [bonus_of_minor hage, Except.ok.injEq] at h
    rw [← h, Decimal.toRat_zero, bonusShare, if_pos hminor, mul_zero]
  · rw [bonus_of_adult hage] at h
    rw [Decimal.toRat_mul h, Decimal.toRat_cents, bonusShare_of_adult hage]

private theorem bonusShare_pos_iff {e : Employee} : 0 < e.bonusShare ↔ 18 ≤ e.age.toInt := by
  unfold bonusShare
  split
  · rename_i h
    simp only [lt_self_iff_false, false_iff]
    omega
  · rename_i h
    have hage : 18 ≤ e.age.toInt := by omega
    simp only [hage, iff_true]
    split
    · norm_num
    · split
      · norm_num
      · split <;> norm_num

end Employee

/-- The tier is high exactly above its threshold. -/
theorem Tier.label_of_eq_iff {net : Decimal} :
    (Tier.of net).label = Text.ofString "Salario alto" ↔ 35000 < net.toRat := by
  have hthreshold : threshold < net ↔ 35000 < net.toRat := by
    rw [Decimal.lt_iff_toRat_lt, threshold, Decimal.toRat_ofInt]
    norm_cast
  rw [← hthreshold, Tier.of]
  split
  · rename_i h
    simp only [h, iff_true]
    rfl
  · rename_i h
    simp only [h, iff_false]
    decide

namespace Run

/-- The amounts of a run are exact sums and products. -/
theorem toRat_amounts {e : Employee} {bonus : Decimal} {settlement : Settlement}
    (h : amounts e = .ok (bonus, settlement)) :
    settlement.finalSalary.toRat = e.salary.toRat * (1 + e.bonusShare) ∧
      settlement.tax.toRat = settlement.finalSalary.toRat * e.taxRate.toRat ∧
      settlement.netSalary.toRat = e.salary.toRat * (1 + e.bonusShare) * (1 - e.taxRate.toRat) := by
  obtain ⟨hb, tax, ht, rfl⟩ := amounts_eq_ok h
  have hfinal : (e.salary + bonus).toRat = e.salary.toRat * (1 + e.bonusShare) := by
    rw [Decimal.toRat_add, Employee.toRat_bonus hb]
    ring
  have htax := Decimal.toRat_mul ht
  refine ⟨hfinal, htax, ?_⟩
  show (e.salary + bonus - tax).toRat = _
  rw [Decimal.toRat_sub, htax, hfinal]
  ring

/-- What a run reports, in closed form. -/
theorem settle_closedForm {id : RunId} {e : Employee} {s : Sink} {r : Report}
    (hrun : (settle id e s).result = .ok r) :
    r.bonus.toRat = e.salary.toRat * e.bonusShare ∧
    r.settlement.finalSalary.toRat = e.salary.toRat * (1 + e.bonusShare) ∧
    r.settlement.tax.toRat = r.settlement.finalSalary.toRat * e.taxRate.toRat ∧
    r.settlement.netSalary.toRat = e.salary.toRat * (1 + e.bonusShare) * (1 - e.taxRate.toRat) ∧
    r.settlement.tax.toRat + r.settlement.netSalary.toRat = r.settlement.finalSalary.toRat ∧
    r.averageDaily.toRat =
      roundAway (r.settlement.netSalary.toRat / e.daysWorked.toInt * 10 ^ 16) / 10 ^ 16 ∧
    (r.hasBonus = true ↔ 18 ≤ e.age.toInt ∧ 0 < e.salary.toRat) ∧
    r.isEmployed = e.active ∧
    (r.tier.label = Text.ofString "Salario alto" ↔
      35000 < e.salary.toRat * (1 + e.bonusShare) * (1 - e.taxRate.toRat)) ∧
    r.yearSum.toInt = 2020 + 2021 + 2022 + 2023 + 2024 ∧
    r.daysWorkedAfter.toInt = e.daysWorked.toInt - 1 ∧
    r.ageAfter.toInt = (e.age.toInt + 1).bmod (2 ^ 64) := by
  obtain ⟨haccepted, bonus, settlement, average, ha, hd, hr⟩ := settle_eq_ok hrun
  obtain ⟨hfinal, htax, hnet⟩ := toRat_amounts ha
  have hbonus := Employee.toRat_bonus (amounts_eq_ok ha).1
  obtain ⟨hsalary, -, -, hdays⟩ := Employee.refusal?_eq_none_iff.1 haccepted
  rw [hr]
  refine ⟨hbonus, hfinal, htax, hnet, ?_, ?_, ?_, rfl, ?_, ?_, ?_, ?_⟩
  · show settlement.tax.toRat + settlement.netSalary.toRat = settlement.finalSalary.toRat
    rw [htax, hnet, hfinal]
    ring
  · have hpos := Employee.toNat_daysWorked_pos haccepted
    have hround := Decimal.toRat_divNat hpos (divNat_of_averageDaily haccepted hd)
    have hcast : ((e.daysWorked.toInt.toNat : ℕ) : ℚ) = e.daysWorked.toInt := by
      exact_mod_cast Int.toNat_of_nonneg (show 0 ≤ e.daysWorked.toInt by omega)
    rw [hcast] at hround
    exact hround
  · show decide bonus.IsPositive = true ↔ _
    rw [decide_eq_true_iff, Decimal.isPositive_iff, hbonus, ← Employee.bonusShare_pos_iff]
    constructor
    · intro h
      have hshare := pos_of_mul_pos_right h (Decimal.toRat_nonneg_iff.2 hsalary)
      exact ⟨hshare, (pos_iff_pos_of_mul_pos h).2 hshare⟩
    · rintro ⟨hshare, hpos⟩
      exact mul_pos hpos hshare
  · rw [← hnet]
    exact Tier.label_of_eq_iff
  · show Calendar.years.sum.toInt = _
    decide +kernel
  · show (e.daysWorked - 1).toInt = _
    have hone : (1 : Int64) ≤ e.daysWorked := by
      rw [Int64.lt_iff_toInt_lt] at hdays
      rw [Int64.le_iff_toInt_le]
      exact hdays
    rw [Int64.toInt_sub_of_le _ _ (by decide) hone]
    rfl
  · exact Int64.toInt_add e.age 1

/-- Nine days of the standard employee: the daily average does not come out even. -/
theorem settle_closedForm_nineDays :
    ∃ r, (settle ⟨[]⟩ { Employee.standard with daysWorked := 9 } {}).result = .ok r ∧
      r.settlement.netSalary.toRat = 44625.669375 ∧ r.averageDaily.toRat = 4958.4077083333333333 := by
  let e := { Employee.standard with daysWorked := 9 }
  let bonus : Decimal := { coefficient := 25000375, exponent := -4 }
  let settlement : Settlement :=
    ⟨{ coefficient := 525007875, exponent := -4 }, { coefficient := 7875118125, exponent := -6 },
      { coefficient := 44625669375, exponent := -6 }⟩
  let average : Decimal := { coefficient := 49584077083333333333, exponent := -16 }
  have hrun : (settle ⟨[]⟩ e {}).result = .ok (report ⟨[]⟩ e bonus settlement average 54) := by decide +kernel
  obtain ⟨-, -, -, hnet, -, haverage, -⟩ := settle_closedForm hrun
  have hsalary : e.salary.toRat = 50000.75 := by
    rw [show e.salary = .cents 5000075 from rfl, Decimal.toRat_cents]
    norm_num
  have hrate : e.taxRate.toRat = 0.15 := by
    rw [show e.taxRate = .cents 15 from rfl, Decimal.toRat_cents]
    norm_num
  have hshare : e.bonusShare = 0.05 := by
    have hage : ¬ e.age.toInt < 18 := by decide
    have hdays : e.daysWorked.toInt < 240 := by decide
    rw [Employee.bonusShare, if_neg hage, if_neg (by rw [hsalary]; norm_num), if_pos hdays]
  have hdays : e.daysWorked.toInt = 9 := by decide
  rw [hsalary, hrate, hshare] at hnet
  rw [hnet, hdays] at haverage
  refine ⟨_, hrun, hnet.trans (by norm_num), haverage.trans ?_⟩
  norm_num [roundAway]

end Run

end PayRun
