import Mathlib
import PayRun.Proofs.ClosedForm
import PayRun.Proofs.Refused

/-!
# Pay has no cliffs

An employee who is at least as old, is paid at least as much, has worked at least as many days on at least as many
projects, and is taxed at most as highly as another one (`Employee.AtMost`) never ends up with less.  The rules for
the bonus and for the productivity are ladders: whoever is past a rule stays past it with more, and every later
rule gives more than every earlier one (`Employee.bonusShare_mono`, `Employee.productivity_mono`).  Taxes and the
rounded daily average keep the order (`Run.report_mono`).
-/

namespace PayRun

namespace Employee

/-- Nothing that counts for the pay is better for the first employee than for the second. -/
structure AtMost (e e' : Employee) : Prop where
  age : e.age.toInt ≤ e'.age.toInt
  salary : e.salary.toRat ≤ e'.salary.toRat
  daysWorked : e.daysWorked.toInt ≤ e'.daysWorked.toInt
  totalProjects : e.totalProjects.toInt ≤ e'.totalProjects.toInt
  taxRate : e'.taxRate.toRat ≤ e.taxRate.toRat

theorem bounds_of_accepted {e : Employee} (h : e.refusal? = none) :
    0 ≤ e.salary.toRat ∧ 0 ≤ e.taxRate.toRat ∧ e.taxRate.toRat ≤ 1 ∧ 0 < e.daysWorked.toInt := by
  have hnot : ¬ ∃ refusal, e.refusal? = some refusal := by simp [h]
  rw [exists_refusal_iff] at hnot
  simpa only [not_or, not_lt, not_le] using hnot

/-! ### The ladders -/

theorem bonusShare_nonneg (e : Employee) : 0 ≤ e.bonusShare := by
  unfold bonusShare
  split_ifs <;> norm_num

theorem bonusShare_mono {e e' : Employee} (h : e.AtMost e') : e.bonusShare ≤ e'.bonusShare := by
  obtain ⟨hage, hsalary, hdays, hprojects, -⟩ := h
  -- at each rule the first employee is stopped there, and any share from there on will do, or both are past it
  unfold bonusShare
  by_cases hminor : e.age.toInt < 18
  · rw [if_pos hminor]
    split_ifs <;> norm_num
  have hadult : ¬ e'.age.toInt < 18 := by omega
  rw [if_neg hminor, if_neg hadult]
  by_cases hlow : e.salary.toRat ≤ 40000
  · rw [if_pos hlow]
    split_ifs <;> norm_num
  have hhigh : ¬ e'.salary.toRat ≤ 40000 := by linarith
  rw [if_neg hlow, if_neg hhigh]
  by_cases hpart : e.daysWorked.toInt < 240
  · rw [if_pos hpart]
    split_ifs <;> norm_num
  have hfull : ¬ e'.daysWorked.toInt < 240 := by omega
  rw [if_neg hpart, if_neg hfull]
  by_cases hfew : 3 < e.totalProjects.toInt
  · rw [if_pos hfew, if_pos (by omega)]
  · rw [if_neg hfew]
    split_ifs <;> norm_num

theorem toRat_productivity (e : Employee) :
    e.productivity.toRat =
      if e.daysWorked.toInt ≤ 240 then 0.80
      else if e.totalProjects.toInt ≤ 5 then 0.90
      else if e.category = topCategory then 1 else 0.97 := by
  have hdays : e.daysWorked ≤ 240 ↔ e.daysWorked.toInt ≤ 240 := Int64.le_iff_toInt_le
  have hprojects : e.totalProjects ≤ 5 ↔ e.totalProjects.toInt ≤ 5 := Int64.le_iff_toInt_le
  simp only [productivity, hdays, hprojects, apply_ite Decimal.toRat, Decimal.toRat_add, Decimal.toRat_sub,
    Decimal.toRat_cents]
  norm_num

theorem productivity_mono {e e' : Employee} (h : e.AtMost e') (hcategory : e.category = e'.category) :
    e.productivity.toRat ≤ e'.productivity.toRat := by
  have hdays := h.daysWorked
  have hprojects := h.totalProjects
  rw [toRat_productivity, toRat_productivity, hcategory]
  by_cases hpart : e.daysWorked.toInt ≤ 240
  · rw [if_pos hpart]
    split_ifs <;> norm_num
  rw [if_neg hpart, if_neg (show ¬ e'.daysWorked.toInt ≤ 240 by omega)]
  by_cases hfew : e.totalProjects.toInt ≤ 5
  · rw [if_pos hfew]
    split_ifs <;> norm_num
  rw [if_neg hfew, if_neg (show ¬ e'.totalProjects.toInt ≤ 5 by omega)]

end Employee

/-! ### Amounts -/

namespace Run

/-- The amounts of a report by the values of the employee. -/
private theorem toRat_report {id : RunId} {e : Employee} {s : Sink} {r : Report}
    (h : (settle id e s).result = .ok r) :
    r.bonus.toRat = e.salary.toRat * e.bonusShare ∧
      r.settlement.finalSalary.toRat = e.salary.toRat * (1 + e.bonusShare) ∧
      r.settlement.netSalary.toRat = r.settlement.finalSalary.toRat * (1 - e.taxRate.toRat) := by
  obtain ⟨-, bonus, settlement, average, ha, -, hr⟩ := settle_eq_ok h
  obtain ⟨hfinal, -, hnet⟩ := toRat_amounts ha
  rw [hr]
  refine ⟨Employee.toRat_bonus (amounts_eq_ok ha).1, hfinal, ?_⟩
  show settlement.netSalary.toRat = settlement.finalSalary.toRat * _
  rw [hnet, hfinal]

theorem averageDaily_mono {net net' average average' : Decimal} {days : Int64} (hnet : net.toRat ≤ net'.toRat)
    (h : averageDaily net days = .ok average) (h' : averageDaily net' days = .ok average') :
    average.toRat ≤ average'.toRat := by
  obtain ⟨hpos, hq⟩ := averageDaily_eq_ok h
  obtain ⟨-, hq'⟩ := averageDaily_eq_ok h'
  rw [Decimal.toRat_divNat hpos hq, Decimal.toRat_divNat hpos hq']
  have hround : roundAway (net.toRat / days.toInt.toNat * 10 ^ 16) ≤
      roundAway (net'.toRat / days.toInt.toNat * 10 ^ 16) := by
    apply roundAway_mono
    gcongr
  gcongr

section

variable {id id' : RunId} {e e' : Employee} {s s' : Sink} {r r' : Report}

private theorem finalSalary_mono (h : e.AtMost e') (hrun : (settle id e s).result = .ok r)
    (hrun' : (settle id' e' s').result = .ok r') :
    r.settlement.finalSalary.toRat ≤ r'.settlement.finalSalary.toRat ∧
      (e.salary.toRat < e'.salary.toRat → r.settlement.finalSalary.toRat < r'.settlement.finalSalary.toRat) := by
  have hsalary := (Employee.bounds_of_accepted (settle_eq_ok hrun).1).1
  have hshare := Employee.bonusShare_mono h
  have hnonneg := e.bonusShare_nonneg
  rw [(toRat_report hrun).2.1, (toRat_report hrun').2.1]
  constructor
  · have hle := h.salary
    have hsalary' := hsalary.trans hle
    gcongr
  · intro hlt
    calc e.salary.toRat * (1 + e.bonusShare) < e'.salary.toRat * (1 + e.bonusShare) := by gcongr
      _ ≤ e'.salary.toRat * (1 + e'.bonusShare) := by
        have hsalary' := hsalary.trans hlt.le
        gcongr

private theorem netSalary_mono (h : e.AtMost e') (hrun : (settle id e s).result = .ok r)
    (hrun' : (settle id' e' s').result = .ok r') :
    r.settlement.netSalary.toRat ≤ r'.settlement.netSalary.toRat ∧
      (e.salary.toRat < e'.salary.toRat → e'.taxRate.toRat < 1 →
        r.settlement.netSalary.toRat < r'.settlement.netSalary.toRat) := by
  obtain ⟨hle, hlt⟩ := finalSalary_mono h hrun hrun'
  obtain ⟨hsalary, -, -, -⟩ := Employee.bounds_of_accepted (settle_eq_ok hrun).1
  obtain ⟨-, -, hrate, -⟩ := Employee.bounds_of_accepted (settle_eq_ok hrun').1
  have hfinal : 0 ≤ r.settlement.finalSalary.toRat := by
    have hshare := e.bonusShare_nonneg
    rw [(toRat_report hrun).2.1]
    positivity
  -- a lower tax rate leaves more of the same salary
  have hkept : r.settlement.finalSalary.toRat * (1 - e.taxRate.toRat) ≤
      r.settlement.finalSalary.toRat * (1 - e'.taxRate.toRat) := by
    have htax := h.taxRate
    gcongr
  rw [(toRat_report hrun).2.2, (toRat_report hrun').2.2]
  constructor
  · have hrest : 0 ≤ 1 - e'.taxRate.toRat := by linarith
    exact hkept.trans (by gcongr)
  · intro hless hone
    have hrest : 0 < 1 - e'.taxRate.toRat := by linarith
    have hmore := hlt hless
    exact hkept.trans_lt (by gcongr)

/-- Pay is monotone in everything that it depends on. -/
theorem report_mono (h : e.AtMost e') (hrun : (settle id e s).result = .ok r)
    (hrun' : (settle id' e' s').result = .ok r') :
    r.bonus.toRat ≤ r'.bonus.toRat ∧
    r.settlement.finalSalary.toRat ≤ r'.settlement.finalSalary.toRat ∧
    r.settlement.netSalary.toRat ≤ r'.settlement.netSalary.toRat ∧
    (r.hasBonus = true → r'.hasBonus = true) ∧
    (r.tier.label = Text.ofString "Salario alto" → r'.tier.label = Text.ofString "Salario alto") ∧
    (e.salary.toRat < e'.salary.toRat → r.settlement.finalSalary.toRat < r'.settlement.finalSalary.toRat) ∧
    (e.salary.toRat < e'.salary.toRat → e'.taxRate.toRat < 1 →
      r.settlement.netSalary.toRat < r'.settlement.netSalary.toRat) ∧
    (e.daysWorked = e'.daysWorked → r.averageDaily.toRat ≤ r'.averageDaily.toRat) ∧
    (e.category = e'.category → r.productivity.toRat ≤ r'.productivity.toRat) := by
  obtain ⟨hfinal, hfinalLt⟩ := finalSalary_mono h hrun hrun'
  obtain ⟨hnet, hnetLt⟩ := netSalary_mono h hrun hrun'
  have hbonus : r.bonus.toRat ≤ r'.bonus.toRat := by
    have hsalary := (Employee.bounds_of_accepted (settle_eq_ok hrun).1).1
    have hsalary' := hsalary.trans h.salary
    have hnonneg := e.bonusShare_nonneg
    have hshare := Employee.bonusShare_mono h
    have hle := h.salary
    rw [(toRat_report hrun).1, (toRat_report hrun').1]
    gcongr
  obtain ⟨-, bonus, settlement, average, -, hd, hr⟩ := settle_eq_ok hrun
  obtain ⟨-, bonus', settlement', average', -, hd', hr'⟩ := settle_eq_ok hrun'
  have hflag : r.hasBonus = decide r.bonus.IsPositive := by rw [hr]; rfl
  have hflag' : r'.hasBonus = decide r'.bonus.IsPositive := by rw [hr']; rfl
  have htier : r.tier = Tier.of r.settlement.netSalary := by rw [hr]; rfl
  have htier' : r'.tier = Tier.of r'.settlement.netSalary := by rw [hr']; rfl
  refine ⟨hbonus, hfinal, hnet, ?_, ?_, hfinalLt, hnetLt, ?_, ?_⟩
  · rw [hflag, hflag', decide_eq_true_iff, decide_eq_true_iff, Decimal.isPositive_iff, Decimal.isPositive_iff]
    exact fun hpos => hpos.trans_le hbonus
  · rw [htier, htier', Tier.label_of_eq_iff, Tier.label_of_eq_iff]
    exact fun hhigh => hhigh.trans_le hnet
  · intro hdays
    rw [hr, hr'] at hnet
    rw [← hdays] at hd'
    rw [hr, hr']
    exact averageDaily_mono hnet hd hd'
  · intro hcategory
    rw [hr, hr']
    exact Employee.productivity_mono h hcategory

end

/-- Two employees on the two sides of the thresholds for the salary and for the projects. -/
theorem report_mono_thresholds :
    let e := { Employee.standard with
      age := 18, salary := .ofInt 40000, daysWorked := 240, totalProjects := 3, taxRate := .cents 16 }
    let e' := { Employee.standard with salary := .cents 4000001, daysWorked := 240, totalProjects := 4 }
    e.AtMost e' ∧ ∃ r r', (settle ⟨[]⟩ e {}).result = .ok r ∧ (settle ⟨[]⟩ e' {}).result = .ok r' ∧
      r.settlement.netSalary.toRat < r'.settlement.netSalary.toRat ∧
      r.averageDaily.toRat ≤ r'.averageDaily.toRat := by
  intro e e'
  have hsalary : e.salary.toRat < e'.salary.toRat := by
    norm_num [e, e', Decimal.toRat_ofInt, Decimal.toRat_cents]
  have hrate : e'.taxRate.toRat ≤ e.taxRate.toRat ∧ e'.taxRate.toRat < 1 := by
    norm_num [e, e', Employee.standard, Decimal.toRat_cents]
  have hatMost : e.AtMost e' := ⟨by decide, hsalary.le, by decide, by decide, hrate.1⟩
  have hok : (settle ⟨[]⟩ e {}).result.isOk = true := by decide
  have hok' : (settle ⟨[]⟩ e' {}).result.isOk = true := by decide
  obtain ⟨r, hr⟩ := exists_report hok
  obtain ⟨r', hr'⟩ := exists_report hok'
  obtain ⟨-, -, -, -, -, -, hnet, haverage, -⟩ := report_mono hatMost hr hr'
  exact ⟨hatMost, r, r', hr, hr', hnet hsalary hrate.2, haverage rfl⟩

end Run

end PayRun
