import Mathlib
import PayRun.Proofs.Decoding
import PayRun.Proofs.Monotone
import PayRun.Proofs.Overflow

/-!
# Accepted employees have sound amounts

Employees are refused so that nothing is divided by zero and no amount is negative.  The checks are enough for that:
the bonus is at most fifteen hundredths of the salary, tax and net salary are shares of the final salary, and the day
that a report takes off was worked (`Run.amounts_sound`).  An amount is printed with a minus sign exactly if its value
is below zero (`Decimal.minus_mem_toText_iff`), so the only minus signs that a run can print are those of a name.
-/

namespace PayRun

/-! ### Shares and marks -/

namespace Employee

private theorem bonusShare_le (e : Employee) : e.bonusShare ≤ 0.15 := by
  unfold bonusShare
  split_ifs <;> norm_num

private theorem productivity_bounds (e : Employee) : 0.80 ≤ e.productivity.toRat ∧ e.productivity.toRat ≤ 1 := by
  rw [toRat_productivity]
  split_ifs <;> norm_num

end Employee

/-- The average of an amount that is not negative is not negative. -/
private theorem averageDaily_nonneg {net average : Decimal} {days : Int64} (hnet : 0 ≤ net.toRat)
    (h : averageDaily net days = .ok average) : 0 ≤ average.toRat := by
  obtain ⟨hpos, hq⟩ := Run.averageDaily_eq_ok h
  have hround : (0 : ℚ) ≤ roundAway (net.toRat / days.toInt.toNat * 10 ^ 16) := by
    exact_mod_cast roundAway_nonneg (by positivity)
  rw [Decimal.toRat_divNat hpos hq]
  positivity

/-! ### Minus signs -/

/-- The size of an amount is made of digits and at most one point. -/
private theorem Decimal.minus_not_mem_sizeText (d : Decimal) : '-'.toUInt8 ∉ d.sizeText := by
  obtain ⟨whole, kept, hsize, -, hdigits, -⟩ := sizeText_parts d
  have hpoint : '-'.toUInt8 ≠ '.'.toUInt8 := by decide
  have hnone : '-'.toUInt8 ∉ whole ++ kept := by
    intro hmem
    exact absurd (hdigits _ hmem) (by decide)
  rw [List.mem_append, not_or] at hnone
  rw [hsize, joined]
  split
  · exact hnone.1
  · simp [hnone, hpoint]

/-- An amount is printed with a minus sign exactly if it is negative. -/
theorem Decimal.minus_mem_toText_iff {d : Decimal} : '-'.toUInt8 ∈ d.toText ↔ d.toRat < 0 := by
  have hsize := d.minus_not_mem_sizeText
  rw [← isNegative_iff, toText]
  split
  · rename_i h
    simp [h]
  · rename_i h
    simp [h, hsize]

private theorem Text.not_mem_ofLines {b : UInt8} (hb : b ≠ newline) {lines : List Text} (h : ∀ l ∈ lines, b ∉ l) :
    b ∉ ofLines lines := by
  intro hmem
  obtain ⟨l, hl, hbl⟩ := List.mem_flatMap.1 hmem
  rcases List.mem_append.1 hbl with hbl | hbl
  · exact h l hl hbl
  · exact hb (List.mem_singleton.1 hbl)

private theorem Report.minus_not_mem_openingLines {net : Decimal} (hnet : '-'.toUInt8 ∉ net.toText) {l : Text}
    (h : l ∈ openingLines net) : '-'.toUInt8 ∉ l := by
  have hlabel : '-'.toUInt8 ∉ Text.ofString "Salario Neto: " := by decide
  rw [openingLines_eq, List.mem_cons] at h
  rcases h with rfl | h
  · simp [netLine, hlabel, hnet]
  · exact fun hmem => (ne_of_mem_calendarLines h hmem).2 rfl

/-- On a pay slip whose amounts have no sign, every minus sign is one of the name. -/
private theorem Report.count_minus_lines (name : Text) {net average : Decimal} (hnet : '-'.toUInt8 ∉ net.toText)
    (haverage : '-'.toUInt8 ∉ average.toText) :
    (Text.ofLines (lines name net average)).count '-'.toUInt8 = name.count '-'.toUInt8 := by
  have hsign : '-'.toUInt8 ≠ Text.newline := by decide
  have htier : '-'.toUInt8 ∉ (Tier.of net).label := by
    cases Tier.of net <;> decide
  have hbefore : '-'.toUInt8 ∉ Text.ofLines (openingLines net ++ [(Tier.of net).label]) := by
    refine Text.not_mem_ofLines hsign ?_
    intro l hl
    rcases List.mem_append.1 hl with hl | hl
    · exact minus_not_mem_openingLines hnet hl
    · rw [List.mem_singleton.1 hl]
      exact htier
  have hafter : '-'.toUInt8 ∉ Text.ofLines [net.toText, average.toText] := by
    refine Text.not_mem_ofLines hsign ?_
    simp [hnet, haverage]
  rw [ofLines_lines, List.count_append, List.count_append, List.count_cons_of_ne hsign.symm,
    List.count_eq_zero.2 hbefore, List.count_eq_zero.2 hafter]
  omega

/-- The amounts of a report. -/
def Report.amounts (r : Report) : List Decimal :=
  [r.bonus, r.settlement.finalSalary, r.settlement.tax, r.settlement.netSalary, r.productivity, r.averageDaily]

/-! ### Runs -/

namespace Run

/-- The amounts of an accepted employee are shares of the salary and of each other. -/
private theorem amounts_bounds {e : Employee} (h : e.refusal? = none) {bonus : Decimal} {settlement : Settlement}
    (ha : amounts e = .ok (bonus, settlement)) :
    (0 ≤ bonus.toRat ∧ bonus.toRat ≤ 0.15 * e.salary.toRat) ∧
      (e.salary.toRat ≤ settlement.finalSalary.toRat ∧ settlement.finalSalary.toRat ≤ 1.15 * e.salary.toRat) ∧
      (0 ≤ settlement.tax.toRat ∧ settlement.tax.toRat ≤ settlement.finalSalary.toRat) ∧
      (0 ≤ settlement.netSalary.toRat ∧ settlement.netSalary.toRat ≤ settlement.finalSalary.toRat) := by
  obtain ⟨hsalary, hlow, hhigh, -⟩ := Employee.bounds_of_accepted h
  obtain ⟨hfinal, htax, hnet⟩ := toRat_amounts ha
  have hbonus := Employee.toRat_bonus (amounts_eq_ok ha).1
  have hnonneg : 0 ≤ e.salary.toRat * e.bonusShare := mul_nonneg hsalary e.bonusShare_nonneg
  have hmost : e.salary.toRat * e.bonusShare ≤ e.salary.toRat * 0.15 :=
    mul_le_mul_of_nonneg_left e.bonusShare_le hsalary
  have hpositive : 0 ≤ settlement.finalSalary.toRat := by
    rw [hfinal]
    linarith
  have hshare : settlement.finalSalary.toRat * e.taxRate.toRat ≤ settlement.finalSalary.toRat :=
    mul_le_of_le_one_right hpositive hhigh
  have htaxed : 0 ≤ settlement.finalSalary.toRat * e.taxRate.toRat := mul_nonneg hpositive hlow
  -- tax and net salary add up to the final salary
  have hrest : settlement.netSalary.toRat = settlement.finalSalary.toRat - settlement.tax.toRat := by
    rw [hnet, htax, hfinal]
    ring
  rw [hrest, htax, hbonus]
  refine ⟨⟨hnonneg, ?_⟩, ⟨?_, ?_⟩, ⟨htaxed, hshare⟩, ?_, ?_⟩
  · linarith
  · rw [hfinal]
    linarith
  · rw [hfinal]
    linarith
  · linarith
  · linarith

/-- Wherever a run stops, it has printed the beginning of a pay slip whose amounts are not negative. -/
private theorem out_isPrefix_of_nonneg (id : RunId) (e : Employee) (s : Sink) :
    ∃ net average : Decimal, (settle id e s).out <+: Text.ofLines (Report.lines e.name net average) ∧
      0 ≤ net.toRat ∧ 0 ≤ average.toRat := by
  have hzero : 0 ≤ Decimal.zero.toRat := Decimal.toRat_zero.ge
  cases hrefusal : e.refusal? with
  | some refusal =>
    refine ⟨.zero, .zero, ?_, hzero, hzero⟩
    rw [settle, hrefusal]
    exact List.nil_prefix
  | none =>
    rw [settle_of_accepted hrefusal]
    rcases perform_cases id e s with ⟨cause, -, hrun⟩ | ⟨bonus, settlement, cause, ha, -, hrun⟩ |
      ⟨bonus, settlement, average, ha, hd, hrun⟩
    · refine ⟨.zero, .zero, ?_, hzero, hzero⟩
      rw [hrun]
      exact List.nil_prefix
    · have hnet := (amounts_bounds hrefusal ha).2.2.2.1
      refine ⟨settlement.netSalary, .zero, ?_, hnet, hzero⟩
      have hopening := Printout.out_printAll_isPrefix { sink := s } (Report.openingLines settlement.netSalary)
      rw [hrun, Report.lines, Text.ofLines_append]
      exact hopening.trans (List.prefix_append _ _)
    · have hnet := (amounts_bounds hrefusal ha).2.2.2.1
      refine ⟨settlement.netSalary, average, ?_, hnet, averageDaily_nonneg hnet hd⟩
      rw [hrun, out_conclude]
      exact Printout.out_printAll_isPrefix { sink := s } _

/-- The days of an accepted employee can be counted down without wrapping. -/
private theorem toInt_daysWorked_sub_one {e : Employee} (h : e.refusal? = none) :
    (e.daysWorked - 1).toInt = e.daysWorked.toInt - 1 ∧ 0 ≤ (e.daysWorked - 1).toInt := by
  have hdays := (Employee.bounds_of_accepted h).2.2.2
  have hone : (1 : Int64) ≤ e.daysWorked := by
    rw [Int64.le_iff_toInt_le]
    exact hdays
  have hsub : (e.daysWorked - 1).toInt = e.daysWorked.toInt - 1 := Int64.toInt_sub_of_le _ _ (by decide) hone
  rw [hsub]
  exact ⟨rfl, by omega⟩

/-- What the acceptance of an employee is good for: nothing is divided by zero, no amount of a report is negative, and
no amount is printed with a minus sign. -/
theorem amounts_sound (id : RunId) (e : Employee) (s : Sink) :
    (e.refusal? = none →
      (settle id e s).result ≠ .error .noAverage ∧ (settle id e s).result ≠ .error (.overflow .zeroDivisor)) ∧
    (∀ r, (settle id e s).result = .ok r →
      (0 ≤ r.bonus.toRat ∧ r.bonus.toRat ≤ 0.15 * e.salary.toRat) ∧
      (e.salary.toRat ≤ r.settlement.finalSalary.toRat ∧ r.settlement.finalSalary.toRat ≤ 1.15 * e.salary.toRat) ∧
      (0 ≤ r.settlement.tax.toRat ∧ r.settlement.tax.toRat ≤ r.settlement.finalSalary.toRat) ∧
      (0 ≤ r.settlement.netSalary.toRat ∧ r.settlement.netSalary.toRat ≤ r.settlement.finalSalary.toRat) ∧
      0 ≤ r.averageDaily.toRat ∧
      (0.80 ≤ r.productivity.toRat ∧ r.productivity.toRat ≤ 1.00) ∧
      (r.daysWorkedAfter.toInt = e.daysWorked.toInt - 1 ∧ 0 ≤ r.daysWorkedAfter.toInt) ∧
      (∀ amount ∈ r.amounts, '-'.toUInt8 ∉ amount.toText) ∧
      (settle id e s).out.count '-'.toUInt8 = e.name.count '-'.toUInt8) ∧
    (∃ net average : Decimal, (settle id e s).out <+: Text.ofLines (Report.lines e.name net average) ∧
      '-'.toUInt8 ∉ net.toText ∧ '-'.toUInt8 ∉ average.toText) := by
  have hunsigned : ∀ d : Decimal, 0 ≤ d.toRat → '-'.toUInt8 ∉ d.toText := by
    intro d hd hmem
    exact absurd (Decimal.minus_mem_toText_iff.1 hmem) (not_lt.2 hd)
  refine ⟨fun h => settle_result_ne_noDays h id s, ?_, ?_⟩
  · intro r hrun
    have hout := (out_of_report hrun).1
    obtain ⟨haccepted, bonus, settlement, average, ha, hd, hr⟩ := settle_eq_ok hrun
    obtain ⟨hbonus, hfinal, htax, hnet⟩ := amounts_bounds haccepted ha
    have haverage := averageDaily_nonneg hnet.1 hd
    have hproductivity := e.productivity_bounds
    rw [hr] at hout
    rw [hout, hr]
    refine ⟨hbonus, hfinal, htax, hnet, haverage, ⟨hproductivity.1, hproductivity.2.trans (by norm_num)⟩,
      toInt_daysWorked_sub_one haccepted, ?_, ?_⟩
    · intro amount hamount
      apply hunsigned
      simp only [Report.amounts, report, List.mem_cons, List.not_mem_nil, or_false] at hamount
      rcases hamount with rfl | rfl | rfl | rfl | rfl | rfl
      · exact hbonus.1
      · exact (Employee.bounds_of_accepted haccepted).1.trans hfinal.1
      · exact htax.1
      · exact hnet.1
      · linarith [hproductivity.1]
      · exact haverage
    · exact Report.count_minus_lines e.name (hunsigned _ hnet.1) (hunsigned _ haverage)
  · obtain ⟨net, average, hprefix, hnet, haverage⟩ := out_isPrefix_of_nonneg id e s
    exact ⟨net, average, hprefix, hunsigned net hnet, hunsigned average haverage⟩

/-- One day at the full tax rate, under a name with a hyphen: all bounds are met, and the hyphen is printed. -/
theorem amounts_sound_lastDay :
    let e := { Employee.standard with name := "Ana-Luz", daysWorked := 1, taxRate := .ofInt 1 }
    e.refusal? = none ∧ ∃ r, (settle ⟨[]⟩ e {}).result = .ok r ∧
      0 ≤ r.settlement.netSalary.toRat ∧ r.settlement.tax.toRat ≤ r.settlement.finalSalary.toRat ∧
      0 ≤ r.daysWorkedAfter.toInt ∧ (settle ⟨[]⟩ e {}).out.count '-'.toUInt8 = 1 := by
  intro e
  have haccepted : e.refusal? = none := by decide
  have hok : (settle ⟨[]⟩ e {}).result.isOk = true := by decide
  have hname : e.name.count '-'.toUInt8 = 1 := by decide
  obtain ⟨r, hr⟩ := exists_report hok
  obtain ⟨-, -, htax, hnet, -, -, hdays, -, hsigns⟩ := (amounts_sound ⟨[]⟩ e {}).2.1 r hr
  exact ⟨haccepted, r, hr, hnet.1, htax.2, hdays.2, hsigns.trans hname⟩

end Run

end PayRun
