import Mathlib
import PayRun.Proofs.Bonus
import PayRun.Proofs.PaySlip

/-!
# When a run overflows

Only exponents decide whether an amount of a run overflows, so the exponent is followed through the bonus, the
settlement and the daily average (`Employee.finalExponent`).  Values play no part: a zero with a large exponent
overflows like any other amount.

* A run of an accepted employee overflows exactly if one of three sums of exponents leaves the range, and never
  because of its days (`Run.settle_overflow_exponents`).
* An overflow of the bonus or of the settlement leaves the sink untouched, one of the daily average leaves it
  with the lines before the tier.
-/

namespace PayRun

namespace Employee

/-- The exponent of the final salary: a minor has a bonus of zero, with an exponent of its own, and an adult one
that is counted in hundredths of the salary. -/
def finalExponent (e : Employee) : Int :=
  if e.age < 18 then min e.salary.exponent Decimal.zero.exponent else e.salary.exponent - 2

/-- A bonus fails exactly if hundredths of the salary are out of range. -/
private theorem bonus_eq_error_iff {e : Employee} {cause : Decimal.Overflow} :
    e.bonus = .error cause ↔
      18 ≤ e.age ∧ e.salary.exponent - 2 < -Decimal.exponentBound ∧ cause = .product (e.salary.exponent - 2) := by
  by_cases hage : e.age < 18
  · rw [bonus_of_minor hage]
    simp only [reduceCtorEq, false_iff]
    rintro ⟨h, -⟩
    exact Int64.not_lt.2 h hage
  · rw [bonus_of_adult hage, Decimal.mul_eq_error_iff]
    have hsalary := e.salary.inRange
    have hexp : e.salary.exponent + (Decimal.cents e.bonusCents).exponent = e.salary.exponent - 2 := rfl
    rw [hexp]
    unfold Decimal.InRange at hsalary ⊢
    constructor
    · rintro ⟨hout, rfl⟩
      exact ⟨Int64.not_lt.1 hage, by omega, rfl⟩
    · rintro ⟨-, hlow, rfl⟩
      exact ⟨by omega, rfl⟩

private theorem exponent_final {e : Employee} {bonus : Decimal} (h : e.bonus = .ok bonus) :
    (e.salary + bonus).exponent = e.finalExponent := by
  rw [Decimal.exponent_add]
  unfold finalExponent
  by_cases hage : e.age < 18
  · rw [bonus_of_minor hage, Except.ok.injEq] at h
    rw [if_pos hage, ← h]
  · rw [bonus_of_adult hage] at h
    have hexp : bonus.exponent = e.salary.exponent + -2 := (Decimal.mul_eq_ok h).2
    rw [if_neg hage, hexp]
    omega

end Employee

/-- A settlement fails exactly if the exponent of the tax is out of range. -/
private theorem Settlement.of_eq_error_iff {salary bonus taxRate : Decimal} {cause : Decimal.Overflow} :
    Settlement.of salary bonus taxRate = .error cause ↔
      ¬ Decimal.InRange ((salary + bonus).exponent + taxRate.exponent) ∧
        cause = .product ((salary + bonus).exponent + taxRate.exponent) := by
  rw [Settlement.of_eq, ← Decimal.mul_eq_error_iff]
  cases (salary + bonus).mul taxRate <;> simp [Except.map]

namespace Run

/-! ### The amounts -/

/-- The amounts of a run fail exactly if those of the bonus or of the settlement do. -/
private theorem amounts_eq_error_iff {e : Employee} {cause : Decimal.Overflow} :
    amounts e = .error cause ↔
      e.bonus = .error cause ∨
        ∃ bonus, e.bonus = .ok bonus ∧ Settlement.of e.salary bonus e.taxRate = .error cause := by
  cases hb : e.bonus with
  | error c => simp [amounts, hb, bind, Except.bind]
  | ok b =>
    rw [amounts_of_bonus hb]
    cases hs : Settlement.of e.salary b e.taxRate <;> simp [Except.map, hs]

/-- The net salary has the lower of the exponents of the final salary and the tax. -/
private theorem exponent_netSalary {e : Employee} {bonus : Decimal} {settlement : Settlement}
    (h : amounts e = .ok (bonus, settlement)) :
    settlement.netSalary.exponent = min e.finalExponent (e.finalExponent + e.taxRate.exponent) := by
  obtain ⟨hb, tax, ht, rfl⟩ := amounts_eq_ok h
  have htax := (Decimal.mul_eq_ok ht).2
  rw [Employee.exponent_final hb] at htax
  show (e.salary + bonus - tax).exponent = _
  rw [Decimal.exponent_sub, htax, Employee.exponent_final hb]

/-- Some amount of a run fails exactly if an exponent is out of range. -/
private theorem exists_amounts_eq_error_iff {e : Employee} :
    (∃ cause, amounts e = .error cause) ↔
      (18 ≤ e.age ∧ e.salary.exponent - 2 < -Decimal.exponentBound) ∨
        ¬ Decimal.InRange (e.finalExponent + e.taxRate.exponent) := by
  constructor
  · rintro ⟨cause, h⟩
    rcases amounts_eq_error_iff.1 h with hb | ⟨bonus, hb, hs⟩
    · obtain ⟨hage, hlow, -⟩ := Employee.bonus_eq_error_iff.1 hb
      exact .inl ⟨hage, hlow⟩
    · rw [Settlement.of_eq_error_iff, Employee.exponent_final hb] at hs
      exact .inr hs.1
  · intro h
    cases hb : e.bonus with
    | error cause => exact ⟨cause, amounts_eq_error_iff.2 (.inl hb)⟩
    | ok bonus =>
      have hdefined : ¬ (18 ≤ e.age ∧ e.salary.exponent - 2 < -Decimal.exponentBound) := by
        rintro ⟨hage, hlow⟩
        rw [Employee.bonus_eq_error_iff.2 ⟨hage, hlow, rfl⟩] at hb
        cases hb
      have hout := h.resolve_left hdefined
      rw [← Employee.exponent_final hb] at hout
      exact ⟨_, amounts_eq_error_iff.2 (.inr ⟨bonus, hb, Settlement.of_eq_error_iff.2 ⟨hout, rfl⟩⟩)⟩

/-! ### The run -/

/-- A run that prints all its lines does not overflow, and has an average. -/
private theorem conclude_result_ne (id : RunId) (e : Employee) (bonus : Decimal) (settlement : Settlement)
    (average : Decimal) (p : Printout) :
    (∀ cause, (conclude id e bonus settlement average p).result ≠ .error (.overflow cause)) ∧
      (conclude id e bonus settlement average p).result ≠ .error .noAverage := by
  unfold conclude
  split <;> simp

/-- A run of an accepted employee overflows exactly if its amounts or its daily average do. -/
private theorem settle_result_eq_overflow_iff {e : Employee} (h : e.refusal? = none) (id : RunId) (s : Sink)
    {cause : Decimal.Overflow} :
    (settle id e s).result = .error (.overflow cause) ↔
      amounts e = .error cause ∨ ∃ bonus settlement, amounts e = .ok (bonus, settlement) ∧
        averageDaily settlement.netSalary e.daysWorked = .error (.overflow cause) := by
  rw [settle_of_accepted h]
  rcases perform_cases id e s with ⟨c, ha, hrun⟩ | ⟨bonus, settlement, c, ha, hd, hrun⟩ |
    ⟨bonus, settlement, average, ha, hd, hrun⟩
  · rw [hrun, ha]; simp
  · obtain ⟨-, rfl⟩ := (averageDaily_eq_error_iff h).1 hd
    rw [hrun, ha]
    simp [RunError.ofAverage, hd]
  · have hne := (conclude_result_ne id e bonus settlement average
      (s.printLines (Report.lines e.name settlement.netSalary average))).1 cause
    rw [hrun, ha]
    simp [hne, hd]

/-- Some run of an accepted employee overflows exactly if an exponent is out of range. -/
theorem exists_settle_overflow_iff {e : Employee} (h : e.refusal? = none) (id : RunId) (s : Sink) :
    (∃ cause, (settle id e s).result = .error (.overflow cause)) ↔
      (18 ≤ e.age ∧ e.salary.exponent - 2 < -Decimal.exponentBound) ∨
        ¬ Decimal.InRange (e.finalExponent + e.taxRate.exponent) ∨
        Decimal.exponentBound ≤ min e.finalExponent (e.finalExponent + e.taxRate.exponent) + 16 := by
  simp only [settle_result_eq_overflow_iff h]
  rw [← or_assoc, ← exists_amounts_eq_error_iff]
  constructor
  · rintro ⟨cause, ha | ⟨bonus, settlement, ha, hd⟩⟩
    · exact .inl ⟨cause, ha⟩
    · rw [averageDaily_eq_error_iff h, exponent_netSalary ha] at hd
      exact .inr hd.1
  · rintro (⟨cause, ha⟩ | hout)
    · exact ⟨cause, .inl ha⟩
    · cases ha : amounts e with
      | error cause => exact ⟨cause, .inl rfl⟩
      | ok pair =>
        obtain ⟨bonus, settlement⟩ := pair
        rw [← exponent_netSalary ha] at hout
        exact ⟨.quotient, .inr ⟨bonus, settlement, rfl, (averageDaily_eq_error_iff h).2 ⟨hout, rfl⟩⟩⟩

/-- An accepted employee has days to divide by. -/
theorem settle_result_ne_noDays {e : Employee} (h : e.refusal? = none) (id : RunId) (s : Sink) :
    (settle id e s).result ≠ .error .noAverage ∧ (settle id e s).result ≠ .error (.overflow .zeroDivisor) := by
  constructor
  · rw [settle_of_accepted h]
    rcases perform_cases id e s with ⟨c, -, hrun⟩ | ⟨bonus, settlement, c, -, hd, hrun⟩ |
      ⟨bonus, settlement, average, -, -, hrun⟩
    · rw [hrun]; simp
    · obtain ⟨-, rfl⟩ := (averageDaily_eq_error_iff h).1 hd
      rw [hrun]; simp [RunError.ofAverage]
    · rw [hrun]; exact (conclude_result_ne ..).2
  · rw [Ne, settle_result_eq_overflow_iff h, amounts_eq_error_iff]
    rintro ((hb | ⟨bonus, -, hs⟩) | ⟨bonus, settlement, -, hd⟩)
    · cases (Employee.bonus_eq_error_iff.1 hb).2.2
    · cases (Settlement.of_eq_error_iff.1 hs).2
    · cases ((averageDaily_eq_error_iff h).1 hd).2

private theorem slip_take (name : Text) (netSalary average : Decimal) :
    (Report.slip name netSalary average).take 50 = Report.openingLines netSalary := by
  rw [← Report.lines_eq_slip, Report.lines, List.take_left' (Report.length_openingLines netSalary)]

/-- When a run of an accepted employee overflows, and what it leaves on the sink then. -/
theorem settle_overflow_exponents {e : Employee} (haccepted : e.refusal? = none) (id : RunId) (s : Sink) :
    ((∃ cause, (settle id e s).result = .error (.overflow cause)) ↔
      if 18 ≤ e.age then
        e.salary.exponent - 2 < -2 ^ 31 ∨
        e.salary.exponent - 2 + e.taxRate.exponent ∉ Set.Icc (-2 ^ 31) (2 ^ 31 - 1) ∨
        2 ^ 31 - 1 < min (e.salary.exponent - 2) (e.salary.exponent - 2 + e.taxRate.exponent) + 16
      else
        min e.salary.exponent Decimal.zero.exponent + e.taxRate.exponent ∉ Set.Icc (-2 ^ 31) (2 ^ 31 - 1)) ∧
    (e.salary.exponent ∈ Set.Icc (-2 ^ 30 + 2) (2 ^ 30) → e.taxRate.exponent ∈ Set.Icc (-2 ^ 30 + 2) (2 ^ 30) →
      ∀ cause, (settle id e s).result ≠ .error (.overflow cause)) ∧
    ((settle id e s).result ≠ .error .noAverage ∧ (settle id e s).result ≠ .error (.overflow .zeroDivisor)) ∧
    (∀ cause, (e.bonus = .error cause ∨
        ∃ bonus, e.bonus = .ok bonus ∧ Settlement.of e.salary bonus e.taxRate = .error cause) →
      (settle id e s).result = .error (.overflow cause) ∧ (settle id e s).out = [] ∧ (settle id e s).sink = s) ∧
    (∀ bonus settlement cause average, e.bonus = .ok bonus →
      Settlement.of e.salary bonus e.taxRate = .ok settlement →
      averageDaily settlement.netSalary e.daysWorked = .error (.overflow cause) →
      (settle id e s).result = .error (.overflow cause) ∧
      (settle id e s).out = (s.printLines ((Report.slip e.name settlement.netSalary average).take 50)).out ∧
      (settle id e s).sink = (s.printLines ((Report.slip e.name settlement.netSalary average).take 50)).sink) := by
  have hiff := exists_settle_overflow_iff haccepted id s
  have hsalary := e.salary.inRange
  have hrate := e.taxRate.inRange
  have hzero : Decimal.zero.exponent = 1 := rfl
  simp only [Decimal.InRange, Decimal.exponentBound, Employee.finalExponent] at hiff hsalary hrate
  refine ⟨?_, ?_, settle_result_ne_noDays haccepted id s, ?_, ?_⟩
  · rw [hiff, Set.mem_Icc, Set.mem_Icc]
    by_cases hage : e.age < 18
    · have hminor : ¬ 18 ≤ e.age := Int64.not_le.2 hage
      simp only [hage, hminor, ↓reduceIte, false_and, false_or]
      omega
    · have hadult : 18 ≤ e.age := Int64.not_lt.1 hage
      simp only [hage, hadult, ↓reduceIte, true_and]
      omega
  · intro hs ht cause hresult
    rw [Set.mem_Icc] at hs ht
    have hout := hiff.1 ⟨cause, hresult⟩
    by_cases hage : e.age < 18
    · have hminor : ¬ 18 ≤ e.age := Int64.not_le.2 hage
      simp only [hage, hminor, ↓reduceIte, false_and, false_or] at hout
      omega
    · simp only [hage, ↓reduceIte] at hout
      omega
  · intro cause hcause
    rw [settle_of_accepted haccepted, perform_of_amounts_error id s (amounts_eq_error_iff.2 hcause)]
    exact ⟨rfl, rfl, rfl⟩
  · intro bonus settlement cause average hb hs hd
    have ha : amounts e = .ok (bonus, settlement) := by rw [amounts_of_bonus hb, hs]; rfl
    rw [slip_take, settle_of_accepted haccepted, perform_of_average_error id s ha hd]
    exact ⟨rfl, rfl, rfl⟩

/-- A salary of zero with a large exponent: the daily average overflows when fifty lines are printed. -/
theorem settle_overflow_exponents_largeZero :
    let e := { Employee.standard with salary := { coefficient := 0, exponent := 2147483640 } }
    e.refusal? = none ∧ (∃ cause, (settle ⟨[]⟩ e {}).result = .error (.overflow cause)) ∧
      (settle ⟨[]⟩ e {}).sink.writes = 50 := by
  intro e
  have haccepted : e.refusal? = none := by decide +kernel
  obtain ⟨hiff, -, -, -, haverage⟩ := settle_overflow_exponents haccepted ⟨[]⟩ {}
  let net : Decimal := { coefficient := 0, exponent := 2147483636 }
  let final : Decimal := { coefficient := 0, exponent := 2147483638 }
  have hsink := (haverage final ⟨final, net, net⟩ .quotient net (by decide +kernel) (by decide +kernel)
    (by decide +kernel)).2.2
  refine ⟨haccepted, hiff.2 (by decide +kernel), ?_⟩
  rw [hsink]
  decide +kernel

end Run

end PayRun
