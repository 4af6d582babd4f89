import Mathlib
import PayRun.Proofs.Printing
import PayRun.Run.Basic

/-!
# How a run ends

What a run of an accepted employee can do, said once: it stops before anything is printed, it stops at the daily
average, or it prints all its lines as far as the sink takes them (`Run.perform_cases`).  The first two happen
exactly if an amount overflows, since an accepted employee has worked at least one day.
-/

namespace PayRun

/-! ### Accepted employees -/

/-- An employee is accepted exactly if the amounts are in their bounds and a day was worked. -/
theorem Employee.refusal?_eq_none_iff {e : Employee} :
    e.refusal? = none ↔
      0 ≤ e.salary.coefficient ∧ 0 ≤ e.taxRate.coefficient ∧ ¬ Decimal.ofInt 1 < e.taxRate ∧
        0 < e.daysWorked := by
  unfold refusal?
  split
  · rename_i hsalary
    have hneg : e.salary.coefficient < 0 := hsalary
    simp only [reduceCtorEq, false_iff]; omega
  · rename_i hsalary
    have hsalary : 0 ≤ e.salary.coefficient := Int.not_lt.1 hsalary
    split
    · rename_i hrate
      simp only [reduceCtorEq, false_iff]
      rintro ⟨-, h0, h1, -⟩
      rcases hrate with h | h
      · exact absurd (show e.taxRate.coefficient < 0 from h) (by omega)
      · exact h1 h
    · rename_i hrate
      obtain ⟨h0, h1⟩ := not_or.1 hrate
      have h0 : 0 ≤ e.taxRate.coefficient := Int.not_lt.1 h0
      split
      · rename_i hdays
        simp only [reduceCtorEq, false_iff]
        rintro ⟨-, -, -, h⟩
        exact absurd h (Int64.not_lt.2 hdays)
      · rename_i hdays
        simp only [true_iff]
        exact ⟨hsalary, h0, h1, Int64.not_le.1 hdays⟩

/-- The days of an accepted employee, as a number to divide by. -/
theorem Employee.toNat_daysWorked_pos {e : Employee} (h : e.refusal? = none) : 0 < e.daysWorked.toInt.toNat := by
  have hdays := Int64.lt_iff_toInt_lt.1 (refusal?_eq_none_iff.1 h).2.2.2
  rw [Int64.toInt_zero] at hdays
  omega

namespace Run

/-- Over at least one day the average is a quotient. -/
private theorem averageDaily_of_pos {days : Int64} (h : 0 < days.toInt.toNat) (net : Decimal) :
    averageDaily net days = (net.divNat days.toInt.toNat).mapError .overflow := by
  have hdays : ¬ days ≤ 0 := by
    rw [Int64.le_iff_toInt_le, Int64.toInt_zero]
    omega
  rw [averageDaily, if_neg hdays]

private theorem eq_ok_of_mapError {ε ε' α : Type} {f : ε → ε'} {x : Except ε α} {a : α}
    (h : x.mapError f = .ok a) : x = .ok a := by
  cases x with
  | error cause => cases h
  | ok q => cases h; rfl

theorem divNat_of_averageDaily {e : Employee} (h : e.refusal? = none) {net average : Decimal}
    (hd : averageDaily net e.daysWorked = .ok average) : net.divNat e.daysWorked.toInt.toNat = .ok average := by
  rw [averageDaily_of_pos (Employee.toNat_daysWorked_pos h)] at hd
  exact eq_ok_of_mapError hd

/-- A daily average that is defined is a quotient by a positive number. -/
theorem averageDaily_eq_ok {net average : Decimal} {days : Int64} (h : averageDaily net days = .ok average) :
    0 < days.toInt.toNat ∧ net.divNat days.toInt.toNat = .ok average := by
  unfold averageDaily at h
  split at h
  · cases h
  · rename_i hdays
    have hpos := Int64.lt_iff_toInt_lt.1 (Int64.not_le.1 hdays)
    rw [Int64.toInt_zero] at hpos
    exact ⟨by omega, eq_ok_of_mapError h⟩

/-- Over at least one day the average fails exactly if its places take the exponent out of range. -/
theorem averageDaily_eq_error_iff_of_pos {days : Int64} (h : 0 < days.toInt.toNat) {net : Decimal}
    {cause : AverageError} :
    averageDaily net days = .error cause ↔
      Decimal.exponentBound ≤ net.exponent + 16 ∧ cause = .overflow .quotient := by
  have hquotient (c) : net.divNat days.toInt.toNat = .error c ↔ _ := Decimal.divNat_eq_error_iff h
  rw [averageDaily_of_pos h]
  cases hq : net.divNat days.toInt.toNat with
  | ok average =>
    have hin : ¬ Decimal.exponentBound ≤ net.exponent + 16 := by
      intro hout
      rw [(hquotient _).2 ⟨hout, rfl⟩] at hq
      cases hq
    simp [Except.mapError, hin]
  | error c =>
    obtain ⟨hout, rfl⟩ := (hquotient c).1 hq
    simp only [Except.mapError, Except.error.injEq]
    exact ⟨fun hc => ⟨hout, hc.symm⟩, fun hc => hc.2.symm⟩

/-- An accepted employee has days to average over. -/
theorem averageDaily_eq_error_iff {e : Employee} (h : e.refusal? = none) {net : Decimal} {cause : AverageError} :
    averageDaily net e.daysWorked = .error cause ↔
      Decimal.exponentBound ≤ net.exponent + 16 ∧ cause = .overflow .quotient :=
  averageDaily_eq_error_iff_of_pos (Employee.toNat_daysWorked_pos h)

theorem settle_of_accepted {e : Employee} (h : e.refusal? = none) (id : RunId) (s : Sink) :
    settle id e s = perform id e s := by
  rw [settle, h]

/-! ### The three ways -/

section

variable (id : RunId) {e : Employee} (s : Sink) {bonus : Decimal} {settlement : Settlement}

theorem perform_of_amounts_error {cause : Decimal.Overflow} (ha : amounts e = .error cause) :
    perform id e s = { out := [], events := [started id e], sink := s, result := .error (.overflow cause) } := by
  unfold perform
  rw [ha]

theorem perform_of_average_error {cause : AverageError} (ha : amounts e = .ok (bonus, settlement))
    (hd : averageDaily settlement.netSalary e.daysWorked = .error cause) :
    perform id e s =
      { out := (s.printLines (Report.openingLines settlement.netSalary)).out
        events := [started id e]
        sink := (s.printLines (Report.openingLines settlement.netSalary)).sink
        result := .error (.ofAverage cause) } := by
  unfold perform
  rw [ha]
  simp only [hd]

theorem perform_of_average {average : Decimal} (ha : amounts e = .ok (bonus, settlement))
    (hd : averageDaily settlement.netSalary e.daysWorked = .ok average) :
    perform id e s = conclude id e bonus settlement average
      (s.printLines (Report.lines e.name settlement.netSalary average)) := by
  unfold perform
  rw [ha]
  -- the closing lines go on with the printout of the opening ones
  simp only [hd, Report.lines, Sink.printLines, Printout.printAll_append]

end

/-- What a run that is not refused can do. -/
theorem perform_cases (id : RunId) (e : Employee) (s : Sink) :
    (∃ cause, amounts e = .error cause ∧
      perform id e s =
        { out := [], events := [started id e], sink := s, result := .error (.overflow cause) }) ∨
    (∃ bonus settlement cause, amounts e = .ok (bonus, settlement) ∧
      averageDaily settlement.netSalary e.daysWorked = .error cause ∧
      perform id e s =
        { out := (s.printLines (Report.openingLines settlement.netSalary)).out
          events := [started id e]
          sink := (s.printLines (Report.openingLines settlement.netSalary)).sink
          result := .error (.ofAverage cause) }) ∨
    (∃ bonus settlement average, amounts e = .ok (bonus, settlement) ∧
      averageDaily settlement.netSalary e.daysWorked = .ok average ∧
      perform id e s = conclude id e bonus settlement average
        (s.printLines (Report.lines e.name settlement.netSalary average))) := by
  rcases ha : amounts e with cause | ⟨bonus, settlement⟩
  · exact .inl ⟨cause, rfl, perform_of_amounts_error id s ha⟩
  · right
    rcases hd : averageDaily settlement.netSalary e.daysWorked with cause | average
    · exact .inl ⟨bonus, settlement, cause, rfl, hd, perform_of_average_error id s ha hd⟩
    · exact .inr ⟨bonus, settlement, average, rfl, hd, perform_of_average id s ha hd⟩

/-- A run of an accepted employee that does not overflow prints all its lines, as far as they are taken. -/
theorem settle_of_defined {e : Employee} (h : e.refusal? = none) (id : RunId) (s : Sink)
    (hdefined : ∀ cause, (settle id e s).result ≠ .error (.overflow cause)) :
    ∃ bonus settlement average, amounts e = .ok (bonus, settlement) ∧
      averageDaily settlement.netSalary e.daysWorked = .ok average ∧
      settle id e s = conclude id e bonus settlement average
        (s.printLines (Report.lines e.name settlement.netSalary average)) := by
  rw [settle_of_accepted h] at hdefined ⊢
  rcases perform_cases id e s with ⟨cause, -, hrun⟩ | ⟨bonus, settlement, cause, -, hd, hrun⟩ | hrun
  · exact absurd (by rw [hrun]) (hdefined cause)
  · -- the days are positive, so only an overflow can leave no average
    obtain ⟨-, rfl⟩ := (averageDaily_eq_error_iff h).1 hd
    exact absurd (by rw [hrun]; rfl) (hdefined .quotient)
  · exact hrun

/-- A run with a report has an accepted employee, and reports the amounts of it. -/
theorem settle_eq_ok {id : RunId} {e : Employee} {s : Sink} {r : Report} (h : (settle id e s).result = .ok r) :
    e.refusal? = none ∧ ∃ bonus settlement average, amounts e = .ok (bonus, settlement) ∧
      averageDaily settlement.netSalary e.daysWorked = .ok average ∧
      r = report id e bonus settlement average r.lineCount := by
  cases hrefusal : e.refusal? with
  | some refusal =>
    rw [settle, hrefusal] at h
    cases h
  | none =>
    refine ⟨rfl, ?_⟩
    rw [settle_of_accepted hrefusal] at h
    rcases perform_cases id e s with ⟨cause, -, hrun⟩ | ⟨bonus, settlement, cause, -, -, hrun⟩ |
      ⟨bonus, settlement, average, ha, hd, hrun⟩
    · rw [hrun] at h; cases h
    · rw [hrun] at h; cases h
    · refine ⟨bonus, settlement, average, ha, hd, ?_⟩
      rw [hrun] at h
      unfold conclude at h
      split at h
      · cases h
      · cases h; rfl

/-- A report names the run and the employee that it is about. -/
theorem runId_name_of_report {id : RunId} {e : Employee} {s : Sink} {r : Report}
    (h : (settle id e s).result = .ok r) :
    r.runId = id ∧ r.name = e.name := by
  obtain ⟨-, bonus, settlement, average, -, -, hreport⟩ := settle_eq_ok h
  rw [hreport]
  exact ⟨rfl, rfl⟩

theorem exists_report {run : Run} (h : run.result.isOk = true) : ∃ r, run.result = .ok r := by
  rcases hresult : run.result with error | r
  · rw [hresult] at h
    cases h
  · exact ⟨r, rfl⟩

theorem conclude_eq_ok {id : RunId} {e : Employee} {bonus : Decimal} {settlement : Settlement} {average : Decimal}
    {p : Printout} {r : Report} (h : (conclude id e bonus settlement average p).result = .ok r) :
    p.failure = none ∧ r = report id e bonus settlement average p.lines := by
  unfold conclude at h
  split at h
  · cases h
  · rename_i hnone
    cases h
    exact ⟨hnone, rfl⟩

/-- A run with a report has printed all its lines. -/
theorem out_of_report {id : RunId} {e : Employee} {s : Sink} {r : Report} (h : (settle id e s).result = .ok r) :
    (settle id e s).out = Text.ofLines (Report.lines r.name r.settlement.netSalary r.averageDaily) ∧
      r.lineCount = 54 := by
  obtain ⟨haccepted, bonus, settlement, average, ha, hd, -⟩ := settle_eq_ok h
  rw [settle_of_accepted haccepted, perform_of_average id s ha hd] at h ⊢
  obtain ⟨hnone, rfl⟩ := conclude_eq_ok h
  obtain ⟨hout, hlines⟩ := Printout.out_printAll hnone
  rw [Report.length_lines, Nat.zero_add] at hlines
  rw [out_conclude]
  exact ⟨hout, hlines⟩

end Run

end PayRun
