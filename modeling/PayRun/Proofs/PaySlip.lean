import Mathlib
import PayRun.Proofs.Outcome
import PayRun.Proofs.Printing

/-!
# The pay slip

The lines that a run has to print are fixed by the employee alone (`Employee.slip`).  The run writes them in
order, one write each, up to and including the first one that fails, and returns a report exactly if none fails
(`Run.settle_writes_slip`).
-/

namespace PayRun

/-- The lines of a pay slip: the net salary, five years with two quarters each, four months with the hours of four
weeks each, two periods with the hours of three days each, and then tier, name, net salary and daily average. -/
def Report.slip (name : Text) (netSalary averageDaily : Decimal) : List Text :=
  [List.flatten ["Salario Neto: ", netSalary.toText]] ++
  ([2020, 2021, 2022, 2023, 2024].flatMap fun year =>
    [Text.ofNat year, Text.ofNat (year * 1), Text.ofNat (year * 2)]) ++
  ([1, 2, 3, 4].flatMap fun month =>
    numberLine (Calendar.daysInMonth month) :: [40, 80, 120, 160].map Text.ofNat) ++
  ([1, 2].flatMap fun period =>
    Text.ofNat period :: [1, 2, 3].flatMap fun day =>
      [numberLine (Calendar.dayHours day), Calendar.hoursLabel (Calendar.dayHours day)]) ++
  [(Tier.of netSalary).label, name, netSalary.toText, averageDaily.toText]

/-- The lines of the pay slip of an employee, none if an amount is not defined. -/
def Employee.slip (e : Employee) : List Text :=
  match Run.amounts e with
  | .error _ => []
  | .ok (_, settlement) =>
    match averageDaily settlement.netSalary e.daysWorked with
    | .error _ => []
    | .ok average => Report.slip e.name settlement.netSalary average

theorem Report.lines_eq_slip (name : Text) (netSalary averageDaily : Decimal) :
    lines name netSalary averageDaily = slip name netSalary averageDaily := by
  have hyears : Calendar.years.flatMap yearLines =
      [2020, 2021, 2022, 2023, 2024].flatMap fun year =>
        [Text.ofNat year, Text.ofNat (year * 1), Text.ofNat (year * 2)] := by decide +kernel
  have hmonths : (Calendar.span 1 Calendar.monthsShown).flatMap monthLines =
      [1, 2, 3, 4].flatMap fun month =>
        numberLine (Calendar.daysInMonth month) :: [40, 80, 120, 160].map Text.ofNat := by decide +kernel
  have hperiods : (Calendar.span 1 Calendar.periods).flatMap periodLines =
      [1, 2].flatMap fun period =>
        Text.ofNat period :: [1, 2, 3].flatMap fun day =>
          [numberLine (Calendar.dayHours day), Calendar.hoursLabel (Calendar.dayHours day)] := by decide +kernel
  rw [lines, openingLines, hyears, hmonths, hperiods]
  rfl

namespace Run

/-- An accepted employee whose run does not overflow has a pay slip, and the run prints it. -/
theorem settle_eq_conclude {e : Employee} (h : e.refusal? = none) (id : RunId) (s : Sink)
    (hdefined : ∀ cause, (settle id e s).result ≠ .error (.overflow cause)) :
    e.slip.length = 54 ∧
      ∃ bonus settlement average, settle id e s = conclude id e bonus settlement average (s.printLines e.slip) := by
  obtain ⟨bonus, settlement, average, ha, hd, hrun⟩ := settle_of_defined h id s hdefined
  have hslip : e.slip = Report.lines e.name settlement.netSalary average := by
    simp only [Employee.slip, ha, hd, Report.lines_eq_slip]
  rw [hslip]
  exact ⟨Report.length_lines .., bonus, settlement, average, hrun⟩

/-- A run of an accepted employee that does not overflow writes its pay slip line by line. -/
theorem settle_writes_slip {e : Employee} (haccepted : e.refusal? = none) (id : RunId) (s : Sink)
    (hdefined : ∀ cause, (settle id e s).result ≠ .error (.overflow cause)) :
    e.slip.length = 54 ∧
    ((∀ k < 54, s.failureAt e.slip k = none) →
      (settle id e s).out = Text.ofLines e.slip ∧
      ((settle id e s).out, (settle id e s).sink) = s.writeAll e.slip ∧
      (settle id e s).sink = s.after 54 (settle id e s).out.length ∧
      ∃ report, (settle id e s).result = .ok report ∧ report.lineCount = 54) ∧
    (∀ k < 54, ∀ failure, (∀ j < k, s.failureAt e.slip j = none) → s.failureAt e.slip k = some failure →
      (settle id e s).out = Text.ofLines (e.slip.take k) ++ s.acceptedAt e.slip k ∧
      s.acceptedAt e.slip k <+: e.slip.getD k [] ++ [Text.newline] ∧
      ((settle id e s).out, (settle id e s).sink) = s.writeAll (e.slip.take (k + 1)) ∧
      (settle id e s).sink = s.after (k + 1) (settle id e s).out.length ∧
      (settle id e s).result = .error (.interrupted (k + 1) failure) ∧
      (RunError.interrupted (k + 1) failure).message =
        Text.ofString "imprimir línea " ++ Text.ofNat (k + 1) ++ Text.ofString ": console: " ++ failure.message) := by
  obtain ⟨hlength, bonus, settlement, average, hrun⟩ := settle_eq_conclude haccepted id s hdefined
  refine ⟨hlength, ?_, ?_⟩
  · intro hnone
    have hnone : ∀ k < e.slip.length, s.failureAt e.slip k = none := by rwa [hlength]
    rw [hrun, s.writeAll_of_noFailure hnone, s.printLines_of_noFailure hnone, hlength]
    exact ⟨rfl, rfl, rfl, _, rfl, rfl⟩
  · intro k hk failure hbefore hfailure
    have hk : k < e.slip.length := by rwa [hlength]
    rw [hrun, s.writeAll_of_firstFailure hk hbefore hfailure, s.printLines_of_firstFailure hk hbefore hfailure]
    refine ⟨rfl, s.acceptedAt_isPrefix e.slip k, rfl, rfl, rfl, ?_⟩
    have htext : Text.ofString ": console: " = Text.ofString ": " ++ Text.ofString "console: " := by decide +kernel
    simp [RunError.message, Sink.Failure.lineMessage, htext]

/-- The standard employee, on a sink with room for the first line and three bytes of the second. -/
theorem settle_writes_slip_standard :
    (settle ⟨[]⟩ .standard { room := some 30 }).out = Text.ofString "Salario Neto: 48875.733125\n202" ∧
      (settle ⟨[]⟩ .standard { room := some 30 }).sink.writes = 2 ∧
      (settle ⟨[]⟩ .standard { room := some 30 }).result = .error (.interrupted 2 .full) := by
  have hdefined : ∀ cause, (settle ⟨[]⟩ .standard { room := some 30 }).result ≠ .error (.overflow cause) := by
    have hresult : (settle ⟨[]⟩ .standard { room := some 30 }).result = .error (.interrupted 2 .full) := by
      decide +kernel
    simp [hresult]
  obtain ⟨hout, -, -, hsink, hresult, -⟩ :=
    (settle_writes_slip (by decide +kernel) ⟨[]⟩ { room := some 30 } hdefined).2.2 1 (by decide) .full
      (by decide +kernel) (by decide +kernel)
  refine ⟨?_, ?_, hresult⟩
  · rw [hout]; decide +kernel
  · rw [hsink]; rfl

end Run

end PayRun
