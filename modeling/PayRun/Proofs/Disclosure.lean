import Mathlib
import PayRun.Proofs.Bonus
import PayRun.Proofs.Decoding

/-!
# What a pay slip tells about an employee

Of all that is known of an employee a pay slip shows the name and what follows from the salary, the tax rate and
the days worked.  Of the age and the projects only one bit each has a say: whether the employee is of age, and
whether there are more than three projects.  Two employees who agree in these are paid alike
(`Employee.PaidAlike`).

* Runs of two employees who are paid alike and have the same name cannot be told apart by what they print, by the sink
  they leave behind or by how they end.  Their reports differ at most in the values that are not printed
  (`Run.settle_alike`).
* With other names the outputs differ in line 52 and nowhere else (`Run.outs_differ_in_name`).
-/

namespace PayRun

/-! ### Employees who are paid alike -/

namespace Employee

/-- Employees for whom every amount is the same. -/
structure PaidAlike (e e' : Employee) : Prop where
  salary : e'.salary = e.salary
  taxRate : e'.taxRate = e.taxRate
  daysWorked : e'.daysWorked = e.daysWorked
  minor : e'.age < 18 ↔ e.age < 18
  manyProjects : 3 < e'.totalProjects ↔ 3 < e.totalProjects

namespace PaidAlike

variable {e e' : Employee} (h : e.PaidAlike e')

include h

private theorem refusal : e'.refusal? = e.refusal? := by
  simp only [refusal?, h.salary, h.taxRate, h.daysWorked]

private theorem bonus : e'.bonus = e.bonus := by
  by_cases hminor : e.age < 18
  · rw [bonus_of_minor hminor, bonus_of_minor (h.minor.2 hminor)]
  · have hcents : e'.bonusCents = e.bonusCents := by
      simp only [bonusCents, h.salary, h.daysWorked, h.manyProjects]
    rw [bonus_of_adult hminor, bonus_of_adult (mt h.minor.1 hminor), hcents, h.salary]

private theorem amounts : Run.amounts e' = Run.amounts e := by
  rw [Run.amounts, Run.amounts, h.bonus, h.salary, h.taxRate]

end PaidAlike

end Employee

/-! ### Their runs -/

namespace Run

/-- Results that agree in all but the values of a report that are neither printed nor used for what is. -/
inductive EndAlike : Except RunError Report → Except RunError Report → Prop where
  | report {r r' : Report}
      (h : r' = { r with
        isEmployed := r'.isEmployed, productivity := r'.productivity, ageAfter := r'.ageAfter }) :
      EndAlike (.ok r) (.ok r')
  | error (x : RunError) : EndAlike (.error x) (.error x)

private theorem conclude_alike {e e' : Employee} (h : e.PaidAlike e') (hname : e'.name = e.name) (id : RunId)
    (bonus : Decimal) (settlement : Settlement) (average : Decimal) (p : Printout) :
    EndAlike (conclude id e bonus settlement average p).result
      (conclude id e' bonus settlement average p).result := by
  unfold conclude
  cases p.failure with
  | some failure => exact .error _
  | none =>
    refine .report ?_
    simp only [report, hname, h.daysWorked]

/-- Runs of employees who are paid alike print the same, leave the same sink behind and end alike, whether they are
refused, overflow, are interrupted or give a report. -/
theorem settle_alike {e e' : Employee} (h : e.PaidAlike e') (hname : e'.name = e.name) (id : RunId) (s : Sink) :
    (settle id e' s).out = (settle id e s).out ∧ (settle id e' s).sink = (settle id e s).sink ∧
      EndAlike (settle id e s).result (settle id e' s).result := by
  cases hrefusal : e.refusal? with
  | some refusal =>
    simp only [settle, hrefusal, h.refusal]
    exact ⟨trivial, trivial, .error _⟩
  | none =>
    rw [settle_of_accepted hrefusal, settle_of_accepted (h.refusal.trans hrefusal)]
    rcases perform_cases id e s with ⟨cause, ha, hrun⟩ | ⟨bonus, settlement, cause, ha, hd, hrun⟩ |
      ⟨bonus, settlement, average, ha, hd, hrun⟩
    · rw [hrun, perform_of_amounts_error id s (h.amounts.trans ha)]
      exact ⟨rfl, rfl, .error _⟩
    · rw [← h.daysWorked] at hd
      rw [hrun, perform_of_average_error id s (h.amounts.trans ha) hd]
      exact ⟨rfl, rfl, .error _⟩
    · rw [← h.daysWorked] at hd
      rw [hrun, perform_of_average id s (h.amounts.trans ha) hd, hname]
      refine ⟨?_, ?_, conclude_alike h hname id bonus settlement average _⟩
      · rw [out_conclude, out_conclude]
      · rw [sink_conclude, sink_conclude]

/-- The pay slips of employees who are paid alike are the same but for the name, which is line 52. -/
theorem outs_differ_in_name {e e' : Employee} (h : e.PaidAlike e') {id id' : RunId} {s s' : Sink} {r r' : Report}
    (hrun : (settle id e s).result = .ok r) (hrun' : (settle id' e' s').result = .ok r') :
    ∃ before after : List Text, before.length = 51 ∧ after.length = 2 ∧
      (∀ l ∈ before ++ after, Text.newline ∉ l) ∧
      (settle id e s).out = Text.ofLines (before ++ e.name :: after) ∧
      (settle id' e' s').out = Text.ofLines (before ++ e'.name :: after) := by
  obtain ⟨-, bonus, settlement, average, ha, hd, hr⟩ := settle_eq_ok hrun
  obtain ⟨-, bonus', settlement', average', ha', hd', hr'⟩ := settle_eq_ok hrun'
  -- both slips show one net salary and one daily average
  obtain ⟨rfl, rfl⟩ := Prod.mk.inj (Except.ok.inj (ha.symm.trans (h.amounts.symm.trans ha')))
  rw [h.daysWorked] at hd'
  obtain rfl := Except.ok.inj (hd.symm.trans hd')
  have hslip (name : Text) : Report.lines name settlement.netSalary average =
      (Report.openingLines settlement.netSalary ++ [(Tier.of settlement.netSalary).label]) ++
        name :: [settlement.netSalary.toText, average.toText] := by
    rw [Report.lines, Report.closingLines, List.append_assoc]
    rfl
  have hout := (out_of_report hrun).1
  have hout' := (out_of_report hrun').1
  rw [hr] at hout
  rw [hr'] at hout'
  refine ⟨_, _, ?_, ?_, ?_, hout.trans (congrArg Text.ofLines (hslip e.name)),
    hout'.trans (congrArg Text.ofLines (hslip e'.name))⟩
  · rw [List.length_append, Report.length_openingLines, List.length_singleton]
  · rfl
  · intro l hl
    simp only [List.mem_append, List.mem_cons, List.not_mem_nil, or_false] at hl
    rcases hl with (hl | rfl) | rfl | rfl
    · exact Report.newline_not_mem_openingLines hl
    · exact Report.newline_not_mem_tier _
    · exact Decimal.newline_not_mem_toText _
    · exact Decimal.newline_not_mem_toText _

end Run

/-! ### Sessions -/

/-- A run tells nothing of an employee but the name and the pay.  From equal sinks and equal streams of ids, runs of
employees who are paid alike and have the same name answer alike, on every way in which a run can end.  The outputs of
two such employees with reports, whatever their names, differ in line 52 alone, and there exactly if the names do. -/
theorem Session.settle_discloses {e e' : Employee} (h : e.PaidAlike e') :
    (e'.name = e.name → ∀ s s' : Session, s'.sink = s.sink → s'.ids = s.ids →
      ∃ result result' out log log', (s.settle e).2 = .ran result out log ∧ (s'.settle e').2 = .ran result' out log' ∧
        Run.EndAlike result result' ∧ (s'.settle e').1.sink = (s.settle e).1.sink ∧
        (s'.settle e').1.ids = (s.settle e).1.ids) ∧
    (∀ (id id' : RunId) (s s' : Sink) (r r' : Report),
      (Run.settle id e s).result = .ok r → (Run.settle id' e' s').result = .ok r' →
      ∃ before after : List Text, before.length = 51 ∧ after.length = 2 ∧
        (∀ l ∈ before ++ after, Text.newline ∉ l) ∧
        (Run.settle id e s).out = Text.ofLines (before ++ e.name :: after) ∧
        (Run.settle id' e' s').out = Text.ofLines (before ++ e'.name :: after) ∧
        ((Run.settle id' e' s').out = (Run.settle id e s).out ↔ e'.name = e.name)) := by
  constructor
  · intro hname s s' hsink hids
    obtain ⟨hout, hsinks, hend⟩ := Run.settle_alike h hname s.ids.draw.1 s.sink
    refine ⟨_, _, _, _, s'.log (Run.settle s.ids.draw.1 e' s.sink).events, rfl, ?_, hend, ?_, ?_⟩
    · rw [settle, hids, hsink, hout]
    · simp only [settle, hids, hsink, hsinks]
    · simp only [settle, idsAfter, hids, h.refusal]
  · intro id id' s s' r r' hrun hrun'
    obtain ⟨before, after, hbefore, hafter, hlines, hout, hout'⟩ := Run.outs_differ_in_name h hrun hrun'
    refine ⟨before, after, hbefore, hafter, hlines, hout, hout', ?_⟩
    rw [hout, hout', Text.ofLines_append, Text.ofLines_append, Text.ofLines_cons, Text.ofLines_cons]
    exact ⟨fun heq => List.append_cancel_right (List.append_cancel_left heq), fun hname => by rw [hname]⟩

/-- An older employee in another category, who has left and has more projects: on a sink that fails at line 52 the
runs end with the same error, and with another name on a sink that works only that line differs. -/
theorem Session.settle_discloses_retired :
    let e := { Employee.standard with age := 64, category := 90, active := false, totalProjects := 9 }
    let sink : Sink := { refuses := fun n => if n = 52 then some .brokenPipe else none }
    let s : Session :=
      { sink := sink, logger := none, ids := { byte := UInt8.ofNat }, now := ⟨2024, 2, 29, 15, 4, 5⟩ }
    Employee.standard.PaidAlike e ∧ e.productivity ≠ Employee.standard.productivity ∧
      (∃ out log, (s.settle .standard).2 = .ran (.error (.interrupted 52 .brokenPipe)) out log ∧
        ∃ log', (s.settle e).2 = .ran (.error (.interrupted 52 .brokenPipe)) out log') ∧
      ∃ before after : List Text, before.length = 51 ∧ after.length = 2 ∧
        (Run.settle ⟨[]⟩ .standard {}).out = Text.ofLines (before ++ Employee.standard.name :: after) ∧
        (Run.settle ⟨[]⟩ { e with name := "Ana\nLuz" } {}).out =
          Text.ofLines (before ++ Text.ofString "Ana\nLuz" :: after) := by
  intro e sink s
  have halike : Employee.standard.PaidAlike e := ⟨rfl, rfl, rfl, by decide, by decide⟩
  have halike' : Employee.standard.PaidAlike { e with name := "Ana\nLuz" } := ⟨rfl, rfl, rfl, by decide, by decide⟩
  have hresult : (Run.settle s.ids.draw.1 .standard s.sink).result = .error (.interrupted 52 .brokenPipe) := by
    decide
  have hok : (Run.settle ⟨[]⟩ .standard {}).result.isOk = true := by decide
  have hok' : (Run.settle ⟨[]⟩ { e with name := "Ana\nLuz" } {}).result.isOk = true := by decide
  obtain ⟨r, hr⟩ := Run.exists_report hok
  obtain ⟨r', hr'⟩ := Run.exists_report hok'
  obtain ⟨result, result', out, log, log', hanswer, hanswer', hend, -⟩ :=
    (settle_discloses halike).1 rfl s s rfl rfl
  obtain ⟨before, after, hbefore, hafter, -, hout, hout', -⟩ :=
    (settle_discloses halike').2 ⟨[]⟩ ⟨[]⟩ {} {} r r' hr hr'
  obtain rfl : result = .error (.interrupted 52 .brokenPipe) := (Answer.ran.inj hanswer).1.symm.trans hresult
  cases hend
  exact ⟨halike, by decide, ⟨out, log, hanswer, log', hanswer'⟩, before, after, hbefore, hafter, hout, hout'⟩

end PayRun
