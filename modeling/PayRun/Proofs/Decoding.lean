import Mathlib
import PayRun.Proofs.ClosedForm
import PayRun.Proofs.PrintedAmount
import PayRun.Proofs.Spelling

/-!
# Reading a pay slip back

The bytes of a pay slip determine what was printed.  All lines but the name are free of newlines, so whatever bytes
the name holds, a reader who cuts the output at its newlines finds the net salary in the first line and in the last
but one, the daily average in the last, and the tier in line 51 (`Report.readLines_slip`).

* Two pay slips are equal exactly if name, net salary and daily average are, and the printed amounts are read back
  with their values (`Run.out_decodes`).
-/

namespace PayRun

namespace Report

/-- The first line of a pay slip. -/
def netLine (net : Decimal) : Text := Text.ofString "Salario Neto: " ++ net.toText

/-- The lines between the first one and the tier, which are the same on every pay slip. -/
def calendarLines : List Text :=
  Calendar.years.flatMap yearLines ++ (Calendar.span 1 Calendar.monthsShown).flatMap monthLines ++
    (Calendar.span 1 Calendar.periods).flatMap periodLines

theorem openingLines_eq (net : Decimal) : openingLines net = netLine net :: calendarLines := by
  simp [openingLines, calendarLines, netLine]

private theorem length_calendarLines : calendarLines.length = 49 := by
  have h := length_openingLines Decimal.zero
  rw [openingLines_eq, List.length_cons] at h
  omega

theorem newline_not_mem_tier (tier : Tier) : Text.newline ∉ tier.label := by
  cases tier <;> decide

/-- The lines of the calendar hold neither line breaks nor signs. -/
theorem ne_of_mem_calendarLines {l : Text} (h : l ∈ calendarLines) {b : UInt8} (hb : b ∈ l) :
    b ≠ Text.newline ∧ b ≠ '-'.toUInt8 := by
  have hall : calendarLines.all (·.all fun b => b != Text.newline && b != '-'.toUInt8) = true := by decide +kernel
  simpa using List.all_eq_true.1 (List.all_eq_true.1 hall l h) b hb

theorem newline_not_mem_openingLines {net : Decimal} {l : Text} (h : l ∈ openingLines net) : Text.newline ∉ l := by
  have hlabel : Text.newline ∉ Text.ofString "Salario Neto: " := by decide
  rw [openingLines_eq, List.mem_cons] at h
  rcases h with rfl | h
  · intro hmem
    rcases List.mem_append.1 hmem with hmem | hmem
    · exact hlabel hmem
    · exact net.newline_not_mem_toText hmem
  · exact fun hmem => (ne_of_mem_calendarLines h hmem).1 rfl

/-- The bytes of a pay slip, with the name set apart. -/
theorem ofLines_lines (name : Text) (net average : Decimal) :
    Text.ofLines (lines name net average) =
      Text.ofLines (openingLines net ++ [(Tier.of net).label]) ++
        (name ++ Text.newline :: (Text.ofLines [net.toText, average.toText])) := by
  simp [lines, closingLines, Text.ofLines]

/-- What a reader finds on a pay slip: only the name can take up more than one line. -/
theorem readLines_slip (name : Text) (net average : Decimal) :
    Text.readLines (Text.ofLines (lines name net average)) =
      netLine net :: calendarLines ++ (Tier.of net).label :: name.splitOn Text.newline ++
        [net.toText, average.toText] := by
  have hhead : ∀ l ∈ openingLines net ++ [(Tier.of net).label], Text.newline ∉ l := by
    intro l hl
    rcases List.mem_append.1 hl with hl | hl
    · exact newline_not_mem_openingLines hl
    · rw [List.mem_singleton.1 hl]
      exact newline_not_mem_tier _
  have htail : ∀ l ∈ [net.toText, average.toText], Text.newline ∉ l := by
    intro l hl
    simp only [List.mem_cons, List.not_mem_nil, or_false] at hl
    rcases hl with rfl | rfl
    · exact net.newline_not_mem_toText
    · exact average.newline_not_mem_toText
  have hend := Text.splitOn_ofLines htail []
  rw [List.append_nil] at hend
  -- the newline at the very end leaves an empty piece behind
  have hall : (Text.ofLines (lines name net average)).splitOn Text.newline =
      (netLine net :: calendarLines ++ (Tier.of net).label :: name.splitOn Text.newline ++
        [net.toText, average.toText]) ++ [[]] := by
    rw [ofLines_lines, Text.splitOn_ofLines hhead, List.splitOn_append_cons_self, hend, openingLines_eq]
    simp
  rw [Text.readLines, hall, List.dropLast_concat]

/-- The bytes of a pay slip determine the name and the values of the amounts. -/
private theorem ofLines_lines_inj {name name' : Text} {net net' average average' : Decimal} :
    Text.ofLines (lines name net average) = Text.ofLines (lines name' net' average') ↔
      name = name' ∧ net.toRat = net'.toRat ∧ average.toRat = average'.toRat := by
  constructor
  · intro h
    have hread := congrArg Text.readLines h
    rw [readLines_slip, readLines_slip] at hread
    have hnet : net.toRat = net'.toRat := by
      have hfirst := (List.cons.inj hread).1
      exact Decimal.toText_eq_iff.1 (List.append_cancel_left hfirst)
    have haverage : average.toRat = average'.toRat := by
      have hlast := congrArg List.getLast? hread
      simp only [List.getLast?_append, List.getLast?_cons_cons, List.getLast?_singleton, Option.some_or,
        Option.some.injEq] at hlast
      exact Decimal.toText_eq_iff.1 hlast
    -- all but the name is the same in both, before it and after it
    rw [ofLines_lines, ofLines_lines, openingLines_eq, openingLines_eq, netLine, netLine, Tier.of_congr hnet,
      Decimal.toText_eq_of_toRat_eq hnet, Decimal.toText_eq_of_toRat_eq haverage] at h
    exact ⟨List.append_cancel_right (List.append_cancel_left h), hnet, haverage⟩
  · rintro ⟨rfl, hnet, haverage⟩
    rw [lines_congr hnet haverage]

end Report

namespace Run

/-- The output of a run with a report determines the name and the values of the amounts, and the amounts are read
back from it. -/
theorem out_decodes {id id' : RunId} {e e' : Employee} {s s' : Sink} {r r' : Report}
    (hrun : (settle id e s).result = .ok r) (hrun' : (settle id' e' s').result = .ok r') :
    ((settle id e s).out = (settle id' e' s').out ↔
      e.name = e'.name ∧ r.settlement.netSalary.toRat = r'.settlement.netSalary.toRat ∧
        r.averageDaily.toRat = r'.averageDaily.toRat) ∧
    ∃ first tier lastButOne last net net' average,
      (Text.readLines (settle id e s).out).head? = some (Text.ofString "Salario Neto: " ++ first) ∧
      (Text.readLines (settle id e s).out)[50]? = some tier ∧
      (Text.readLines (settle id e s).out).dropLast.getLast? = some lastButOne ∧
      (Text.readLines (settle id e s).out).getLast? = some last ∧
      Decimal.parse first = .ok net ∧ net.toRat = r.settlement.netSalary.toRat ∧
      Decimal.parse lastButOne = .ok net' ∧ net'.toRat = r.settlement.netSalary.toRat ∧
      Decimal.parse last = .ok average ∧ average.toRat = r.averageDaily.toRat ∧
      (tier = Text.ofString "Salario alto" ↔ 35000 < net.toRat) := by
  have hname := (runId_name_of_report hrun).2
  have hname' := (runId_name_of_report hrun').2
  obtain ⟨net, hparse, hnet⟩ := Decimal.parse_toText r.settlement.netSalary
  obtain ⟨average, hparseAverage, haverage⟩ := Decimal.parse_toText r.averageDaily
  rw [(out_of_report hrun).1, (out_of_report hrun').1, hname, hname', Report.ofLines_lines_inj, Report.readLines_slip]
  refine ⟨Iff.rfl, r.settlement.netSalary.toText, (Tier.of r.settlement.netSalary).label,
    r.settlement.netSalary.toText, r.averageDaily.toText, net, net, average, rfl, ?_, ?_, ?_, hparse, hnet, hparse,
    hnet, hparseAverage, haverage, ?_⟩
  · have hlength : (Report.netLine r.settlement.netSalary :: Report.calendarLines).length = 50 := by
      rw [List.length_cons, Report.length_calendarLines]
    rw [List.append_assoc, List.getElem?_append_right (by omega), hlength]
    rfl
  · have hends : ∀ x : List Text, (x ++ [r.settlement.netSalary.toText, r.averageDaily.toText]).dropLast.getLast? =
        some r.settlement.netSalary.toText := by
      intro x
      rw [List.dropLast_append_of_ne_nil (by simp)]
      simp
    exact hends _
  · rw [List.getLast?_append]
    rfl
  · rw [hnet]
    exact Tier.label_of_eq_iff

/-- A name with a line of its own that looks like an amount: the output differs from that of the bare name, and the
amounts are read back all the same. -/
theorem out_decodes_forged :
    let e := { Employee.standard with name := "Ana" }
    let e' := { Employee.standard with name := "Ana\n1" }
    ∃ r r', (settle ⟨[]⟩ e {}).result = .ok r ∧ (settle ⟨[]⟩ e' {}).result = .ok r' ∧
      (settle ⟨[]⟩ e' {}).out ≠ (settle ⟨[]⟩ e {}).out ∧
      ∃ text net, (Text.readLines (settle ⟨[]⟩ e' {}).out).dropLast.getLast? = some text ∧
        Decimal.parse text = .ok net ∧ net.toRat = r'.settlement.netSalary.toRat := by
  intro e e'
  have hok : (settle ⟨[]⟩ e {}).result.isOk = true := by decide +kernel
  have hok' : (settle ⟨[]⟩ e' {}).result.isOk = true := by decide +kernel
  obtain ⟨r, hr⟩ := exists_report hok
  obtain ⟨r', hr'⟩ := exists_report hok'
  obtain ⟨hout, -, -, text, -, -, net, -, -, -, htext, -, -, -, hparse, hnet, -⟩ := out_decodes hr' hr
  refine ⟨r, r', hr, hr', ?_, text, net, htext, hparse, hnet⟩
  intro heq
  have hname : e'.name ≠ e.name := by decide +kernel
  exact hname (hout.1 heq).1

end Run

end PayRun
