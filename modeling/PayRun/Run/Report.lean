import PayRun.Employee.Refusal
import PayRun.Pay.Merit
import PayRun.Pay.Settlement
import PayRun.Calendar
import PayRun.RunId

/-!
# Reports and printed lines

A run prints 54 lines and returns a report.  The lines depend on the name, the net salary and the daily average
alone: 50 lines up to the last period of the calendar (`openingLines`), and four at the end (`closingLines`).
-/

namespace PayRun

structure Report where
  runId : RunId
  name : Text
  bonus : Decimal
  settlement : Settlement
  hasBonus : Bool
  isEmployed : Bool
  yearSum : Int64
  productivity : Decimal
  averageDaily : Decimal
  tier : Tier
  ageAfter : Int64
  daysWorkedAfter : Int64
  lineCount : Nat
  deriving DecidableEq, Repr

namespace Report

def numberLine (n : Int64) : Text := Text.ofInt n.toInt

/-- The lines of a year: the year and its quarters. -/
def yearLines (year : Int64) : List Text :=
  numberLine year ::
    (Calendar.span 1 Calendar.quartersShown).map fun quarter => numberLine (Calendar.quarterlyEarning year quarter)

/-- The lines of a month: its days and the hours of its weeks. -/
def monthLines (month : Int64) : List Text :=
  numberLine (Calendar.daysInMonth month) ::
    (Calendar.span 1 Calendar.weeksPerMonth).map fun week => numberLine (Calendar.weekHours week)

/-- The lines of a period: its number, and the hours of its days with their label. -/
def periodLines (period : Int64) : List Text :=
  numberLine period ::
    (Calendar.span 1 Calendar.daysPerPeriod).flatMap fun day =>
      [numberLine (Calendar.dayHours day), Calendar.hoursLabel (Calendar.dayHours day)]

/-- The lines that do not need the daily average. -/
def openingLines (netSalary : Decimal) : List Text :=
  List.flatten ["Salario Neto: ", netSalary.toText] ::
    Calendar.years.flatMap yearLines ++
    (Calendar.span 1 Calendar.monthsShown).flatMap monthLines ++
    (Calendar.span 1 Calendar.periods).flatMap periodLines

@[simp] theorem length_openingLines (netSalary : Decimal) : (openingLines netSalary).length = 50 := by
  have hy : (Calendar.years.flatMap yearLines).length = 15 := by decide
  have hm : ((Calendar.span 1 Calendar.monthsShown).flatMap monthLines).length = 20 := by decide
  have hp : ((Calendar.span 1 Calendar.periods).flatMap periodLines).length = 14 := by decide
  simp only [openingLines, List.cons_append, List.length_cons, List.length_append, hy, hm, hp]

/-- The last lines: tier, name, net salary and daily average. -/
def closingLines (name : Text) (netSalary averageDaily : Decimal) : List Text :=
  [(Tier.of netSalary).label, name, netSalary.toText, averageDaily.toText]

def lines (name : Text) (netSalary averageDaily : Decimal) : List Text :=
  openingLines netSalary ++ closingLines name netSalary averageDaily

@[simp] theorem length_lines (name : Text) (netSalary averageDaily : Decimal) :
    (lines name netSalary averageDaily).length = 54 := by
  simp [lines, closingLines]

end Report

end PayRun
