import PayRun.Employee.Basic
import PayRun.Decimal.Printer

/-!
# Refused employees

An employee with a negative salary, a tax rate outside `[0, 1]` or no days worked is refused before anything is
computed.  The salary is looked at first, then the rate, then the days.
-/

namespace PayRun

inductive Refusal where
  | negativeSalary (salary : Decimal)
  | taxRateOutOfRange (rate : Decimal)
  | noDaysWorked
  deriving DecidableEq, Repr

namespace Refusal

def invalidInput : Text := "entrada inválida"

def noDaysText : Text := "el empleado no registra días trabajados"

def message : Refusal → Text
  | negativeSalary salary => List.flatten [invalidInput, ": salario negativo ", salary.toText]
  | taxRateOutOfRange rate => List.flatten [invalidInput, ": tasa de impuesto fuera de [0,1]: ", rate.toText]
  | noDaysWorked => noDaysText

end Refusal

/-- The reason to refuse an employee, if there is one. -/
def Employee.refusal? (e : Employee) : Option Refusal :=
  if e.salary.IsNegative then some (.negativeSalary e.salary)
  else if e.taxRate.IsNegative ∨ Decimal.ofInt 1 < e.taxRate then some (.taxRateOutOfRange e.taxRate)
  else if e.daysWorked ≤ 0 then some .noDaysWorked
  else none

end PayRun
