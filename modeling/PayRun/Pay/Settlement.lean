import PayRun.Employee.Basic

/-!
# Settlements

The final salary is the salary and the bonus, the tax is a share of it, and the rest is the net salary.  The net
salary is then averaged over the days worked, to sixteen places, and put into one of two tiers.
-/

namespace PayRun

structure Settlement where
  finalSalary : Decimal
  tax : Decimal
  netSalary : Decimal
  deriving DecidableEq, Repr

/-- Settles a salary with its bonus at a tax rate. -/
def Settlement.of (salary bonus taxRate : Decimal) : Except Decimal.Overflow Settlement := do
  let tax ← (salary + bonus).mul taxRate
  return { finalSalary := salary + bonus, tax := tax, netSalary := salary + bonus - tax }

/-! ### Daily average -/

inductive AverageError where
  | noDaysWorked
  | overflow (cause : Decimal.Overflow)
  deriving DecidableEq, Repr

/-- The amount that is returned beside an error.  An overflow returns nothing. -/
def AverageError.amount? : AverageError → Option Decimal
  | .noDaysWorked => some .zero
  | .overflow _ => none

/-- The net salary of a day worked. -/
def averageDaily (netSalary : Decimal) (daysWorked : Int64) : Except AverageError Decimal :=
  if daysWorked ≤ 0 then .error .noDaysWorked
  else (netSalary.divNat daysWorked.toInt.toNat).mapError .overflow

/-! ### Tiers -/

inductive Tier where
  | high
  | moderate
  deriving DecidableEq, Repr

/-- The net salary above which the tier is high. -/
def Tier.threshold : Decimal := .ofInt 35000

def Tier.of (netSalary : Decimal) : Tier := if threshold < netSalary then high else moderate

def Tier.label : Tier → Text
  | high => "Salario alto"
  | moderate => "Salario moderado"

end PayRun
