import PayRun.Employee.Basic

/-!
# Bonus and productivity

The bonus of an adult is a share of the salary; the share depends on the salary, the days worked and the
projects, and a minor has none.  The productivity is a mark between 0.80 and 1.00 that no amount depends on.
-/

namespace PayRun.Employee

/-- The salary above which the bonus depends on the days worked. -/
def bonusThreshold : Decimal := .ofInt 40000

/-- The share of the salary that is added for projects after a full year. -/
def projectRate (e : Employee) : Decimal := if 3 < e.totalProjects then .cents 5 else .cents 2

/-- The bonus.  After a full year it is a share of its own and one for the projects, each taken of the salary. -/
def bonus (e : Employee) : Except Decimal.Overflow Decimal :=
  if e.age < 18 then .ok .zero
  else if ¬ bonusThreshold < e.salary then e.salary.mul (.cents 3)
  else if e.daysWorked < 240 then e.salary.mul (.cents 5)
  else do
    let fullYear ← e.salary.mul (.cents 10)
    let projects ← e.salary.mul e.projectRate
    return fullYear + projects

/-- The category with the highest productivity, by its code point. -/
def topCategory : Int32 := 65

def productivity (e : Employee) : Decimal :=
  if e.daysWorked ≤ 240 then .cents 80
  else if e.totalProjects ≤ 5 then .cents 90
  else if e.category = topCategory then .cents 98 + .cents 2
  else .cents 98 - .cents 1

end PayRun.Employee
