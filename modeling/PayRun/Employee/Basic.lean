import PayRun.Decimal.Basic

/-!
# Employees

What is known of an employee when the pay is settled.  Counts are words of 64 bits, and a category is a code
point.
-/

namespace PayRun

structure Employee where
  name : Text
  age : Int64
  salary : Decimal
  category : Int32
  active : Bool
  daysWorked : Int64
  taxRate : Decimal
  totalProjects : Int64
  deriving DecidableEq, Repr

namespace Employee

/-- The employee whose pay is settled if no other is named. -/
def standard : Employee where
  name := "Sistema Avanzado"
  age := 25
  salary := .cents 5000075
  category := 65
  active := true
  daysWorked := 250
  taxRate := .cents 15
  totalProjects := 5

end Employee

end PayRun
