import PayRun.Text.Basic

/-!
# The calendar of a run

The years, months and periods that a run shows, and the hours that it counts.  All numbers are words of 64 bits,
so products wrap around.
-/

namespace PayRun.Calendar

def firstYear : Int64 := 2020

def lastYear : Int64 := 2024

def quartersShown : Int64 := 2

def monthsShown : Int64 := 4

def weeksPerMonth : Int64 := 4

def periods : Int64 := 2

def daysPerPeriod : Int64 := 3

/-- The numbers from `first` to `last`. -/
def span (first last : Int64) : List Int64 :=
  (List.range (last.toInt - first.toInt + 1).toNat).map fun i => first + Int64.ofNat i

def years : List Int64 := span firstYear lastYear

def quarterlyEarning (year quarter : Int64) : Int64 := year * quarter

/-- The days of a month: February has 28 and April 30, every other number 31. -/
def daysInMonth (month : Int64) : Int64 := if month = 2 then 28 else if month = 4 then 30 else 31

def weekHours (weeks : Int64) : Int64 := weeks * 40

def dayHours (days : Int64) : Int64 := days * 8

/-- More than eight hours are overtime. -/
def isOvertime (hours : Int64) : Bool := 8 < hours

def overtimeLabel : Text := "Horas extras"

def normalLabel : Text := "Horas normales"

def hoursLabel (hours : Int64) : Text := if isOvertime hours then overtimeLabel else normalLabel

end PayRun.Calendar
