import PayRun.Text.Basic

/-!
# Moments

A moment is a date and a time of day in universal time, to the second.  It is written in full
(`2024-02-29T15:04:05Z`) or as on a kitchen clock (`3:04PM`), and it can be told from the seconds since the
start of 1970 (`ofSeconds`).
-/

namespace PayRun

structure Moment where
  year : Nat
  month : Nat
  day : Nat
  hour : Nat
  minute : Nat
  second : Nat
  deriving DecidableEq, Repr

namespace Moment

/-- The moment in full. -/
def full (m : Moment) : Text :=
  List.flatten [Text.ofNatPadded 4 m.year, "-", Text.ofNatPadded 2 m.month, "-", Text.ofNatPadded 2 m.day, "T",
    Text.ofNatPadded 2 m.hour, ":", Text.ofNatPadded 2 m.minute, ":", Text.ofNatPadded 2 m.second, "Z"]

/-- The hour on a clock of twelve hours. -/
def clockHour (m : Moment) : Nat := if m.hour % 12 = 0 then 12 else m.hour % 12

/-- The time of day on a kitchen clock. -/
def kitchen (m : Moment) : Text :=
  List.flatten [Text.ofNat m.clockHour, ":", Text.ofNatPadded 2 m.minute, if m.hour < 12 then "AM" else "PM"]

/-! ### Counting seconds -/

/-- The month and the day of a day of a year that starts with March, both counted from zero. -/
def monthAndDay (dayOfYear : Nat) : Nat × Nat :=
  let month := (5 * dayOfYear + 2) / 153
  (month, dayOfYear - (153 * month + 2) / 5)

/-- The moment so many seconds after the start of 1970.  Days are counted from the first of March of the year 0,
in cycles of 400 years, 100 years, 4 years and one year, so that a leap day is the last day of its cycles. -/
def ofSeconds (seconds : Nat) : Moment :=
  let days := seconds / 86400 + 719468
  let ofCycle := days % 146097
  let century := min (ofCycle / 36524) 3
  let ofCentury := ofCycle - 36524 * century
  let ofLeap := ofCentury % 1461
  let year := min (ofLeap / 365) 3
  let (month, day) := monthAndDay (ofLeap - 365 * year)
  let marchYear := 400 * (days / 146097) + 100 * century + 4 * (ofCentury / 1461) + year
  { year := if month < 10 then marchYear else marchYear + 1
    month := if month < 10 then month + 3 else month - 9
    day := day + 1
    hour := seconds / 3600 % 24
    minute := seconds / 60 % 60
    second := seconds % 60 }

end Moment

end PayRun
