import Mathlib
import PayRun.Calendar

/-!
# Overtime and wrapped hours

The hours of a day are compared with eight only after they have been multiplied in a word of 64 bits, so overtime is
not monotone in the day.  The product forgets the three highest bits of the day: the wrapped hours are eight times the
day as a signed number of 61 bits (`Calendar.toInt_dayHours`), and repeat after `2 ^ 61` days.

* Overtime is labelled exactly for the days whose residue modulo `2 ^ 61` lies between 2 and `2 ^ 60 - 1`
  (`Calendar.hoursLabel_dayHours`).
-/

namespace PayRun.Calendar

/-- The wrapped hours of a day. -/
theorem toInt_dayHours (day : Int64) : (dayHours day).toInt = 8 * day.toInt.bmod (2 ^ 61) := by
  have height : (8 : Int64).toInt = 8 := rfl
  rw [dayHours, Int64.toInt_mul, height]
  simp only [Int.bmod]
  omega

/-- The hours are exact as long as the product fits. -/
private theorem toInt_dayHours_eq_iff (day : Int64) :
    (dayHours day).toInt = 8 * day.toInt ↔ -2 ^ 60 ≤ day.toInt ∧ day.toInt < 2 ^ 60 := by
  rw [toInt_dayHours]
  simp only [Int.bmod]
  omega

private theorem isOvertime_iff (hours : Int64) : isOvertime hours = true ↔ 8 < hours.toInt := by
  have height : (8 : Int64).toInt = 8 := rfl
  rw [isOvertime, decide_eq_true_iff, Int64.lt_iff_toInt_lt, height]

/-- A day has overtime exactly if it is in the lower half of its period, and not at its very start. -/
private theorem isOvertime_dayHours_iff (day : Int64) :
    isOvertime (dayHours day) = true ↔ 2 ≤ day.toInt % 2 ^ 61 ∧ day.toInt % 2 ^ 61 ≤ 2 ^ 60 - 1 := by
  rw [isOvertime_iff, toInt_dayHours]
  simp only [Int.bmod]
  omega

/-- The two labels tell overtime from normal hours. -/
private theorem hoursLabel_eq_iff (hours : Int64) :
    (hoursLabel hours = Text.ofString "Horas extras" ↔ isOvertime hours = true) ∧
      (hoursLabel hours = Text.ofString "Horas normales" ↔ ¬ isOvertime hours = true) := by
  have hne : normalLabel ≠ overtimeLabel := by decide
  unfold hoursLabel
  split
  · rename_i hover
    exact ⟨iff_of_true rfl hover, iff_of_false (fun h => hne h.symm) (not_not.2 hover)⟩
  · rename_i hover
    exact ⟨iff_of_false hne hover, iff_of_true rfl hover⟩

/-- The label of a day is periodic.  It is the one of the true hours as long as these fit into a word, and wrong for
all days in the second half of the first period. -/
theorem hoursLabel_dayHours (day : Int64) :
    let label := hoursLabel (dayHours day)
    let residue := day.toInt % 2 ^ 61
    (label = Text.ofString "Horas extras" ↔ 2 ≤ residue ∧ residue ≤ 2 ^ 60 - 1) ∧
    (label = Text.ofString "Horas normales" ↔ ¬ (2 ≤ residue ∧ residue ≤ 2 ^ 60 - 1)) ∧
    (-2 ^ 60 ≤ day.toInt → day.toInt ≤ 2 ^ 60 - 1 → (label = Text.ofString "Horas extras" ↔ 2 ≤ day.toInt)) ∧
    (2 ^ 60 ≤ day.toInt → day.toInt < 2 ^ 61 →
      (dayHours day).toInt ≠ 8 * day.toInt ∧ label = Text.ofString "Horas normales" ∧ 8 < 8 * day.toInt) := by
  intro label residue
  obtain ⟨hextra, hnormal⟩ := hoursLabel_eq_iff (dayHours day)
  rw [isOvertime_dayHours_iff] at hextra hnormal
  refine ⟨hextra, hnormal, ?_, ?_⟩
  · intro hlow hhigh
    rw [hextra]
    omega
  · intro hlow hhigh
    refine ⟨?_, hnormal.2 (by omega), by omega⟩
    rw [Ne, toInt_dayHours_eq_iff]
    omega

/-- The first day whose hours do not fit has normal hours, and a period and two days after the start there is overtime
again. -/
theorem hoursLabel_dayHours_wrapped :
    hoursLabel (dayHours 1152921504606846976) = Text.ofString "Horas normales" ∧
      (dayHours 1152921504606846976).toInt ≠ 8 * 2 ^ 60 ∧
      hoursLabel (dayHours 2305843009213693954) = Text.ofString "Horas extras" := by
  have hday : (1152921504606846976 : Int64).toInt = 2 ^ 60 := by decide
  obtain ⟨hoverflow, hnormal, -⟩ := (hoursLabel_dayHours 1152921504606846976).2.2.2 (by decide) (by decide)
  rw [hday] at hoverflow
  exact ⟨hnormal, hoverflow, (hoursLabel_dayHours 2305843009213693954).1.2 (by decide)⟩

end PayRun.Calendar
