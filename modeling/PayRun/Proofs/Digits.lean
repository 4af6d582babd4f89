import Mathlib
import PayRun.Text.Basic
import PayRun.Text.Whole

/-!
# Digits of a text

What the digits of a number are: digits only, at least one, and they read back as the number
(`Text.digitsValue_ofNat`).  A list of digits has the value of its beginning, shifted by the length of the rest, and
that of the rest (`Text.digitsValue_append`), so zeros in front do not count and zeros behind are powers of ten.
-/

namespace PayRun.Text

private theorem isDigit_digit {n : Nat} (h : n < 10) : isDigit (digit n) = true := by
  have hall : ∀ n < 10, isDigit (digit n) = true := by decide
  exact hall n h

private theorem digitValue_digit {n : Nat} (h : n < 10) : digitValue (digit n) = n := by
  have hall : ∀ n < 10, digitValue (digit n) = n := by decide
  exact hall n h

/-! ### The value of a list of digits -/

private theorem foldl_digits (n : Nat) (t : Text) :
    t.foldl (fun n b => 10 * n + digitValue b) n = n * 10 ^ t.length + digitsValue t := by
  induction t generalizing n with
  | nil => simp [digitsValue]
  | cons b r ih =>
    have hrest : digitsValue (b :: r) = (10 * 0 + digitValue b) * 10 ^ r.length + digitsValue r := ih _
    rw [List.foldl_cons, ih, hrest, List.length_cons]
    ring

theorem digitsValue_append (a b : Text) : digitsValue (a ++ b) = digitsValue a * 10 ^ b.length + digitsValue b := by
  rw [digitsValue, List.foldl_append]
  exact foldl_digits (digitsValue a) b

private theorem digitsValue_singleton (b : UInt8) : digitsValue [b] = digitValue b := by
  simp [digitsValue]

theorem digitsValue_replicate (k : Nat) : digitsValue (List.replicate k (digit 0)) = 0 := by
  induction k with
  | zero => rfl
  | succ k ih =>
    rw [List.replicate_succ', digitsValue_append, ih, digitsValue_singleton, digitValue_digit (by omega)]
    simp

/-! ### The digits of a number -/

theorem ofNat_ne_nil (n : Nat) : ofNat n ≠ [] := by
  by_cases h : n < 10
  · simp [ofNat_of_lt h]
  · simp [ofNat_of_ge (Nat.le_of_not_lt h)]

theorem isDigit_of_mem_ofNat {n : Nat} {b : UInt8} (h : b ∈ ofNat n) : isDigit b = true := by
  induction n using Nat.strongRecOn generalizing b with
  | _ n ih =>
    by_cases hn : n < 10
    · rw [ofNat_of_lt hn, List.mem_singleton] at h
      rw [h]
      exact isDigit_digit hn
    · rw [ofNat_of_ge (Nat.le_of_not_lt hn), List.mem_append, List.mem_singleton] at h
      rcases h with h | rfl
      · exact ih (n / 10) (by omega) h
      · exact isDigit_digit (Nat.mod_lt n (by omega))

/-- The digits of a number read back as the number. -/
theorem digitsValue_ofNat (n : Nat) : digitsValue (ofNat n) = n := by
  induction n using Nat.strongRecOn with
  | _ n ih =>
    by_cases hn : n < 10
    · rw [ofNat_of_lt hn, digitsValue_singleton, digitValue_digit hn]
    · have hlast : digitValue (digit (n % 10)) = n % 10 := digitValue_digit (Nat.mod_lt n (by omega))
      rw [ofNat_of_ge (Nat.le_of_not_lt hn), digitsValue_append, ih (n / 10) (by omega), digitsValue_singleton, hlast,
        List.length_singleton]
      omega

/-- Ten times a number has one more zero. -/
theorem ofNat_ten_mul {n : Nat} (h : 0 < n) : ofNat (10 * n) = ofNat n ++ [digit 0] := by
  have htens : 10 * n / 10 = n := by omega
  have hlast : 10 * n % 10 = 0 := by omega
  rw [ofNat_of_ge (by omega), htens, hlast]

/-! ### Numbers filled with zeros -/

theorem ofNatPadded_eq (width n : Nat) :
    ofNatPadded width n = List.replicate (width - (ofNat n).length) (digit 0) ++ ofNat n := rfl

theorem digitsValue_ofNatPadded (width n : Nat) : digitsValue (ofNatPadded width n) = n := by
  rw [ofNatPadded_eq, digitsValue_append, digitsValue_replicate, digitsValue_ofNat]
  omega

theorem isDigit_of_mem_ofNatPadded {width n : Nat} {b : UInt8} (h : b ∈ ofNatPadded width n) : isDigit b = true := by
  rw [ofNatPadded_eq, List.mem_append, List.mem_replicate] at h
  rcases h with ⟨-, rfl⟩ | h
  · exact isDigit_digit (by omega)
  · exact isDigit_of_mem_ofNat h

theorem le_length_ofNatPadded (width n : Nat) : width ≤ (ofNatPadded width n).length := by
  rw [ofNatPadded_eq, List.length_append, List.length_replicate]
  omega

end PayRun.Text
