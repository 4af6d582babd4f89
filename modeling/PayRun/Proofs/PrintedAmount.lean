import Mathlib
import PayRun.Decimal.Parser
import PayRun.Decimal.Printer
import PayRun.Proofs.Digits
import PayRun.Proofs.Value

/-!
# Printed amounts

The printed form of an amount depends on its value alone, and the value can be read back from it.

* Amounts are printed alike exactly if their values are equal (`Decimal.toText_eq_iff`).
* Reading a printed amount succeeds and gives the value (`Decimal.parse_toText`).

The first is a matter of one place: ten times a coefficient at one more place adds a zero to the digits, which is
dropped again.  For the second the printed form is taken apart into sign, whole part and places.
-/

namespace PayRun.Decimal

open Text (digit isDigit digitsValue)

/-! ### One more place -/

/-- Ten times a size at one more place has one more zero. -/
private theorem digitsAt_ten_mul (size places : Nat) :
    digitsAt (10 * size) (places + 1) = digitsAt size places ++ [digit 0] := by
  rcases Nat.eq_zero_or_pos size with rfl | hpos
  · have hzero : Text.ofNat 0 = [digit 0] := Text.ofNat_of_lt (by omega)
    simp only [digitsAt, Text.ofNatPadded_eq, Nat.mul_zero, hzero, List.length_singleton, Nat.add_sub_cancel]
    rw [List.replicate_succ', List.append_assoc]
  · have hwidth : places + 1 + 1 - (Text.ofNat size ++ [digit 0]).length = places + 1 - (Text.ofNat size).length := by
      rw [List.length_append, List.length_singleton]
      omega
    simp only [digitsAt, Text.ofNatPadded_eq, Text.ofNat_ten_mul hpos, hwidth, List.append_assoc]

private theorem trimPlaces_append_zero (t : Text) : trimPlaces (t ++ [digit 0]) = trimPlaces t := by
  simp [trimPlaces]

/-- What is dropped from the places are zeros. -/
private theorem trimPlaces_append_replicate (t : Text) : ∃ k, trimPlaces t ++ List.replicate k (digit 0) = t := by
  refine ⟨(t.reverse.takeWhile (· == digit 0)).length, ?_⟩
  have hzeros : t.reverse.takeWhile (· == digit 0) =
      List.replicate (t.reverse.takeWhile (· == digit 0)).length (digit 0) := by
    refine List.eq_replicate_iff.2 ⟨rfl, ?_⟩
    intro b hb
    have hzero : (b == digit 0) = true := List.mem_takeWhile_imp (p := (· == digit 0)) hb
    exact eq_of_beq hzero
  have hsplit := List.takeWhile_append_dropWhile (p := (· == digit 0)) (l := t.reverse)
  rw [hzeros] at hsplit
  rw [trimPlaces, ← List.reverse_replicate, ← List.reverse_append, hsplit, List.reverse_reverse]

/-- A whole part, and after a point the places if there are any. -/
def joined (whole kept : Text) : Text := if kept = [] then whole else whole ++ '.'.toUInt8 :: kept

private theorem withPoint_eq (whole places : Text) : withPoint whole places = joined whole (trimPlaces places) := by
  unfold withPoint joined
  split
  · rename_i hnil
    rw [hnil, if_pos rfl]
  · rename_i hne
    rw [if_neg hne]

private theorem sizeText_of_nonneg {d : Decimal} (h : 0 ≤ d.exponent) :
    d.sizeText = Text.ofNat (d.coefficientAt 0).natAbs := if_pos h

/-- Digits with `places` of them after the point. -/
def pointed (digits : Text) (places : Nat) : Text :=
  joined (digits.take (digits.length - places)) (trimPlaces (digits.drop (digits.length - places)))

private theorem sizeText_of_neg {d : Decimal} (h : d.exponent < 0) :
    d.sizeText = pointed (digitsAt d.coefficient.natAbs (-d.exponent).toNat) (-d.exponent).toNat := by
  unfold sizeText
  rw [if_neg (by omega), withPoint_eq]
  rfl

private theorem pointed_zero (digits : Text) : pointed digits 0 = digits := by
  simp [pointed, joined, trimPlaces]

/-- A zero after the last place is not shown. -/
private theorem pointed_append_zero (digits : Text) (places : Nat) :
    pointed (digits ++ [digit 0]) (places + 1) = pointed digits places := by
  have hwhole : (digits ++ [digit 0]).length - (places + 1) = digits.length - places := by
    rw [List.length_append, List.length_singleton]
    omega
  have hle : digits.length - places ≤ digits.length := Nat.sub_le _ _
  unfold pointed
  rw [hwhole, List.take_append_of_le_length hle, List.drop_append_of_le_length hle, trimPlaces_append_zero]

/-- The same amount at one more place is printed alike. -/
private theorem sizeText_of_rescaled {a b : Decimal} (he : b.exponent = a.exponent + 1)
    (hc : a.coefficient = 10 * b.coefficient) : a.sizeText = b.sizeText := by
  rcases lt_trichotomy a.exponent (-1) with h | h | h
  · have hplaces : (-a.exponent).toNat = (-b.exponent).toNat + 1 := by omega
    have hsize : a.coefficient.natAbs = 10 * b.coefficient.natAbs := by omega
    rw [sizeText_of_neg (by omega), sizeText_of_neg (by omega), hplaces, hsize, digitsAt_ten_mul, pointed_append_zero]
  · -- the one place is a zero, and `b` is whole
    have hsize : a.coefficient.natAbs = 10 * b.coefficient.natAbs := by omega
    have hplace : (-a.exponent).toNat = 0 + 1 := by omega
    have hwhole : digitsAt b.coefficient.natAbs 0 = Text.ofNat b.coefficient.natAbs := by
      have hpos := List.length_pos_iff.2 (Text.ofNat_ne_nil b.coefficient.natAbs)
      have hnone : 0 + 1 - (Text.ofNat b.coefficient.natAbs).length = 0 := by omega
      rw [digitsAt, Text.ofNatPadded_eq, hnone]
      rfl
    have hzero : b.exponent = 0 := by omega
    rw [sizeText_of_neg (by omega), sizeText_of_nonneg (by omega), hplace, hsize, digitsAt_ten_mul,
      pointed_append_zero, pointed_zero, hwhole, coefficientAt, hzero, scaleUp_eq]
    simp
  · have hshift : (a.exponent - 0).toNat + 1 = (b.exponent - 0).toNat := by omega
    rw [sizeText_of_nonneg (by omega), sizeText_of_nonneg (by omega), coefficientAt, coefficientAt, scaleUp_eq,
      scaleUp_eq, hc, ← hshift, pow_succ]
    congr 2
    ring

/-- The same amount at more places is printed alike. -/
private theorem sizeText_of_lower {a b : Decimal} {k : Nat} (he : b.exponent = a.exponent + k)
    (hc : a.coefficient = 10 ^ k * b.coefficient) : a.sizeText = b.sizeText := by
  induction k generalizing a with
  | zero =>
    have hsame : a = b := Decimal.ext (by simpa using hc) (by simpa using he.symm)
    rw [hsame]
  | succ k ih =>
    have hrange : InRange (a.exponent + 1) := by
      have ha := a.inRange
      have hb := b.inRange
      unfold InRange at *
      omega
    -- one place less than `a`, and `k` more than `b`
    let c : Decimal := ⟨10 ^ k * b.coefficient, a.exponent + 1, hrange⟩
    have hstep : a.sizeText = c.sizeText := by
      refine sizeText_of_rescaled rfl ?_
      rw [hc, pow_succ]
      show _ = 10 * (10 ^ k * b.coefficient)
      ring
    rw [hstep]
    refine ih ?_ rfl
    show b.exponent = a.exponent + 1 + k
    omega

/-- Amounts with the same value are rescaled from each other. -/
private theorem coefficient_eq_of_toRat_eq {a b : Decimal} (h : a.toRat = b.toRat) (hle : a.exponent ≤ b.exponent) :
    a.coefficient = 10 ^ (b.exponent - a.exponent).toNat * b.coefficient := by
  have hpow : (10 : ℚ) ^ a.exponent ≠ 0 := zpow_ne_zero _ (by norm_num)
  rw [← coefficientAt_mul hle, toRat, mul_left_inj' hpow, Int.cast_inj, coefficientAt, scaleUp_eq] at h
  rw [h, mul_comm]

/-- Amounts with the same value are printed alike. -/
theorem toText_eq_of_toRat_eq {a b : Decimal} (h : a.toRat = b.toRat) : a.toText = b.toText := by
  have hsize : a.sizeText = b.sizeText := by
    rcases le_total a.exponent b.exponent with hle | hle
    · exact sizeText_of_lower (k := (b.exponent - a.exponent).toNat) (by omega) (coefficient_eq_of_toRat_eq h hle)
    · exact (sizeText_of_lower (k := (a.exponent - b.exponent).toNat) (by omega)
        (coefficient_eq_of_toRat_eq h.symm hle)).symm
  simp only [toText, isNegative_iff, h, hsize]

/-! ### Reading a printed amount -/

private theorem parts_of_nonneg {d : Decimal} (h : 0 ≤ d.exponent) :
    (digitsValue (Text.ofNat (d.coefficientAt 0).natAbs) : ℚ) = |d.toRat| := by
  rw [Text.digitsValue_ofNat, ← coefficientAt_mul h, zpow_zero, mul_one, Nat.cast_natAbs, Int.cast_abs]

/-- The parts on both sides of the point and the zeros that are dropped are all of the digits. -/
private theorem pointed_parts {digits : Text} {places : Nat} (h : places < digits.length) :
    ∃ whole kept k, pointed digits places = joined whole kept ∧ whole ≠ [] ∧
      whole ++ kept ++ List.replicate k (digit 0) = digits ∧ kept.length + k = places := by
  obtain ⟨k, hk⟩ := trimPlaces_append_replicate (digits.drop (digits.length - places))
  refine ⟨_, _, k, rfl, ?_, ?_, ?_⟩
  · rw [← List.length_pos_iff, List.length_take]
    omega
  · rw [List.append_assoc, hk, List.take_append_drop]
  · have hlength := congrArg List.length hk
    rw [List.length_append, List.length_replicate, List.length_drop] at hlength
    omega

private theorem parts_of_neg {d : Decimal} (h : d.exponent < 0) {whole kept : Text} {k : Nat}
    (hdigits : whole ++ kept ++ List.replicate k (digit 0) = digitsAt d.coefficient.natAbs (-d.exponent).toNat)
    (hlength : kept.length + k = (-d.exponent).toNat) :
    (digitsValue (whole ++ kept) : ℚ) = |d.toRat| * 10 ^ kept.length := by
  have hvalue : digitsValue (whole ++ kept) * 10 ^ k = d.coefficient.natAbs := by
    have hall := congrArg digitsValue hdigits
    rw [Text.digitsValue_append, Text.digitsValue_replicate, List.length_replicate, digitsAt,
      Text.digitsValue_ofNatPadded] at hall
    omega
  have hexp : d.exponent = -(kept.length + k : ℤ) := by omega
  have hpow : (10 : ℚ) ^ d.exponent = (10 ^ (kept.length + k))⁻¹ := by
    rw [hexp, zpow_neg, ← zpow_natCast]
    push_cast
    rfl
  have habs : |d.toRat| = (d.coefficient.natAbs : ℚ) * 10 ^ d.exponent := by
    rw [toRat, abs_mul, abs_of_pos (show (0 : ℚ) < 10 ^ d.exponent by positivity), Nat.cast_natAbs, Int.cast_abs]
  rw [habs, hpow, ← hvalue, pow_add]
  push_cast
  field_simp

/-- The parts of a printed size: digits on both sides of the point, with the value of the amount. -/
theorem sizeText_parts (d : Decimal) :
    ∃ whole kept, d.sizeText = joined whole kept ∧ whole ≠ [] ∧ (∀ b ∈ whole ++ kept, isDigit b = true) ∧
      (kept.length : ℤ) ≤ exponentBound ∧ (digitsValue (whole ++ kept) : ℚ) = |d.toRat| * 10 ^ kept.length := by
  rcases le_or_gt 0 d.exponent with h | h
  · refine ⟨Text.ofNat (d.coefficientAt 0).natAbs, [], ?_, Text.ofNat_ne_nil _, ?_, by decide, ?_⟩
    · rw [sizeText_of_nonneg h, joined, if_pos rfl]
    · intro b hb
      rw [List.append_nil] at hb
      exact Text.isDigit_of_mem_ofNat hb
    · rw [List.append_nil, parts_of_nonneg h, List.length_nil, pow_zero, mul_one]
  · have hbound := d.inRange.1
    have hwide := Text.le_length_ofNatPadded ((-d.exponent).toNat + 1) d.coefficient.natAbs
    obtain ⟨whole, kept, k, hjoined, hne, hall, hlength⟩ := pointed_parts hwide
    refine ⟨whole, kept, (sizeText_of_neg h).trans hjoined, hne, ?_, by omega, parts_of_neg h hall hlength⟩
    intro b hb
    exact Text.isDigit_of_mem_ofNatPadded (hall ▸ List.mem_append_left _ hb)

private theorem ne_of_isDigit {b c : UInt8} (hb : isDigit b = true) (hc : isDigit c = false) : b ≠ c := by
  intro h
  rw [h, hc] at hb
  cases hb

private theorem isExponentMark_of_isDigit {b : UInt8} (hb : isDigit b = true) : isExponentMark b = false := by
  have he : b ≠ 'e'.toUInt8 := ne_of_isDigit hb (by decide)
  have hE : b ≠ 'E'.toUInt8 := ne_of_isDigit hb (by decide)
  simp [isExponentMark, he, hE]

/-- The sign of a printed amount. -/
def signText (negative : Bool) : Text := if negative then ['-'.toUInt8] else []

private theorem toText_eq_signText (d : Decimal) : d.toText = signText (decide d.IsNegative) ++ d.sizeText := by
  unfold toText signText
  by_cases h : d.IsNegative <;> simp [h]

private theorem mem_signText_joined {negative : Bool} {whole kept : Text} {b : UInt8}
    (hdigits : ∀ b ∈ whole ++ kept, isDigit b = true) (h : b ∈ signText negative ++ joined whole kept) :
    b = '-'.toUInt8 ∨ b = '.'.toUInt8 ∨ isDigit b = true := by
  rw [List.mem_append] at h
  rcases h with h | h
  · cases negative with
    | false => cases h
    | true => exact .inl (List.mem_singleton.1 h)
  · unfold joined at h
    split at h
    · exact .inr (.inr (hdigits b (List.mem_append_left _ h)))
    · rw [List.mem_append, List.mem_cons] at h
      rcases h with h | h | h
      · exact .inr (.inr (hdigits b (List.mem_append_left _ h)))
      · exact .inr (.inl h)
      · exact .inr (.inr (hdigits b (List.mem_append_right _ h)))

/-- A printed amount holds digits, a sign and a point only. -/
private theorem mem_toText {d : Decimal} {b : UInt8} (h : b ∈ d.toText) :
    b = '-'.toUInt8 ∨ b = '.'.toUInt8 ∨ isDigit b = true := by
  obtain ⟨whole, kept, hsize, -, hdigits, -⟩ := sizeText_parts d
  rw [toText_eq_signText, hsize] at h
  exact mem_signText_joined hdigits h

theorem newline_not_mem_toText (d : Decimal) : Text.newline ∉ d.toText := by
  intro h
  rcases mem_toText h with h | h | h <;> exact absurd h (by decide)

private theorem splitExponent_of_noMark {t : Text} (h : ∀ b ∈ t, isExponentMark b = false) :
    splitExponent t = .ok (t, 0) := by
  have hnone : t.dropWhile (!isExponentMark ·) = [] := by
    rw [List.dropWhile_eq_nil_iff]
    intro b hb
    simp [h b hb]
  rw [splitExponent, hnone]

/-- The point is taken out, and the places behind it are counted. -/
private theorem splitPoint_joined {first kept : Text} (hfirst : ∀ b ∈ first, b ≠ '.'.toUInt8)
    (hkept : ∀ b ∈ kept, b ≠ '.'.toUInt8) : splitPoint (joined first kept) = .ok (first ++ kept, kept.length) := by
  have hpass : ∀ b ∈ first, (b != '.'.toUInt8) = true := fun b hb => bne_iff_ne.2 (hfirst b hb)
  unfold joined
  split
  · rename_i hnil
    have hnone : first.dropWhile (· != '.'.toUInt8) = [] := List.dropWhile_eq_nil_iff.2 hpass
    rw [splitPoint, hnone, hnil, List.append_nil]
    rfl
  · have hpoint : kept.contains '.'.toUInt8 = false := by
      rw [List.contains_eq_mem, decide_eq_false_iff_not]
      exact fun hmem => hkept _ hmem rfl
    have hdrop : (first ++ '.'.toUInt8 :: kept).dropWhile (· != '.'.toUInt8) = '.'.toUInt8 :: kept := by
      rw [List.dropWhile_append_of_pos hpass]
      rfl
    have htake : (first ++ '.'.toUInt8 :: kept).takeWhile (· != '.'.toUInt8) = first := by
      rw [List.takeWhile_append_of_pos hpass]
      simp
    rw [splitPoint, hdrop]
    simp only [hpoint, htake, Bool.false_eq_true, ↓reduceIte]

private theorem toInt?_signText {digits : Text} (hne : digits ≠ []) (h : ∀ b ∈ digits, isDigit b = true)
    (negative : Bool) :
    Text.toInt? (signText negative ++ digits) = some (Text.signedValue negative (digitsValue digits)) := by
  have hall : digits.all isDigit = true := List.all_eq_true.2 h
  have hsplit : Text.splitSign (signText negative ++ digits) = (negative, digits) := by
    cases negative with
    | true => rfl
    | false =>
      cases digits with
      | nil => exact absurd rfl hne
      | cons b r =>
        have hminus : b ≠ '-'.toUInt8 := ne_of_isDigit (h b (by simp)) (by decide)
        have hplus : b ≠ '+'.toUInt8 := ne_of_isDigit (h b (by simp)) (by decide)
        simp [signText, Text.splitSign, hminus, hplus]
  simp [Text.toInt?, hsplit, hne, hall]

private theorem signText_joined (negative : Bool) (whole kept : Text) :
    signText negative ++ joined whole kept = joined (signText negative ++ whole) kept := by
  unfold joined
  split <;> simp

/-- Reading a sign, digits, a point and places. -/
private theorem parse_joined {whole kept : Text} (hne : whole ≠ []) (hdigits : ∀ b ∈ whole ++ kept, isDigit b = true)
    (hlength : (kept.length : ℤ) ≤ exponentBound) (negative : Bool) :
    ∃ d, parse (signText negative ++ joined whole kept) = .ok d ∧
      d.coefficient = Text.signedValue negative (digitsValue (whole ++ kept)) ∧ d.exponent = -kept.length := by
  have hmark : ∀ b ∈ signText negative ++ joined whole kept, isExponentMark b = false := by
    intro b hb
    rcases mem_signText_joined hdigits hb with rfl | rfl | hb
    · decide
    · decide
    · exact isExponentMark_of_isDigit hb
  have hpoint : ∀ b ∈ signText negative ++ whole, b ≠ '.'.toUInt8 := by
    intro b hb
    rcases List.mem_append.1 hb with hb | hb
    · cases negative with
      | false => cases hb
      | true =>
        rw [List.mem_singleton.1 hb]
        decide
    · exact ne_of_isDigit (hdigits b (List.mem_append_left _ hb)) (by decide)
  have hplaces : ∀ b ∈ kept, b ≠ '.'.toUInt8 := fun b hb =>
    ne_of_isDigit (hdigits b (List.mem_append_right _ hb)) (by decide)
  have hrange : InRange (0 - kept.length) := by
    unfold InRange exponentBound at *
    omega
  have hread := toInt?_signText (by simp [hne]) hdigits negative
  refine ⟨⟨Text.signedValue negative (digitsValue (whole ++ kept)), 0 - kept.length, hrange⟩, ?_, rfl, zero_sub _⟩
  unfold parse
  rw [splitExponent_of_noMark hmark, signText_joined]
  simp only [bind, Except.bind]
  rw [splitPoint_joined hpoint hplaces]
  simp only [List.append_assoc, hread, hrange, ↓reduceDIte]
  rfl

/-- A printed amount is read back with its value. -/
theorem parse_toText (d : Decimal) : ∃ d', parse d.toText = .ok d' ∧ d'.toRat = d.toRat := by
  obtain ⟨whole, kept, hsize, hne, hdigits, hlength, hvalue⟩ := sizeText_parts d
  obtain ⟨d', hparse, hc, he⟩ := parse_joined hne hdigits hlength (decide d.IsNegative)
  rw [← hsize, ← toText_eq_signText] at hparse
  refine ⟨d', hparse, ?_⟩
  have hpow : (10 : ℚ) ^ (-(kept.length : ℤ)) = (10 ^ kept.length)⁻¹ := by rw [zpow_neg, zpow_natCast]
  have habs : (digitsValue (whole ++ kept) : ℚ) * (10 ^ kept.length)⁻¹ = |d.toRat| := by
    rw [hvalue, mul_assoc, mul_inv_cancel₀ (by positivity), mul_one]
  rw [toRat, hc, he, hpow, Text.signedValue]
  by_cases hneg : d.IsNegative
  · have hlt : d.toRat < 0 := isNegative_iff.1 hneg
    simp only [hneg, decide_true, ↓reduceIte, Int.cast_neg, Int.cast_natCast, neg_mul, habs, abs_of_neg hlt, neg_neg]
  · have hge : 0 ≤ d.toRat := not_lt.1 fun hlt => hneg (isNegative_iff.2 hlt)
    simp only [hneg, decide_false, Bool.false_eq_true, ↓reduceIte, Int.cast_natCast, habs, abs_of_nonneg hge]

/-- Amounts are printed alike exactly if they have the same value. -/
theorem toText_eq_iff {a b : Decimal} : a.toText = b.toText ↔ a.toRat = b.toRat := by
  constructor
  · intro h
    obtain ⟨a', ha, hvalue⟩ := parse_toText a
    obtain ⟨b', hb, hvalue'⟩ := parse_toText b
    rw [h, hb, Except.ok.injEq] at ha
    rw [← hvalue, ← hvalue', ha]
  · exact toText_eq_of_toRat_eq

end PayRun.Decimal
