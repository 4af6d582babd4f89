import PayRun.Decimal.Basic

/-!
# Writing amounts

An amount is written plainly: a minus sign if it is negative, the whole part, and after a point the places that
remain when the zeros at their end are dropped, or no point if none remain.  Zero has no sign, so equal amounts
are written alike, whatever their exponents.
-/

namespace PayRun.Decimal

/-- The digits of an amount at `places` places, without the point: at least one of them stands before the
places. -/
def digitsAt (size places : Nat) : Text := Text.ofNatPadded (places + 1) size

/-- Drops the zeros at the end of the places. -/
def trimPlaces (t : Text) : Text := (t.reverse.dropWhile (· == Text.digit 0)).reverse

/-- The whole part, and the places after a point if any remain. -/
def withPoint (whole places : Text) : Text :=
  match trimPlaces places with
  | [] => whole
  | kept => whole ++ '.'.toUInt8 :: kept

/-- The size of an amount, without a sign. -/
def sizeText (d : Decimal) : Text :=
  if 0 ≤ d.exponent then Text.ofNat (d.coefficientAt 0).natAbs
  else
    let places := (-d.exponent).toNat
    let digits := digitsAt d.coefficient.natAbs places
    withPoint (digits.take (digits.length - places)) (digits.drop (digits.length - places))

def toText (d : Decimal) : Text :=
  if d.IsNegative then '-'.toUInt8 :: d.sizeText else d.sizeText

end PayRun.Decimal
