import PayRun.Text.Basic

/-!
# Reading whole numbers

A whole number is written as an optional sign and one digit or more, in decimal; leading zeros are allowed.
-/

namespace PayRun.Text

/-- Splits off a sign: is it a minus, and what follows. -/
def splitSign : Text → Bool × Text
  | [] => (false, [])
  | b :: r =>
    if b = '-'.toUInt8 then (true, r) else if b = '+'.toUInt8 then (false, r) else (false, b :: r)

def signedValue (negative : Bool) (n : Nat) : Int := if negative then -n else n

/-- The whole number that a text writes, if it writes one. -/
def toInt? (t : Text) : Option Int :=
  let (negative, digits) := splitSign t
  if digits ≠ [] ∧ digits.all isDigit then some (signedValue negative (digitsValue digits)) else none

end PayRun.Text
