import PayRun.Text.Whole
import PayRun.Decimal.Basic

/-!
# Reading amounts

An amount is written as an optional sign and digits, with at most one point anywhere among them, and then an
optional exponent after `e` or `E`.  The point counts the bytes after it, wherever the sign stands, so `.-5`
reads as `-0.05`.  `Decimal.parse` gives the amount or the first fault in the order: exponent, points, digits,
range.
-/

namespace PayRun.Decimal

/-- What is wrong with a text that should be an amount. -/
inductive ParseError where
  /-- The part after the exponent mark is no whole number. -/
  | exponentNotNumeric (text : Text)
  /-- The exponent does not fit into 32 bits. -/
  | exponentOutOfRange (text : Text)
  /-- There are two points or more before the exponent mark. -/
  | manyPoints (mantissa : Text)
  /-- The part before the exponent mark is no signed string of digits. -/
  | notNumeric (mantissa : Text)
  deriving DecidableEq, Repr

def ParseError.message : ParseError → Text
  | .exponentNotNumeric t => List.flatten ["can't convert ", t, " to decimal: exponent is not numeric"]
  | .exponentOutOfRange t => List.flatten ["can't convert ", t, " to decimal: fractional part too long"]
  | .manyPoints m => List.flatten ["can't convert ", m, " to decimal: too many .s"]
  | .notNumeric m => List.flatten ["can't convert ", m, " to decimal"]

/-! ### The exponent -/

inductive ExponentFault where
  | notNumeric
  | outOfRange

/-- The bound of the digits of an exponent while they are read. -/
def digitsBound : Nat := 4294967296

/-- Reads digits onto `n` from left to right, up to the first byte that is no digit or takes the number to the
bound. -/
def readExponentDigits : Nat → Text → Except ExponentFault Nat
  | n, [] => .ok n
  | n, b :: r =>
    if Text.isDigit b then
      if 10 * n + Text.digitValue b < digitsBound then readExponentDigits (10 * n + Text.digitValue b) r
      else .error .outOfRange
    else .error .notNumeric

def readExponent (t : Text) : Except ExponentFault Int :=
  match Text.splitSign t with
  | (_, []) => .error .notNumeric
  | (negative, digits) => do
    let n ← readExponentDigits 0 digits
    if InRange (Text.signedValue negative n) then return Text.signedValue negative n else throw .outOfRange

/-! ### The amount -/

def isExponentMark (b : UInt8) : Bool := b == 'e'.toUInt8 || b == 'E'.toUInt8

/-- The part before the exponent mark, and the exponent, which is zero without a mark. -/
def splitExponent (t : Text) : Except ParseError (Text × Int) :=
  match t.dropWhile (!isExponentMark ·) with
  | [] => .ok (t, 0)
  | _ :: written =>
    match readExponent written with
    | .ok e => .ok (t.takeWhile (!isExponentMark ·), e)
    | .error .notNumeric => .error (.exponentNotNumeric t)
    | .error .outOfRange => .error (.exponentOutOfRange t)

/-- The mantissa without its point, and the number of bytes after the point. -/
def splitPoint (mantissa : Text) : Except ParseError (Text × Nat) :=
  match mantissa.dropWhile (· != '.'.toUInt8) with
  | [] => .ok (mantissa, 0)
  | _ :: places =>
    if places.contains '.'.toUInt8 then .error (.manyPoints mantissa)
    else .ok (mantissa.takeWhile (· != '.'.toUInt8) ++ places, places.length)

def parse (t : Text) : Except ParseError Decimal := do
  let (mantissa, e) ← splitExponent t
  let (digits, places) ← splitPoint mantissa
  match Text.toInt? digits with
  | none => throw (.notNumeric mantissa)
  | some c =>
    if h : InRange (e - places) then return { coefficient := c, exponent := e - places, inRange := h }
    else throw (.exponentOutOfRange t)

end PayRun.Decimal
