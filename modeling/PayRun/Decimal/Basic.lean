import PayRun.Text.Basic

/-!
# Decimal amounts

An amount is `coefficient * 10 ^ exponent`, with a coefficient of any size and an exponent of 32 bits.  Sums,
differences, products and comparisons are exact; the sum takes the lower of the two exponents, the product their
sum, which may leave the range (`Overflow.product`).  The quotient by a whole number is rounded to sixteen
places, a half going away from zero (`divNat`); it needs a divisor other than zero (`Overflow.zeroDivisor`) and
sixteen more places of exponent (`Overflow.quotient`).

Powers of ten are only built where the answer depends on them: a zero coefficient needs none (`scaleUp`), and a
power that is plainly larger than what it is compared with decides by itself (`compareScaled`, `nearestBelow`).
-/

namespace PayRun

def Decimal.exponentBound : Int := 2147483648

/-- The exponents that an amount may have. -/
def Decimal.InRange (e : Int) : Prop := -exponentBound ≤ e ∧ e < exponentBound

instance (e : Int) : Decidable (Decimal.InRange e) := inferInstanceAs (Decidable (_ ∧ _))

/-- The amount `coefficient * 10 ^ exponent`. -/
@[ext]
structure Decimal where
  coefficient : Int
  exponent : Int
  inRange : Decimal.InRange exponent := by decide
  deriving DecidableEq, Repr

namespace Decimal

/-- Why an operation has no result. -/
inductive Overflow where
  /-- The exponent of a product is out of range. -/
  | product (exponent : Int)
  /-- The divisor of a quotient is zero. -/
  | zeroDivisor
  /-- The dividend leaves no room for the places of a quotient. -/
  | quotient
  deriving DecidableEq, Repr

def Overflow.message : Overflow → Text
  | .product e => List.flatten ["exponent ", Text.ofInt e, " overflows an int32!"]
  | .zeroDivisor => "decimal division by 0"
  | .quotient => "overflow in decimal QuoRem"

def ofInt (n : Int) : Decimal := { coefficient := n, exponent := 0 }

def cents (n : Int) : Decimal := { coefficient := n, exponent := -2 }

/-- The amount of nothing, which counts in tens. -/
def zero : Decimal := { coefficient := 0, exponent := 1 }

def IsNegative (d : Decimal) : Prop := d.coefficient < 0

def IsPositive (d : Decimal) : Prop := 0 < d.coefficient

instance (d : Decimal) : Decidable d.IsNegative := inferInstanceAs (Decidable (_ < _))

instance (d : Decimal) : Decidable d.IsPositive := inferInstanceAs (Decidable (_ < _))

def tenPow (k : Nat) : Nat := Nat.pow 10 k

def scaleUp (c : Int) (k : Nat) : Int := if c = 0 then 0 else c * tenPow k

/-- The coefficient of the same amount at an exponent that is not higher. -/
def coefficientAt (d : Decimal) (e : Int) : Int := scaleUp d.coefficient (d.exponent - e).toNat

/-! ### Sums and products -/

private theorem inRange_min (a b : Decimal) : InRange (min a.exponent b.exponent) := by
  have ha := a.inRange
  have hb := b.inRange
  unfold InRange at *
  omega

/-- The exact sum, at the lower exponent. -/
def add (a b : Decimal) : Decimal where
  coefficient := a.coefficientAt (min a.exponent b.exponent) + b.coefficientAt (min a.exponent b.exponent)
  exponent := min a.exponent b.exponent
  inRange := inRange_min a b

def neg (d : Decimal) : Decimal := { d with coefficient := -d.coefficient }

instance : Add Decimal := ⟨add⟩

instance : Neg Decimal := ⟨neg⟩

instance : Sub Decimal := ⟨fun a b => a + -b⟩

@[simp] theorem exponent_add (a b : Decimal) : (a + b).exponent = min a.exponent b.exponent := rfl

@[simp] theorem exponent_neg (d : Decimal) : (-d).exponent = d.exponent := rfl

@[simp] theorem exponent_sub (a b : Decimal) : (a - b).exponent = min a.exponent b.exponent := rfl

/-- The exact product, if its exponent is in range. -/
def mul (a b : Decimal) : Except Overflow Decimal :=
  if h : InRange (a.exponent + b.exponent) then
    .ok { coefficient := a.coefficient * b.coefficient, exponent := a.exponent + b.exponent, inRange := h }
  else .error (.product (a.exponent + b.exponent))

/-- A product fails exactly if the sum of the exponents is out of range, and the failure names that sum. -/
theorem mul_eq_error_iff {a b : Decimal} {cause : Overflow} :
    a.mul b = .error cause ↔
      ¬ InRange (a.exponent + b.exponent) ∧ cause = .product (a.exponent + b.exponent) := by
  unfold mul
  split
  · simp_all
  · simp_all [eq_comm]

/-! ### Order -/

/-- Compares `a * 10 ^ k` with `b`.  If `2 ^ k` exceeds `b` already, the sign of `a` decides. -/
def compareScaled (a b : Int) (k : Nat) : Ordering :=
  if a ≠ 0 ∧ b.natAbs.log2 < k then compare a 0 else compare (scaleUp a k) b

/-- The order of two amounts by their values. -/
def compare (a b : Decimal) : Ordering :=
  if b.exponent ≤ a.exponent then
    compareScaled a.coefficient b.coefficient (a.exponent - b.exponent).toNat
  else (compareScaled b.coefficient a.coefficient (b.exponent - a.exponent).toNat).swap

instance : LT Decimal := ⟨fun a b => a.compare b = .lt⟩

instance (a b : Decimal) : Decidable (a < b) := inferInstanceAs (Decidable (a.compare b = .lt))

/-! ### Quotients -/

def quotientPlaces : Int := 16

/-- The natural number nearest to `a / b`, a half going up. -/
def nearest (a b : Nat) : Nat := (2 * a + b) / (2 * b)

/-- The natural number nearest to `a / (b * 10 ^ k)`, which is zero if `2 ^ k` exceeds `2 * a` already. -/
def nearestBelow (a b k : Nat) : Nat := if a.log2 + 1 < k then 0 else nearest a (b * tenPow k)

/-- The size of the coefficient of `d / n` at sixteen places. -/
def quotientSize (d : Decimal) (n : Nat) : Nat :=
  let shift := d.exponent + quotientPlaces
  if 0 ≤ shift then nearest (scaleUp d.coefficient shift.toNat).natAbs n
  else nearestBelow d.coefficient.natAbs n (-shift).toNat

/-- The quotient by a whole number: the nearest multiple of `10 ^ -16`, a half going away from zero. -/
def divNat (d : Decimal) (n : Nat) : Except Overflow Decimal :=
  if n = 0 then .error .zeroDivisor
  else if d.exponent + quotientPlaces < exponentBound then
    .ok { coefficient := d.coefficient.sign * d.quotientSize n, exponent := -16 }
  else .error .quotient

/-- A quotient by a positive number fails exactly if its places take the exponent out of range. -/
theorem divNat_eq_error_iff {d : Decimal} {n : Nat} (hn : 0 < n) {cause : Overflow} :
    d.divNat n = .error cause ↔ exponentBound ≤ d.exponent + quotientPlaces ∧ cause = .quotient := by
  have hn' : n ≠ 0 := by omega
  simp only [divNat, hn', ↓reduceIte]
  split
  · simp only [reduceCtorEq, false_iff]; omega
  · simp only [Except.error.injEq]
    constructor
    · rintro rfl; exact ⟨by omega, rfl⟩
    · rintro ⟨_, rfl⟩; rfl

end Decimal

end PayRun
