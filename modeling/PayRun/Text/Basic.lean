/-!
# Texts

A text is a list of bytes.  Most texts are UTF-8, but a name or a message may hold any bytes, and a write may be
cut inside a character, so nothing here presumes an encoding.  The module gives the bytes of string literals and
of characters, cuts a text into lines (`readLines`), and writes whole numbers in decimal (`ofNat`, `ofInt`) and in
hexadecimal (`hex`).
-/

namespace PayRun

/-- A text: its bytes in order. -/
abbrev Text := List UInt8

namespace Text

/-- The UTF-8 bytes of a string. -/
def ofString (s : String) : Text := s.toUTF8.data.toList

instance : Coe String Text := ⟨ofString⟩

/-- The UTF-8 bytes of a character. -/
def ofChar (c : Char) : Text := String.utf8EncodeChar c

/-- The byte that ends a line. -/
def newline : UInt8 := 0x0A

def singleQuote : UInt8 := 0x27

def doubleQuote : UInt8 := 0x22

def backslash : UInt8 := 0x5C

/-- The byte with an ASCII capital letter made small. -/
def smallLetter (b : UInt8) : UInt8 := if 0x41 ≤ b ∧ b ≤ 0x5A then b + 0x20 else b

/-- The text with ASCII capital letters made small, and all else as it is. -/
def smallLetters (t : Text) : Text := t.map smallLetter

/-- The lines that a reader finds in a text: what stands before each newline. -/
def readLines (t : Text) : List Text := (t.splitOn newline).dropLast

/-! ### Decimal digits -/

def digit (n : Nat) : UInt8 := UInt8.ofNat (48 + n)

def isDigit (b : UInt8) : Bool := 48 ≤ b && b ≤ 57

def digitValue (b : UInt8) : Nat := b.toNat - 48

/-- The number written by a list of digits, the leading one first. -/
def digitsValue (t : Text) : Nat := t.foldl (fun n b => 10 * n + digitValue b) 0

/-- Writes the digits of `n` in front of `rest`. -/
def digitsOnto (n : Nat) (rest : Text) : Text :=
  if n < 10 then digit n :: rest else digitsOnto (n / 10) (digit (n % 10) :: rest)

/-- A natural number in decimal, without leading zeros. -/
def ofNat (n : Nat) : Text := digitsOnto n []

theorem digitsOnto_eq (n : Nat) (rest : Text) : digitsOnto n rest = ofNat n ++ rest := by
  induction n using Nat.strongRecOn generalizing rest with
  | _ n ih =>
    unfold ofNat digitsOnto
    split
    · rfl
    · rw [ih (n / 10) (by omega), ih (n / 10) (by omega) [_]]
      simp

theorem ofNat_of_lt {n : Nat} (h : n < 10) : ofNat n = [digit n] := by
  unfold ofNat digitsOnto
  simp [h]

/-- The digits of a number of two digits or more: those of its tens, and then its last one. -/
theorem ofNat_of_ge {n : Nat} (h : 10 ≤ n) : ofNat n = ofNat (n / 10) ++ [digit (n % 10)] := by
  rw [ofNat, digitsOnto, ← digitsOnto_eq]
  simp [Nat.not_lt.2 h]

/-- A whole number in decimal, with a minus sign if it is negative. -/
def ofInt (n : Int) : Text :=
  if n < 0 then '-'.toUInt8 :: ofNat n.natAbs else ofNat n.natAbs

/-- A natural number in decimal, filled with zeros on the left to at least `width` digits. -/
def ofNatPadded (width n : Nat) : Text := (ofNat n).leftpad width (digit 0)

/-! ### Hexadecimal digits -/

/-- The byte of a lower-case hexadecimal digit. -/
def hexDigit (n : Nat) : UInt8 := if n < 10 then digit n else UInt8.ofNat (87 + n)

/-- The last `width` hexadecimal digits of `n`, in lower case. -/
def hex : (width n : Nat) → Text
  | 0, _ => []
  | width + 1, n => hex width (n / 16) ++ [hexDigit (n % 16)]

@[simp] theorem length_hex (width n : Nat) : (hex width n).length = width := by
  induction width generalizing n with
  | zero => rfl
  | succ width ih => simp [hex, ih]

end Text

end PayRun
