import PayRun.Text.Encoded

/-!
# Texts of 16-bit units

A text of 16-bit units is decoded unit by unit.  A surrogate takes the next unit with it if that one is a low
surrogate; the two are a character if they are a pair, and otherwise, like a surrogate alone or a single byte at
the end, ill-formed and replaced.
-/

namespace PayRun.Text

/-- The units of a text, and whether a single byte is left over. -/
def units (bigEndian : Bool) (done : List Nat) : Text → List Nat × Bool
  | a :: b :: rest =>
    units bigEndian ((if bigEndian then 256 * a.toNat + b.toNat else 256 * b.toNat + a.toNat) :: done) rest
  | [_] => (done.reverse, true)
  | [] => (done.reverse, false)

def isSurrogate (u : Nat) : Bool := 0xD800 ≤ u && u ≤ 0xDFFF

def isLowSurrogate (u : Nat) : Bool := 0xDC00 ≤ u && u ≤ 0xDFFF

/-- The character of two surrogates, if they are a pair. -/
def ofSurrogates (high low : Nat) : Text :=
  if isLowSurrogate high then replacement
  else ofChar (Char.ofNat (0x10000 + 0x400 * (high - 0xD800) + (low - 0xDC00)))

def ofUnit (u : Nat) : Text := if isSurrogate u then replacement else ofChar (Char.ofNat u)

/-- The character of a unit that stands alone, as it is decoded: a surrogate is told from the next unit. -/
def unitChar (u : Nat) : Encoded := ⟨ofUnit u, 2, if isSurrogate u then 4 else 2, (ofUnit u).length⟩

def surrogatesChar (high low : Nat) : Encoded := ⟨ofSurrogates high low, 4, 4, (ofSurrogates high low).length⟩

/-- A single byte at the end, as it is decoded. -/
def oddByte : Encoded := ⟨replacement, 1, 2, replacement.length⟩

/-- The characters of units, after those in `done`, the latest one first. -/
def unitChars (done : List Encoded) : List Nat → List Encoded
  | u :: v :: rest =>
    if isSurrogate u && isLowSurrogate v then unitChars (surrogatesChar u v :: done) rest
    else unitChars (unitChar u :: done) (v :: rest)
  | [u] => (unitChar u :: done).reverse
  | [] => done.reverse

/-- The characters of a text of 16-bit units. -/
def utf16Chars (bigEndian : Bool) (t : Text) : List Encoded :=
  let (us, odd) := units bigEndian [] t
  unitChars [] us ++ if odd then [oddByte] else []

end PayRun.Text
