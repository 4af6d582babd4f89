import PayRun.Text.Utf8

/-!
# White space

Trimming removes the characters with the Unicode property of white space from both ends of a text.  The narrower
class of blanks, used inside a line, is ASCII only and leaves out the vertical tab.
-/

namespace PayRun.Text

/-- Does the character have the property of white space? -/
def isSpace (c : Char) : Bool :=
  let n := c.toNat
  (0x09 ≤ n && n ≤ 0x0D) || n == 0x20 || n == 0x85 || n == 0xA0 || n == 0x1680 || (0x2000 ≤ n && n ≤ 0x200A) ||
    n == 0x2028 || n == 0x2029 || n == 0x202F || n == 0x205F || n == 0x3000

/-- Is the part white space?  Stray bytes never are. -/
def Piece.isSpace : Piece → Bool
  | .char c => Text.isSpace c
  | .stray _ => false

/-- The text without white space at its ends. -/
def trim (t : Text) : Text :=
  let parts := (pieces t).dropWhile Piece.isSpace
  (parts.reverse.dropWhile Piece.isSpace).reverse.flatMap Piece.bytes

/-- Is the byte a tab, a line feed, a form feed, a carriage return or a space? -/
def isBlank (b : UInt8) : Bool := b == 0x09 || b == 0x0A || b == 0x0C || b == 0x0D || b == 0x20

end PayRun.Text
