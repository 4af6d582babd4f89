import PayRun.Text.Printable

/-!
# Quoted texts

A quoted text stands between double quotes and holds only printable characters: quotes and backslashes take a
backslash, control characters have short escapes or a hexadecimal one, and other unprintable characters are
written by their code point.  So a quoted text has no line break, whatever the text is.
-/

namespace PayRun.Text

/-- The short escapes: the character, and the letter that stands for it after a backslash. -/
def shortEscapes : List (Char × Char) :=
  [('"', '"'), ('\\', '\\'), ('\x07', 'a'), ('\x08', 'b'), ('\x0c', 'f'), ('\n', 'n'), ('\r', 'r'), ('\t', 't'),
    ('\x0b', 'v')]

def quoteChar (c : Char) : Text :=
  match shortEscapes.lookup c with
  | some letter => backslash :: ofChar letter
  | none =>
    if isPrintable c then ofChar c
    else if c.toNat < 0x80 then ofString "\\x" ++ hex 2 c.toNat
    else if c.toNat < 0x10000 then ofString "\\u" ++ hex 4 c.toNat
    else ofString "\\U" ++ hex 8 c.toNat

def quotePiece : Piece → Text
  | .char c => quoteChar c
  | .stray bytes => bytes.flatMap fun b => ofString "\\x" ++ hex 2 b.toNat

/-- The text between double quotes. -/
def quote (t : Text) : Text := doubleQuote :: (pieces t).flatMap quotePiece ++ [doubleQuote]

end PayRun.Text
