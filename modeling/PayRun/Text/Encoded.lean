import PayRun.Text.Utf8

/-!
# Characters of an encoded text

A text in some encoding is decoded character by character.  Each character is kept with what a decoder that sees
the text piece by piece has to know of it: how many bytes it takes up, how many bytes must be in sight before it
can be told, and how much room it asks for in UTF-8.  This module decodes UTF-8 itself, where every ill-formed
part becomes one replacement character.
-/

namespace PayRun.Text

/-- A character of an encoded text. -/
structure Encoded where
  /-- The character in UTF-8. -/
  text : Text
  /-- The number of bytes that it takes up. -/
  width : Nat
  /-- The number of bytes that must be in sight to tell it. -/
  sight : Nat
  /-- The number of bytes that must be free to write it. -/
  room : Nat
  deriving DecidableEq, Repr

def decoded (cs : List Encoded) : Text := cs.flatMap Encoded.text

/-- How many bytes a character has that starts with the byte. -/
def announced (b : UInt8) : Nat :=
  match lead? b with
  | some l => l.following + 1
  | none => 1

/-- A part of a UTF-8 text.  An ill-formed part is told only when all bytes that its first byte announces are in
sight, and asks for as much room as these. -/
def Piece.encoded : Piece → Encoded
  | .char c => ⟨ofChar c, (ofChar c).length, (ofChar c).length, (ofChar c).length⟩
  | .stray bytes =>
    let sight := bytes.head?.elim 1 announced
    ⟨replacement, bytes.length, sight, max sight replacement.length⟩

def utf8Chars (t : Text) : List Encoded := (pieces t).map Piece.encoded

end PayRun.Text
