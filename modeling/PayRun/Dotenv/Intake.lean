import PayRun.Text.Utf16

/-!
# How a file comes in

A file may start with a byte order mark that tells its encoding.  A file without one is taken as it is: its first
three bytes, where a mark would be, come in alone and the rest follows.  A file with a mark is decoded while it
is read, and its text comes in by portions.  A portion is what becomes of at most 4096 bytes of the file, and
holds at most 4096 bytes itself.  It ends where the next character is not wholly in sight, or would not fit in.

The portions say nothing about the text but where it was cut, and nothing but line ends depends on that.
-/

namespace PayRun.Dotenv

/-- The text of a file, and the lengths of the portions in which it comes in. -/
structure Intake where
  text : Text
  portions : List Nat
  deriving DecidableEq, Repr

/-! ### Portions -/

/-- How many bytes of a file are in sight at most, and how many a portion holds at most. -/
def portionSize : Nat := 4096

/-- How far a file has been read. -/
structure Progress where
  /-- The number of bytes in sight. -/
  inSight : Nat := 0
  /-- The number of bytes not yet in sight. -/
  unread : Nat
  /-- Has the end of the file been seen? -/
  ended : Bool := false
  deriving DecidableEq, Repr

/-- Reads on.  The end is seen only when there is nothing left to read. -/
def Progress.read (p : Progress) : Progress :=
  let n := min (portionSize - p.inSight) p.unread
  { inSight := p.inSight + n, unread := p.unread - n, ended := p.unread = 0 }

/-- Can a character be told that asks for so many bytes in sight? -/
def Progress.shows (p : Progress) (sight : Nat) : Bool := p.ended || sight ≤ p.inSight

/-- Reads on until a character can be told. -/
def Progress.readFor (p : Progress) (sight : Nat) : Progress := if p.read.shows sight then p.read else p.read.read

/-- Leaves a character behind. -/
def Progress.pass (p : Progress) (c : Text.Encoded) : Progress := { p with inSight := p.inSight - c.width }

/-- The lengths of the portions in which characters come in, the first of which holds `filled` bytes already. -/
def portionLengths (p : Progress) (filled : Nat) : List Text.Encoded → List Nat
  | [] => [filled]
  | c :: rest =>
    if p.shows c.sight then
      if filled + c.room ≤ portionSize then portionLengths (p.pass c) (filled + c.text.length) rest
      else filled :: portionLengths (p.pass c) c.text.length rest
    else filled :: portionLengths ((p.readFor c.sight).pass c) c.text.length rest

/-! ### Files -/

/-- The intake of a text of so many bytes with these characters. -/
def Intake.ofChars (size : Nat) (cs : List Text.Encoded) : Intake :=
  ⟨Text.decoded cs, portionLengths { unread := size } 0 cs⟩

/-- The number of bytes that are looked at for a mark. -/
def markSight : Nat := 3

def intake : Text → Intake
  | 0xEF :: 0xBB :: 0xBF :: rest => .ofChars rest.length (Text.utf8Chars rest)
  | 0xFF :: 0xFE :: rest => .ofChars rest.length (Text.utf16Chars false rest)
  | 0xFE :: 0xFF :: rest => .ofChars rest.length (Text.utf16Chars true rest)
  | t => ⟨t, [min markSight t.length, t.length - markSight]⟩

end PayRun.Dotenv
