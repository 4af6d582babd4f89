import PayRun.Text.Basic

/-!
# Run ids

A run id is sixteen bytes with the marks of a random identifier, written in hexadecimal as 8-4-4-4-12 digits.
Ids are made from a stream of bytes, sixteen at a time.  Nothing is assumed of the bytes, so that two ids may be
equal.
-/

namespace PayRun

/-- The identifier of a run: sixteen bytes. -/
structure RunId where
  octets : List UInt8
  deriving DecidableEq, Repr

namespace RunId

/-- Marks sixteen bytes as a random identifier: the version in the seventh byte, the variant in the ninth. -/
def mark (octets : List UInt8) : RunId where
  octets := (octets.modify 6 fun b => (b &&& 0x0F) ||| 0x40).modify 8 fun b => (b &&& 0x3F) ||| 0x80

/-- The hexadecimal digits of `count` bytes, from the one at `start` on. -/
def group (id : RunId) (start count : Nat) : Text :=
  ((id.octets.drop start).take count).flatMap fun b => Text.hex 2 b.toNat

def toText (id : RunId) : Text :=
  ['-'.toUInt8].intercalate [id.group 0 4, id.group 4 2, id.group 6 2, id.group 8 2, id.group 10 6]

/-- A stream of bytes, read up to a position. -/
structure Source where
  byte : Nat → UInt8
  position : Nat := 0

/-- Makes an identifier from the next sixteen bytes. -/
def Source.draw (s : Source) : RunId × Source :=
  (mark ((List.range 16).map fun i => s.byte (s.position + i)), { s with position := s.position + 16 })

end RunId

end PayRun
