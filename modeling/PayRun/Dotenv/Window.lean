import PayRun.Dotenv.Intake

/-!
# Splitting a text into lines

Lines end with a carriage return, a line feed, or both, in this order.  The text is seen through a window, and a
carriage return and a line feed are one line end only if the window shows both; else they are two, with an empty
line between them.

The window is filled from the portions of the text, one at a time.  When all lines in it have been taken, it is
moved on to the line begun, if it is full or its first half lies behind that line, and it is made twice as large
if that line fills it.
-/

namespace PayRun.Dotenv

/-- What is known of the window while a text is split. -/
structure Window where
  /-- The number of bytes that it can show. -/
  size : Nat := 0
  /-- The number of bytes in it that belong to earlier lines. -/
  behind : Nat := 0
  /-- The number of bytes of the line begun. -/
  begun : Nat := 0
  /-- The number of bytes in it that follow. -/
  ahead : Nat := 0
  /-- Would a line feed belong to the line end just passed? -/
  afterReturn : Bool := false
  /-- The lengths of the portions to come. -/
  portions : List Nat
  deriving DecidableEq, Repr

namespace Window

def firstSize : Nat := 4096

/-- The size that the window never exceeds, and which no line may reach. -/
def lastSize : Nat := 65536

/-- The window moved on to the line begun, if there is reason to. -/
def moved (w : Window) : Window :=
  if w.behind + w.begun = w.size ∨ w.size / 2 < w.behind then { w with behind := 0 } else w

/-- The window made larger, if it is full. -/
def enlarged (w : Window) : Window :=
  if w.behind + w.begun = w.size then { w with size := min (max firstSize (2 * w.size)) lastSize } else w

/-- The window with what the next portion adds to it, as far as there is room. -/
def filled (w : Window) : Window :=
  match w.portions with
  | [] => w
  | n :: rest =>
    let room := w.size - (w.behind + w.begun)
    if n ≤ room then { w with ahead := n, portions := rest }
    else { w with ahead := room, portions := (n - room) :: rest }

/-- The window with a byte ahead. -/
def ready (w : Window) : Window := if w.ahead = 0 then w.moved.enlarged.filled else w

def pass (w : Window) : Window := { w with begun := w.begun + 1, ahead := w.ahead - 1, afterReturn := false }

/-- Passes the last byte of a line end. -/
def endLine (w : Window) (atReturn : Bool) : Window :=
  { w with
    behind := w.behind + w.begun + 1
    begun := 0
    ahead := w.ahead - 1
    afterReturn := atReturn && 1 < w.ahead }

end Window

/-- The lines of a text after those in `done`, the latest one first; `current` is the line begun, its last byte
first. -/
def splitLines (w : Window) (done : List Text) (current : Text) : Text → List Text
  | [] => (current.reverse :: done).reverse
  | b :: rest =>
    if b = 10 ∧ w.afterReturn then splitLines (w.endLine false) done current rest
    else if b = 10 ∨ b = 13 then splitLines (w.ready.endLine (b = 13)) (current.reverse :: done) [] rest
    else splitLines w.ready.pass done (b :: current) rest

/-- The lines of a text that comes in. -/
def Intake.lines (i : Intake) : List Text := splitLines { portions := i.portions.filter (· ≠ 0) } [] [] i.text

end PayRun.Dotenv
