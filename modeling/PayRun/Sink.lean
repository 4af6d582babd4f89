import PayRun.Text.Basic

/-!
# Sinks

A sink takes the printed lines, one write for each line with its newline.  It may refuse a write by its number,
and it may have room for so many bytes only; a write that does not fit is cut and fails.  A printout keeps the
first failure, and prints nothing after it (`Printout.print`).
-/

namespace PayRun

inductive Sink.Failure where
  | brokenPipe
  | full
  /-- The system returns an error for a write to standard output. -/
  | system (reason : Text)
  deriving DecidableEq, Repr

def Sink.Failure.message : Sink.Failure → Text
  | .brokenPipe => "broken pipe"
  | .full => "sink full"
  | .system reason => List.flatten ["write /dev/stdout: ", reason]

/-- What is said of a line that could not be printed. -/
def Sink.Failure.lineMessage (f : Sink.Failure) : Text := List.flatten ["console: ", f.message]

/-- A sink between two writes. -/
structure Sink where
  /-- The number of writes so far, failed ones included. -/
  writes : Nat := 0
  /-- The failure of the write with a given number, counted from one, if it is refused. -/
  refuses : Nat → Option Sink.Failure := fun _ => none
  /-- The bytes that still fit, if there is a limit. -/
  room : Option Nat := none

/-- What printing leaves behind. -/
structure Printout where
  /-- The bytes that the sink took. -/
  out : Text := []
  /-- The number of lines that it took whole. -/
  lines : Nat := 0
  /-- The failure that stopped the printing. -/
  failure : Option Sink.Failure := none
  sink : Sink

namespace Sink

/-- Prints a line and its newline in one write. -/
def printLine (s : Sink) (line : Text) : Printout :=
  let data := line ++ [Text.newline]
  let next := { s with writes := s.writes + 1 }
  match s.refuses next.writes, s.room with
  | some failure, _ => { out := [], lines := 0, failure := some failure, sink := next }
  | none, none => { out := data, lines := 1, failure := none, sink := next }
  | none, some room =>
    if data.length ≤ room then
      { out := data, lines := 1, failure := none, sink := { next with room := some (room - data.length) } }
    else { out := data.take room, lines := 0, failure := some .full, sink := { next with room := some 0 } }

theorem printLine_of_refused {s : Sink} {failure : Failure} (h : s.refuses (s.writes + 1) = some failure)
    (line : Text) :
    s.printLine line = { failure := some failure, sink := { s with writes := s.writes + 1 } } := by
  simp only [printLine, h]

theorem printLine_of_unlimited {s : Sink} (h : s.refuses (s.writes + 1) = none) (hroom : s.room = none)
    (line : Text) :
    s.printLine line =
      { out := line ++ [Text.newline], lines := 1, sink := { s with writes := s.writes + 1 } } := by
  simp only [printLine, h, hroom]

theorem printLine_of_fits {s : Sink} {room : Nat} {line : Text} (h : s.refuses (s.writes + 1) = none)
    (hroom : s.room = some room) (hfits : (line ++ [Text.newline]).length ≤ room) :
    s.printLine line =
      { out := line ++ [Text.newline], lines := 1,
        sink := { s with writes := s.writes + 1, room := some (room - (line ++ [Text.newline]).length) } } := by
  simp only [printLine, h, hroom, hfits, ↓reduceIte]

theorem printLine_of_full {s : Sink} {room : Nat} {line : Text} (h : s.refuses (s.writes + 1) = none)
    (hroom : s.room = some room) (hfull : room < (line ++ [Text.newline]).length) :
    s.printLine line =
      { out := (line ++ [Text.newline]).take room, failure := some .full,
        sink := { s with writes := s.writes + 1, room := some 0 } } := by
  simp only [printLine, h, hroom, Nat.not_le.2 hfull, ↓reduceIte]

end Sink

namespace Printout

/-- Prints one more line, unless an earlier one failed. -/
def print (p : Printout) (line : Text) : Printout :=
  match p.failure with
  | some _ => p
  | none =>
    let next := p.sink.printLine line
    { next with out := p.out ++ next.out, lines := p.lines + next.lines }

theorem print_start (s : Sink) (line : Text) : ({ sink := s } : Printout).print line = s.printLine line := by
  simp only [print, List.nil_append, Nat.zero_add]

def printAll (p : Printout) (lines : List Text) : Printout := lines.foldl print p

@[simp] theorem printAll_nil (p : Printout) : p.printAll [] = p := rfl

@[simp] theorem printAll_cons (p : Printout) (line : Text) (rest : List Text) :
    p.printAll (line :: rest) = (p.print line).printAll rest := rfl

theorem printAll_append (p : Printout) (first second : List Text) :
    p.printAll (first ++ second) = (p.printAll first).printAll second := List.foldl_append

end Printout

/-- Prints lines in order, up to the first failure. -/
def Sink.printLines (s : Sink) (lines : List Text) : Printout := ({ sink := s } : Printout).printAll lines

end PayRun
