import PayRun.Text.Space
import PayRun.Dotenv.Window

/-!
# Logical lines of a dotenv file

A value that opens a quote and does not close it on the same line goes on over the next lines, up to one that
closes it; the whole is one logical line.  Empty lines and comments are dropped.
-/

namespace PayRun.Dotenv

/-! ### Quotes -/

def isQuote (b : UInt8) : Bool := b == Text.singleQuote || b == Text.doubleQuote

def lastIndex? (b : UInt8) (t : Text) : Option Nat := (t.reverse.idxOf? b).map (t.length - 1 - ·)

/-- The text after the first equals sign, or after the first colon if there is none.  The sign may be neither
the first byte nor the last. -/
def afterSign? (line : Text) : Option Text :=
  let sign := if line.contains '='.toUInt8 then '='.toUInt8 else ':'.toUInt8
  match line.takeWhile (· != sign), line.dropWhile (· != sign) with
  | _ :: _, _ :: rest => if rest = [] then none else some rest
  | _, _ => none

/-- The quote that a line leaves open, if it does.  The quote is closed by another one after it unless a
backslash stands in front of the last one, counted with the blanks after the opening quote left out. -/
def openQuote? (line : Text) : Option UInt8 :=
  match (afterSign? line).map Text.trim with
  | some (q :: rest) =>
    if isQuote q then
      match lastIndex? q (Text.trim rest) with
      | some i => if (q :: rest)[i]? = some Text.backslash then some q else none
      | none => some q
    else none
  | _ => none

/-- Does the line close a quote that was left open?  Its last quote counts, unless a backslash stands in front
of it. -/
def closesQuote (q : UInt8) (raw : Text) : Bool :=
  match lastIndex? q raw with
  | some 0 => true
  | some (i + 1) => raw[i]? != some Text.backslash
  | none => false

/-! ### Logical lines -/

/-- Does the line say nothing? -/
def isIdle (line : Text) : Bool := line.head?.all (· == '#'.toUInt8)

/-- The logical lines of raw lines, after those in `done`, the latest one first; `unclosed` is the line begun
and its open quote.  There are none if a quote stays open. -/
def logicalLines (done : List Text) (unclosed : Option (UInt8 × Text)) : List Text → Option (List Text)
  | [] => if unclosed.isSome then none else some done.reverse
  | raw :: rest =>
    match unclosed with
    | some (q, line) =>
      let joined := line ++ Text.newline :: raw
      if closesQuote q raw then logicalLines (joined :: done) none rest
      else logicalLines done (some (q, joined)) rest
    | none =>
      let line := Text.trim raw
      if isIdle line then logicalLines done none rest
      else
        match openQuote? line with
        | some q => logicalLines done (some (q, line)) rest
        | none => logicalLines (line :: done) none rest

/-- The logical lines of a file, if it is not empty, all its lines are short enough and all its quotes closed. -/
def lines (file : Text) : Option (List Text) :=
  let raw := (intake file).lines
  if file ≠ [] ∧ raw.all (·.length < Window.lastSize) then logicalLines [] none raw else none

end PayRun.Dotenv
