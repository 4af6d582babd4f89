import PayRun.Path
import PayRun.Text.Quoted
import PayRun.Text.Uppercase
import PayRun.Text.Whole
import PayRun.Moment
import PayRun.Log.Event

/-!
# Events for a reader

On a console an event is one line: the time of day, a short level, the place it comes from if that is known, the
message unless it is empty, and the fields as `key=value`.  Of fields with the same key the last one counts;
fields are sorted by key, bytewise, and an error comes first.  A text value is quoted if it holds anything but
visible ASCII characters other than quotes and backslashes.  Ill-formed bytes are shown as replacement
characters.  On a terminal the parts are coloured.

Some fields are not listed but shown at the head of the line.  A field with the key of the level is shown in
place of the level, and one with the key of the message in place of an empty message; one with the key of the
caller is the only way to give a place.  A field with the key of the time is not shown.
-/

namespace PayRun.Log.Console

/-- How lines are shown: with colours or without, and with places told from a folder. -/
structure Style where
  coloured : Bool := false
  folder : Text := Path.root
  deriving DecidableEq, Repr

/-! ### Colours -/

/-- Wraps a text into the terminal's codes for a colour, if colours are used. -/
def Style.paint (s : Style) (code : Nat) (t : Text) : Text :=
  if s.coloured then List.flatten ["\x1b[", Text.ofNat code, "m", t, "\x1b[0m"] else t

def grey : Nat := 90

def bold : Nat := 1

def red : Nat := 31

def green : Nat := 32

def yellow : Nat := 33

def blue : Nat := 34

def cyan : Nat := 36

/-! ### Values -/

/-- The last value among fields with a key. -/
def lastValue? (key : Text) (fields : List Field) : Option Value :=
  (fields.reverse.find? (Text.repair ·.key = key)).map (·.value)

/-- A value at the head of a line, where only texts and numbers are expected: a truth value is shown as one that
does not fit. -/
def headText : Value → Text
  | .text t => Text.repair t
  | .int n => Text.ofInt n
  | .bool b => List.flatten ["%!s(bool=", boolText b, ")"]

/-! ### The level -/

/-- The value that stands for the level of an event. -/
def levelValue (e : Event) : Value := (lastValue? levelKey e.fields).getD (.text e.level.name)

def levelLabel : Level → Text
  | .trace => "TRC"
  | .debug => "DBG"
  | .info => "INF"
  | .warn => "WRN"
  | .error => "ERR"
  | .fatal => "FTL"
  | .panic => "PNC"

def levelColour : Level → Option Nat
  | .trace => some blue
  | .debug => none
  | .info => some green
  | .warn => some yellow
  | .error => some red
  | .fatal => some red
  | .panic => some red

/-- The level that a value names: by its name, in small or in capital letters, or by a text with its number. -/
def namedLevel? : Value → Option Level
  | .text t => Level.all.find? fun l => Text.smallLetters t = l.name ∨ Text.toInt? t = some l.rank
  | .int _ => none
  | .bool _ => none

/-- The name of a level names it. -/
theorem namedLevel?_name (l : Level) : namedLevel? (.text l.name) = some l := by
  cases l <;> decide +kernel

def unknownLabel : Text := "???"

/-- The first three bytes of a text in capital letters, for want of a short name. -/
def abbreviation (t : Text) : Text := if t = [] then unknownLabel else Text.upper (t.take 3)

def levelText (s : Style) (level : Value) : Text :=
  match namedLevel? level with
  | some l =>
    match levelColour l with
    | some code => s.paint code (levelLabel l)
    | none => levelLabel l
  | none => abbreviation (headText level)

/-! ### The place and the message -/

/-- The place of an event as it is shown: a text that is not empty, told from the folder. -/
def callerText? (s : Style) (e : Event) : Option Text :=
  match lastValue? callerKey e.fields with
  | some (.text t) =>
    if t = [] then none
    else some (s.paint bold (Path.relative s.folder (Text.repair t)) ++ s.paint cyan " >")
  | _ => none

/-- The value that stands for the message of an event. -/
def messageValue? (e : Event) : Option Value :=
  if e.message = [] then lastValue? messageKey e.fields else some (.text e.message)

/-- The levels whose messages stand out. -/
def boldLevels : List Level := [.info, .warn, .error, .fatal, .panic]

/-- The message as it is shown, if it is not empty.  It is bold if the level is exactly the name of one of the
levels from `info` on. -/
def messageText? (s : Style) (e : Event) : Option Text :=
  match messageValue? e with
  | none => none
  | some v =>
    if v = .text [] then none
    else if boldLevels.any (levelValue e = .text ·.name) then some (s.paint bold (headText v))
    else some (headText v)

/-! ### Fields -/

/-- Puts a field into a list sorted by key, in place of one with the same key. -/
def put (f : Field) : List Field → List Field
  | [] => [f]
  | g :: rest =>
    if f.key = g.key then f :: rest else if f.key < g.key then f :: g :: rest else g :: put f rest

/-- The keys of the parts that have a place of their own. -/
def headKeys : List Text := [levelKey, timeKey, messageKey, callerKey]

/-- The fields with well-formed keys, each key once, sorted. -/
def record (fields : List Field) : List Field :=
  (fields.foldl (fun kept f => put ⟨Text.repair f.key, f.value⟩ kept) []).filter (·.key ∉ headKeys)

/-- Moves an error to the front.  A field without a name is not shown beside an error. -/
def errorFirst (fields : List Field) : List Field :=
  match fields.find? (·.key = errorKey) with
  | some e => e :: fields.filter fun f => f.key ≠ errorKey ∧ f.key ≠ []
  | none => fields

/-- May the byte stand in a value without quotes? -/
def isPlain (b : UInt8) : Bool := 0x20 < b && b ≤ 0x7E && b != Text.backslash && b != Text.doubleQuote

def valueText : Value → Text
  | .text t => if t.all isPlain then t else Text.quote (Text.repair t)
  | .int n => Text.ofInt n
  | .bool b => boolText b

def fieldText (s : Style) (f : Field) : Text :=
  s.paint cyan (f.key ++ ['='.toUInt8]) ++
    if f.key = errorKey then s.paint red (s.paint bold (valueText f.value)) else valueText f.value

/-! ### Lines -/

def parts (s : Style) (now : Moment) (e : Event) : List Text :=
  s.paint grey now.kitchen :: levelText s (levelValue e) :: (callerText? s e).toList ++ (messageText? s e).toList ++
    (errorFirst (record e.fields)).map (fieldText s)

def line (s : Style) (now : Moment) (e : Event) : Text :=
  [' '.toUInt8].intercalate (parts s now e) ++ [Text.newline]

end PayRun.Log.Console
