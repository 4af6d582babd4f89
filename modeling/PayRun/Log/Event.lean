import PayRun.Text.Basic

/-!
# Log events

An event has a level, a message and fields in the order in which they were added.  Levels are ordered from
`trace` to `panic`; a threshold is chosen by name among the levels below `fatal`, and any other name means
`info`.
-/

namespace PayRun.Log

inductive Level where
  | trace
  | debug
  | info
  | warn
  | error
  | fatal
  | panic
  deriving DecidableEq, Repr

namespace Level

def rank : Level → Int
  | trace => -1
  | debug => 0
  | info => 1
  | warn => 2
  | error => 3
  | fatal => 4
  | panic => 5

instance : LE Level := ⟨fun a b => a.rank ≤ b.rank⟩

instance (a b : Level) : Decidable (a ≤ b) := inferInstanceAs (Decidable (a.rank ≤ b.rank))

def name : Level → Text
  | trace => "trace"
  | debug => "debug"
  | info => "info"
  | warn => "warn"
  | error => "error"
  | fatal => "fatal"
  | panic => "panic"

def all : List Level := [trace, debug, info, warn, error, fatal, panic]

/-- The levels that a threshold can be set to. -/
def thresholds : List Level := [trace, debug, info, warn, error]

/-- The threshold with a given name, which is `info` if there is none. -/
def ofName (t : Text) : Level := (thresholds.find? (·.name = t)).getD info

end Level

inductive Value where
  | text (t : Text)
  | int (n : Int)
  | bool (b : Bool)
  deriving DecidableEq, Repr

structure Field where
  key : Text
  value : Value
  deriving DecidableEq, Repr

/-! ### Keys with a meaning -/

def levelKey : Text := "level"

def timeKey : Text := "time"

def messageKey : Text := "message"

/-- The key of the place in a program that an event comes from. -/
def callerKey : Text := "caller"

def errorKey : Text := "error"

def Field.error (t : Text) : Field := ⟨errorKey, .text t⟩

structure Event where
  level : Level
  message : Text
  fields : List Field
  deriving DecidableEq, Repr

def boolText (b : Bool) : Text := if b then "true" else "false"

end PayRun.Log
