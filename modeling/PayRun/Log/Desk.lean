import PayRun.Log.Logger

/-!
# Several loggers

A program may open any number of loggers.  Each has a destination of its own, standard error or a buffer, and
keeps it along with its form and its threshold.  The process shares one logger, which every opening sets anew; an
event that names no logger goes to it.  A desk starts without a shared logger and drops such events: what a process
logs before it opens a logger is no part of the desk.
-/

namespace PayRun.Log

inductive Destination where
  /-- The buffer of the logger opened with this number. -/
  | buffer (index : Nat)
  | standardError
  deriving DecidableEq, Repr

/-- The loggers opened so far, each with its destination, the one that the process shares, whether standard error
shows colours, and the folder that places are told from. -/
structure Desk where
  opened : List (Logger × Destination) := []
  shared : Option (Logger × Destination) := none
  colours : Bool
  folder : Text := Path.root
  deriving DecidableEq, Repr

namespace Desk

/-- What can be done with loggers. -/
inductive Step where
  /-- Open a logger for an environment and a threshold, on standard error or on a buffer of its own. -/
  | create (environment threshold : Text) (onStandardError : Bool)
  /-- Log an event to the logger with a number, or to the one that the process shares. -/
  | log (index : Option Nat) (event : Event)

/-- What a step answers. -/
inductive Answer where
  | opened (index : Nat) (threshold : Level)
  | wrote (destination : Destination) (added : Text)
  | silent
  | unknown (index : Nat)
  deriving DecidableEq, Repr

/-- The logger that an event goes to. -/
def find? (d : Desk) : Option Nat → Option (Logger × Destination)
  | some index => d.opened[index]?
  | none => d.shared

def step (now : Moment) (d : Desk) : Step → Desk × Answer
  | .create environment threshold onStandardError =>
    let logger := Logger.of environment threshold { coloured := onStandardError && d.colours, folder := d.folder }
    let destination := if onStandardError then .standardError else .buffer d.opened.length
    ({ d with opened := d.opened ++ [(logger, destination)], shared := some (logger, destination) },
      .opened d.opened.length logger.threshold)
  | .log index event =>
    match d.find? index, index with
    | some (logger, destination), _ =>
      (d, if logger.writes event.level then .wrote destination (logger.log now [event]) else .silent)
    | none, some i => (d, .unknown i)
    | none, none => (d, .silent)

def answers (now : Moment) (d : Desk) : List Step → List Answer
  | [] => []
  | s :: rest => (d.step now s).2 :: answers now (d.step now s).1 rest

end Desk

end PayRun.Log
