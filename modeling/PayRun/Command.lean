import PayRun.Settings
import PayRun.Run.Basic
import PayRun.Log.Logger

/-!
# The command

The program reads its settings, settles the pay of the standard employee on standard output and logs to standard
error.  It exits with 0 after a report, and with 1 and a fatal event otherwise.  A write to standard output may
return an error; a broken pipe is not returned but ends the process by a signal, so that it leaves no outcome.
-/

namespace PayRun.Command

/-- What the program leaves behind. -/
structure Outcome where
  exitCode : Nat
  stdout : Text
  stderr : Text
  deriving DecidableEq, Repr

/-- An error that a write to standard output returns, in the words of the system. -/
structure WriteError where
  reason : Text
  returned : reason ≠ Sink.Failure.brokenPipe.message := by decide
  deriving DecidableEq, Repr

def WriteError.failure (error : WriteError) : Sink.Failure := .system error.reason

/-- Standard output: the error of the write with a given number, counted from one, if it returns one. -/
structure StandardOutput where
  fails : Nat → Option WriteError := fun _ => none

def StandardOutput.sink (o : StandardOutput) : Sink where
  refuses n := (o.fails n).map WriteError.failure

/-- Does standard error show colours?  Not if the variable `NO_COLOR` is set to anything. -/
def colours (env : Environment) : Bool := (env.nonempty? "NO_COLOR").isNone

def started (s : Settings) : Log.Event :=
  ⟨.info, "iniciando aplicación", [⟨"env", .text s.environment⟩, ⟨"app", .text s.name⟩]⟩

def failed (error : RunError) : Log.Event := ⟨.fatal, "liquidación", [.error error.message]⟩

/-- The last events of the program. -/
def closing : Except RunError Report → List Log.Event
  | .ok _ => []
  | .error error => [failed error]

/-- Runs the program in a folder and an environment, with a run id, a clock and a standard output. -/
def run (folder : Folder) (env : Environment) (id : RunId) (now : Moment) (stdout : StandardOutput) : Outcome :=
  let settings := Settings.load folder env
  let logger := Log.Logger.of settings.environment settings.threshold { coloured := colours env }
  let run := Run.settle id .standard stdout.sink
  { exitCode := if run.result.isOk then 0 else 1
    stdout := run.out
    stderr := logger.log now (started settings :: run.events ++ closing run.result) }

end PayRun.Command
