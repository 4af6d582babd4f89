import PayRun.Log.Console
import PayRun.Log.Json

/-!
# Loggers

A logger writes the events from its threshold on, each as one line, in JSON or for a reader.
-/

namespace PayRun.Log

inductive Form where
  | json
  | console (style : Console.Style)
  deriving DecidableEq, Repr

/-- The environment in which logs are written for a reader. -/
def development : Text := "development"

/-- The form for an environment: for a reader in development, JSON in any other. -/
def Form.ofEnvironment (environment : Text) (style : Console.Style) : Form :=
  if environment = development then .console style else .json

def Form.line : Form → Moment → Event → Text
  | .json, now, e => Json.line now e
  | .console style, now, e => Console.line style now e

structure Logger where
  form : Form
  threshold : Level
  deriving DecidableEq, Repr

/-- The logger for an environment and a threshold given by name. -/
def Logger.of (environment threshold : Text) (style : Console.Style) : Logger :=
  ⟨.ofEnvironment environment style, .ofName threshold⟩

/-- Is an event of this level written? -/
def Logger.writes (l : Logger) (level : Level) : Bool := l.threshold ≤ level

/-- What the logger writes of some events. -/
def Logger.log (l : Logger) (now : Moment) (events : List Event) : Text :=
  (events.filter (l.writes ·.level)).flatMap (l.form.line now)

end PayRun.Log
