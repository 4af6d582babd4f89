import PayRun.Run.Basic
import PayRun.Log.Logger

/-!
# Sessions

A session keeps a staff and settles the pay of its members any number of times.  All runs print to one sink, log
through one logger if there is one, and draw their ids from one stream.  A refused employee costs nothing: no id
is drawn and nothing is printed or logged.
-/

namespace PayRun

structure Session where
  staff : List Employee := []
  sink : Sink
  logger : Option Log.Logger
  ids : RunId.Source
  now : Moment

namespace Session

inductive Step where
  | enrol (e : Employee)
  /-- Settle the pay of the employee with this number. -/
  | run (index : Nat)
  | print (line : Text)

inductive Answer where
  /-- The employee was added with this number. -/
  | enrolled (index : Nat)
  /-- A run ended, and added texts to the sink and to the log. -/
  | ran (result : Except RunError Report) (out log : Text)
  /-- A line was printed, or failed to be, and added a text to the sink. -/
  | printed (failure : Option Sink.Failure) (out : Text)
  | unknown (index : Nat)

/-- What the step added to the sink. -/
def Answer.out : Answer → Text
  | .ran _ out _ => out
  | .printed _ out => out
  | .enrolled _ => []
  | .unknown _ => []

/-- What the step added to the log. -/
def Answer.log : Answer → Text
  | .ran _ _ log => log
  | .printed _ _ => []
  | .enrolled _ => []
  | .unknown _ => []

def log (s : Session) (events : List Log.Event) : Text :=
  match s.logger with
  | some logger => logger.log s.now events
  | none => []

/-- The stream of ids after a run of an employee: a refused one draws none. -/
def idsAfter (s : Session) (e : Employee) : RunId.Source :=
  if e.refusal?.isSome then s.ids else s.ids.draw.2

def settle (s : Session) (e : Employee) : Session × Answer :=
  let run := Run.settle s.ids.draw.1 e s.sink
  ({ s with sink := run.sink, ids := s.idsAfter e }, .ran run.result run.out (s.log run.events))

def step (s : Session) : Step → Session × Answer
  | .enrol e => ({ s with staff := s.staff ++ [e] }, .enrolled s.staff.length)
  | .run index =>
    match s.staff[index]? with
    | some e => s.settle e
    | none => (s, .unknown index)
  | .print line =>
    let printout := s.sink.printLine line
    ({ s with sink := printout.sink }, .printed printout.failure printout.out)

/-- The answers of a list of steps. -/
def answers (s : Session) : List Step → List Answer
  | [] => []
  | t :: rest => (s.step t).2 :: answers (s.step t).1 rest

/-- The session after a list of steps. -/
def after (s : Session) (steps : List Step) : Session := steps.foldl (fun s t => (s.step t).1) s

/-- A refused employee changes nothing. -/
theorem settle_of_refused (s : Session) {e : Employee} {refusal : Refusal} (h : e.refusal? = some refusal) :
    s.settle e = (s, .ran (.error (.refused refusal)) [] []) := by
  have hlog : s.log [] = [] := by unfold log; split <;> rfl
  simp [settle, idsAfter, Run.settle, h, hlog]

end Session

end PayRun
