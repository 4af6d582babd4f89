import PayRun.Run.Report
import PayRun.Sink
import PayRun.Log.Event

/-!
# Runs

A run settles the pay of one employee: it refuses the employee or takes a run id, computes the amounts, prints
the lines and returns a report.  What it leaves behind is a value (`Run`): the bytes printed, the events for the
log, the sink afterwards and the result.  The employee itself does not change.
-/

namespace PayRun

/-- Why a run returns no report. -/
inductive RunError where
  | refused (refusal : Refusal)
  /-- There are no days to average over. -/
  | noAverage
  /-- The line with this number, counted from one, could not be printed. -/
  | interrupted (line : Nat) (failure : Sink.Failure)
  /-- An amount has no representation. -/
  | overflow (cause : Decimal.Overflow)
  deriving DecidableEq, Repr

def RunError.message : RunError → Text
  | .refused refusal => List.flatten ["validar empleado: ", refusal.message]
  | .noAverage => List.flatten ["promedio diario: ", Refusal.noDaysText]
  | .interrupted line failure => List.flatten ["imprimir línea ", Text.ofNat line, ": ", failure.lineMessage]
  | .overflow cause => cause.message

def RunError.ofAverage : AverageError → RunError
  | .noDaysWorked => .noAverage
  | .overflow cause => .overflow cause

/-- What a run leaves behind. -/
structure Run where
  out : Text
  /-- The events for the log, whatever its threshold. -/
  events : List Log.Event
  sink : Sink
  result : Except RunError Report

namespace Run

/-! ### Events -/

/-- An event of a run, which carries its id. -/
def event (id : RunId) (level : Log.Level) (message : Text) (fields : List Log.Field) : Log.Event :=
  ⟨level, message, ⟨"run_id", .text id.toText⟩ :: fields⟩

def started (id : RunId) (e : Employee) : Log.Event :=
  event id .info "iniciando liquidación" [⟨"employee", .text e.name⟩]

/-- The values of a run that are not printed. -/
def figures (r : Report) : Log.Event :=
  event r.runId .debug "valores internos"
    [⟨"bonus", .text r.bonus.toText⟩, ⟨"productivity", .text r.productivity.toText⟩, ⟨"has_bonus", .bool r.hasBonus⟩,
      ⟨"is_employed", .bool r.isEmployed⟩, ⟨"year_sum", .int r.yearSum.toInt⟩]

def finished (r : Report) : Log.Event :=
  event r.runId .info "liquidación finalizada" [⟨"lines", .int r.lineCount⟩, ⟨"tier", .text r.tier.label⟩]

/-- A run could not print after so many lines. -/
def interrupted (id : RunId) (error : RunError) (lines : Nat) : Log.Event :=
  event id .error "salida interrumpida" [.error error.message, ⟨"lines", .int lines⟩]

/-! ### Runs of accepted employees -/

def amounts (e : Employee) : Except Decimal.Overflow (Decimal × Settlement) := do
  let bonus ← e.bonus
  return (bonus, ← Settlement.of e.salary bonus e.taxRate)

/-- The report of a run that printed `lineCount` lines. -/
def report (id : RunId) (e : Employee) (bonus : Decimal) (settlement : Settlement) (average : Decimal)
    (lineCount : Nat) : Report where
  runId := id
  name := e.name
  bonus := bonus
  settlement := settlement
  hasBonus := decide bonus.IsPositive
  isEmployed := e.active
  yearSum := Calendar.years.sum
  productivity := e.productivity
  averageDaily := average
  tier := .of settlement.netSalary
  ageAfter := e.age + 1
  daysWorkedAfter := e.daysWorked - 1
  lineCount := lineCount

/-- Ends a run with all lines printed, as far as they were. -/
def conclude (id : RunId) (e : Employee) (bonus : Decimal) (settlement : Settlement) (average : Decimal)
    (printout : Printout) : Run :=
  match printout.failure with
  | some failure =>
    let error := RunError.interrupted (printout.lines + 1) failure
    { out := printout.out, events := [started id e, interrupted id error printout.lines], sink := printout.sink,
      result := .error error }
  | none =>
    let r := report id e bonus settlement average printout.lines
    { out := printout.out, events := [started id e, figures r, finished r], sink := printout.sink, result := .ok r }

@[simp] theorem out_conclude (id : RunId) (e : Employee) (bonus : Decimal) (settlement : Settlement)
    (average : Decimal) (p : Printout) : (conclude id e bonus settlement average p).out = p.out := by
  unfold conclude
  split <;> rfl

@[simp] theorem sink_conclude (id : RunId) (e : Employee) (bonus : Decimal) (settlement : Settlement)
    (average : Decimal) (p : Printout) : (conclude id e bonus settlement average p).sink = p.sink := by
  unfold conclude
  split <;> rfl

/-- Settles the pay of an employee that is not refused.  Amounts that overflow stop the run: before anything is
printed, or for the daily average before the closing lines.  A failure to print does not: the average is still
computed, and no more lines are printed. -/
def perform (id : RunId) (e : Employee) (sink : Sink) : Run :=
  match amounts e with
  | .error cause => { out := [], events := [started id e], sink := sink, result := .error (.overflow cause) }
  | .ok (bonus, settlement) =>
    let opening := sink.printLines (Report.openingLines settlement.netSalary)
    match averageDaily settlement.netSalary e.daysWorked with
    | .error cause =>
      { out := opening.out, events := [started id e], sink := opening.sink, result := .error (.ofAverage cause) }
    | .ok average =>
      let all := opening.printAll (Report.closingLines e.name settlement.netSalary average)
      conclude id e bonus settlement average all

/-- Settles the pay of any employee.  A refused one leaves nothing behind but the refusal. -/
def settle (id : RunId) (e : Employee) (sink : Sink) : Run :=
  match e.refusal? with
  | some refusal => { out := [], events := [], sink := sink, result := .error (.refused refusal) }
  | none => perform id e sink

end Run

end PayRun
