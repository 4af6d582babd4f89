import Mathlib
import PayRun.Command
import PayRun.Proofs.Overflow
import PayRun.Proofs.PaySlip
import PayRun.Proofs.RunLog

/-!
# What the command shows

The settings of the command come from files and variables that anybody may have written.  They reach the log, its
form, its colours and its threshold, and nothing else: on a standard output that works the command prints the pay
slip of the standard employee and exits with 0, and on one that does not it prints nothing and exits with 1.  No
text names a threshold above `error` (`Log.Level.ofName_mem_thresholds`), so a failed run is always told on
standard error, by an error and a fatal event, each on a line of its own (`Command.run_outcome`).  A standard
output that fails later has taken the lines before (`Command.run_interrupted`).
-/

namespace PayRun

namespace Log.Level

theorem ofName_mem_thresholds (t : Text) : ofName t ∈ thresholds := by
  unfold ofName
  cases h : thresholds.find? (·.name = t) with
  | none => decide
  | some l => exact List.mem_of_find?_eq_some h

private theorem ofName_le_error (t : Text) : ofName t ≤ error ∧ ofName t ≤ fatal := by
  have hall : ∀ l ∈ thresholds, l ≤ error ∧ l ≤ fatal := by decide
  exact hall _ (ofName_mem_thresholds t)

end Log.Level

/-! ### The run of the standard employee -/

namespace Employee

private theorem refusal?_standard : standard.refusal? = none := by decide

private theorem length_slip_standard : standard.slip.length = 54 := by decide

private theorem readLines_slip_standard : Text.readLines (Text.ofLines standard.slip) = standard.slip := by
  have hlines : ∀ l ∈ standard.slip, Text.newline ∉ l := by decide +kernel
  exact Text.readLines_ofLines hlines

end Employee

namespace Run

private theorem settle_standard (id : RunId) (s : Sink) :
    ∃ bonus settlement average, settle id .standard s =
      conclude id .standard bonus settlement average (s.printLines Employee.standard.slip) := by
  have hdefined : ∀ cause, (settle id .standard s).result ≠ .error (.overflow cause) := by
    intro cause hoverflow
    have hexponents := (exists_settle_overflow_iff Employee.refusal?_standard id s).1 ⟨cause, hoverflow⟩
    revert hexponents
    decide
  exact (settle_eq_conclude Employee.refusal?_standard id s hdefined).2

end Run

/-! ### Standard output -/

namespace Command

private theorem failureAt_sink (stdout : StandardOutput) (lines : List Text) (k : Nat) :
    stdout.sink.failureAt lines k = (stdout.fails (k + 1)).map WriteError.failure := by
  cases h : stdout.fails (k + 1) <;> simp [Sink.failureAt, StandardOutput.sink, h]

private theorem acceptedAt_sink {stdout : StandardOutput} {k : Nat} {error : WriteError}
    (h : stdout.fails (k + 1) = some error) (lines : List Text) : stdout.sink.acceptedAt lines k = [] := by
  simp [Sink.acceptedAt, StandardOutput.sink, h]

private theorem settle_standard_of_working {stdout : StandardOutput} (h : ∀ n, stdout.fails n = none) (id : RunId) :
    (Run.settle id .standard stdout.sink).out = Text.ofLines Employee.standard.slip ∧
      ∃ r, (Run.settle id .standard stdout.sink).result = .ok r := by
  obtain ⟨bonus, settlement, average, hrun⟩ := Run.settle_standard id stdout.sink
  have hnone : ∀ k < Employee.standard.slip.length, stdout.sink.failureAt Employee.standard.slip k = none := by
    intro k _
    rw [failureAt_sink, h]
    rfl
  rw [hrun, Sink.printLines_of_noFailure _ hnone]
  exact ⟨rfl, _, rfl⟩

/-- If the write of line `k + 1` is the first to fail, the lines before it are there and nothing else. -/
private theorem settle_standard_of_failing {stdout : StandardOutput} {k : Nat} {error : WriteError}
    (hk : k < Employee.standard.slip.length) (hbefore : ∀ j < k, stdout.fails (j + 1) = none)
    (h : stdout.fails (k + 1) = some error) (id : RunId) :
    (Run.settle id .standard stdout.sink).out = Text.ofLines (Employee.standard.slip.take k) ∧
      (Run.settle id .standard stdout.sink).result = .error (.interrupted (k + 1) error.failure) := by
  obtain ⟨bonus, settlement, average, hrun⟩ := Run.settle_standard id stdout.sink
  have hnone : ∀ j < k, stdout.sink.failureAt Employee.standard.slip j = none := by
    intro j hj
    rw [failureAt_sink, hbefore j hj]
    rfl
  have hfirst : stdout.sink.failureAt Employee.standard.slip k = some error.failure := by
    rw [failureAt_sink, h]
    rfl
  rw [hrun, Sink.printLines_of_firstFailure _ hk hnone hfirst, acceptedAt_sink h, List.append_nil]
  exact ⟨rfl, rfl⟩

/-! ### Standard error -/

/-- What is said if the first line cannot be written. -/
def failureText (failure : Sink.Failure) : Text := Text.ofString "imprimir línea 1: console: " ++ failure.message

def interruptedEvent (id : RunId) (failure : Sink.Failure) : Log.Event :=
  ⟨.error, "salida interrumpida",
    [⟨"run_id", .text id.toText⟩, ⟨"error", .text (failureText failure)⟩, ⟨"lines", .int 0⟩]⟩

def fatalEvent (failure : Sink.Failure) : Log.Event :=
  ⟨.fatal, "liquidación", [⟨"error", .text (failureText failure)⟩]⟩

private theorem message_interrupted (failure : Sink.Failure) :
    (RunError.interrupted 1 failure).message = failureText failure := by
  have htext : Text.ofString "imprimir línea 1: console: " =
      Text.ofString "imprimir línea " ++ Text.ofNat 1 ++ Text.ofString ": " ++ Text.ofString "console: " := by
    decide +kernel
  simp [RunError.message, Sink.Failure.lineMessage, failureText, htext]

private theorem eventsFor_interrupted (id : RunId) (failure : Sink.Failure) :
    Run.eventsFor id Employee.standard.name (.error (.interrupted 1 failure)) =
      [Run.opening id Employee.standard.name, interruptedEvent id failure] := by
  rw [Run.eventsFor, message_interrupted]
  rfl

/-- The events of the command if the first line cannot be written, whatever the threshold. -/
def failureEvents (settings : Settings) (id : RunId) (failure : Sink.Failure) : List Log.Event :=
  [started settings, Run.opening id Employee.standard.name, interruptedEvent id failure, fatalEvent failure]

private theorem plain_of_mem_failureEvents {settings : Settings} {id : RunId} {failure : Sink.Failure}
    {event : Log.Event} (h : event ∈ failureEvents settings id failure) : event.Plain := by
  have hstarted : Log.Readable ["env", "app"] "iniciando aplicación" := by decide +kernel
  have hfatal : Log.Readable ["error"] "liquidación" := by decide +kernel
  have hrun : ∀ event ∈ [Run.opening id Employee.standard.name, interruptedEvent id failure], event.Plain := by
    rw [← eventsFor_interrupted]
    exact fun event => Run.plain_of_mem_eventsFor
  simp only [failureEvents, List.mem_cons, List.not_mem_nil, or_false] at h
  rcases h with rfl | rfl | rfl | rfl
  · exact hstarted
  · exact hrun _ (by simp)
  · exact hrun _ (by simp)
  · exact hfatal

/-- Standard error holds the events from the threshold on. -/
theorem stderr_run (folder : Folder) (env : Environment) (id : RunId) (now : Moment) (stdout : StandardOutput) :
    let settings := Settings.load folder env
    let result := (Run.settle id .standard stdout.sink).result
    let events := started settings :: Run.eventsFor id Employee.standard.name result ++ closing result
    (run folder env id now stdout).stderr =
      (events.filter (Log.Level.ofName settings.threshold ≤ ·.level)).flatMap
        ((Log.Form.ofEnvironment settings.environment { coloured := colours env }).line now) := by
  intro settings result events
  have hevents : events = started settings :: (Run.settle id .standard stdout.sink).events ++ closing result := by
    rw [Run.events_settle]
  rw [hevents]
  rfl

private theorem exitCode_run (folder : Folder) (env : Environment) (id : RunId) (now : Moment)
    (stdout : StandardOutput) :
    (run folder env id now stdout).exitCode =
      if (Run.settle id .standard stdout.sink).result.isOk then 0 else 1 := by
  unfold run
  rfl

/-- A command that fails to write line `k + 1` has written the lines before it, and exits with 1. -/
theorem run_interrupted (folder : Folder) (env : Environment) (id : RunId) (now : Moment) {stdout : StandardOutput}
    {k : Nat} {error : WriteError} (hk : k < Employee.standard.slip.length)
    (hbefore : ∀ j < k, stdout.fails (j + 1) = none) (h : stdout.fails (k + 1) = some error) :
    (run folder env id now stdout).exitCode = 1 ∧
      (run folder env id now stdout).stdout = Text.ofLines (Employee.standard.slip.take k) := by
  obtain ⟨hout, hresult⟩ := settle_standard_of_failing hk hbefore h id
  refine ⟨?_, hout⟩
  rw [exitCode_run, hresult]
  rfl

/-- From `warn` on nothing is written but errors. -/
private theorem filter_quiet {threshold : Log.Level} (h : threshold = .warn ∨ threshold = .error)
    {events : List Log.Event} (hevents : ∀ event ∈ events, event.level = .debug ∨ event.level = .info) :
    events.filter (threshold ≤ ·.level) = [] := by
  have hlevels : ∀ l, l = Log.Level.debug ∨ l = Log.Level.info → ¬ Log.Level.warn ≤ l ∧ ¬ Log.Level.error ≤ l := by
    rintro l (rfl | rfl) <;> decide
  rw [List.filter_eq_nil_iff]
  intro event hevent
  obtain ⟨hwarn, herror⟩ := hlevels _ (hevents event hevent)
  rcases h with rfl | rfl
  · simpa using hwarn
  · simpa using herror

/-- What the command leaves behind on a standard output that works and on one that does not.  The settings decide
which of the events before a failure are written and how, but they decide neither the output, nor the exit code,
nor whether the failure is told. -/
theorem run_outcome (folder : Folder) (env : Environment) (id : RunId) (now : Moment) (stdout : StandardOutput) :
    let settings := Settings.load folder env
    let threshold := Log.Level.ofName settings.threshold
    let form := Log.Form.ofEnvironment settings.environment { coloured := colours env }
    let outcome := run folder env id now stdout
    ((∀ n, stdout.fails n = none) →
      outcome.exitCode = 0 ∧ outcome.stdout = Text.ofLines Employee.standard.slip ∧
      (Text.readLines outcome.stdout).length = 54 ∧
      (threshold = .warn ∨ threshold = .error → outcome.stderr = [])) ∧
    (∀ error, stdout.fails 1 = some error →
      let last := [interruptedEvent id error.failure, fatalEvent error.failure]
      outcome.exitCode = 1 ∧ outcome.stdout = [] ∧
      ∃ earlier, outcome.stderr = (earlier ++ last).flatMap (form.line now) ∧
        Text.readLines outcome.stderr = (earlier ++ last).map (fun event => (form.line now event).dropLast) ∧
        earlier = [started settings, Run.opening id Employee.standard.name].filter (threshold ≤ ·.level) ∧
        (threshold = .warn ∨ threshold = .error → earlier = [])) := by
  intro settings threshold form outcome
  have hstderr := stderr_run folder env id now stdout
  constructor
  · intro hworks
    obtain ⟨hout, r, hresult⟩ := settle_standard_of_working hworks id
    have hstdout : outcome.stdout = Text.ofLines Employee.standard.slip := hout
    refine ⟨?_, hstdout, ?_, ?_⟩
    · show (run folder env id now stdout).exitCode = 0
      rw [exitCode_run, hresult]
      rfl
    · rw [hstdout, Employee.readLines_slip_standard, Employee.length_slip_standard]
    · intro hquiet
      rw [hresult] at hstderr
      refine hstderr.trans ?_
      rw [filter_quiet hquiet]
      · rfl
      · intro event hevent
        simp only [Run.eventsFor, closing, List.append_nil, List.mem_cons, List.not_mem_nil, or_false] at hevent
        rcases hevent with rfl | rfl | rfl | rfl
        · exact .inr rfl
        · exact .inr rfl
        · exact .inl rfl
        · exact .inr rfl
  · intro error herror last
    obtain ⟨hexit, hout⟩ := run_interrupted folder env id now (k := 0) (by decide) (by simp) herror
    have hresult : (Run.settle id .standard stdout.sink).result = .error (.interrupted 1 error.failure) :=
      (settle_standard_of_failing (by decide) (by simp) herror id).2
    -- the two events of the failure pass every threshold
    obtain ⟨hpasses, hpasses'⟩ := Log.Level.ofName_le_error settings.threshold
    have hwritten : (failureEvents settings id error.failure).filter (threshold ≤ ·.level) =
        [started settings, Run.opening id Employee.standard.name].filter (threshold ≤ ·.level) ++ last := by
      have hlast : last.filter (threshold ≤ ·.level) = last := by
        simp [last, interruptedEvent, fatalEvent, threshold, hpasses, hpasses']
      rw [← hlast, ← List.filter_append]
      rfl
    have hlog : outcome.stderr =
        ((failureEvents settings id error.failure).filter (threshold ≤ ·.level)).flatMap (form.line now) := by
      rw [hresult] at hstderr
      simp only [eventsFor_interrupted, closing, failed, Log.Field.error, Log.errorKey, message_interrupted]
        at hstderr
      exact hstderr
    refine ⟨hexit, hout, _, ?_, ?_, rfl, ?_⟩
    · rw [hlog, hwritten]
    · rw [hlog, ← hwritten]
      refine form.readLines_of_plain (fun event hevent => ?_) now
      exact plain_of_mem_failureEvents (List.mem_of_mem_filter hevent)
    · intro hquiet
      apply filter_quiet hquiet
      intro event hevent
      simp only [List.mem_cons, List.not_mem_nil, or_false] at hevent
      rcases hevent with rfl | rfl
      · exact .inr rfl
      · exact .inr rfl

/-- A file that asks for silence: the run without failures is silent, and the failed one is not. -/
theorem run_outcome_silenced :
    let folder : Folder := [(".env", .file "LOG_LEVEL=Error\nAPP_NAME=\"a\\nb\"\n")]
    let now : Moment := ⟨2024, 2, 29, 15, 4, 5⟩
    let full : StandardOutput := { fails := fun _ => some { reason := "no space left on device" } }
    let works := run folder [] ⟨[]⟩ now {}
    let fails := run folder [] ⟨[]⟩ now full
    works.exitCode = 0 ∧ works.stderr = [] ∧ fails.exitCode = 1 ∧ fails.stdout = [] ∧
      (Text.readLines fails.stderr).length = 2 := by
  intro folder now full works fails
  have hthreshold : Log.Level.ofName (Settings.load folder []).threshold = .error := by decide +kernel
  obtain ⟨hexit, -, -, hsilent⟩ := (run_outcome folder [] ⟨[]⟩ now {}).1 fun _ => rfl
  obtain ⟨hexit', hnothing, earlier, -, hlines, -, hquiet⟩ := (run_outcome folder [] ⟨[]⟩ now full).2 _ rfl
  refine ⟨hexit, hsilent (.inr hthreshold), hexit', hnothing, ?_⟩
  rw [hlines, hquiet (.inr hthreshold)]
  rfl

end Command

end PayRun
