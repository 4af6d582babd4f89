import Mathlib
import PayRun.Proofs.Outcome

/-!
# What a run logs

The events of a run are fixed by its id, the name of the employee and how the run ends (`Run.eventsFor`).  A run of
an accepted employee logs at least its start, and every event carries the id of the run.
-/

namespace PayRun

namespace Run

/-- The event that opens a run. -/
def opening (id : RunId) (name : Text) : Log.Event :=
  ⟨.info, "iniciando liquidación", [⟨"run_id", .text id.toText⟩, ⟨"employee", .text name⟩]⟩

/-- The events that a run has to log: none if the employee is refused, the values of the report and its end if there
is one, the interruption if a line could not be printed, and nothing after the opening if an amount overflows. -/
def eventsFor (id : RunId) (name : Text) : Except RunError Report → List Log.Event
  | .error (.refused _) => []
  | .ok r =>
    [opening id name,
      ⟨.debug, "valores internos",
        [⟨"run_id", .text id.toText⟩, ⟨"bonus", .text r.bonus.toText⟩, ⟨"productivity", .text r.productivity.toText⟩,
          ⟨"has_bonus", .bool r.hasBonus⟩, ⟨"is_employed", .bool r.isEmployed⟩, ⟨"year_sum", .int r.yearSum.toInt⟩]⟩,
      ⟨.info, "liquidación finalizada",
        [⟨"run_id", .text id.toText⟩, ⟨"lines", .int 54⟩, ⟨"tier", .text r.tier.label⟩]⟩]
  | .error (.interrupted line failure) =>
    [opening id name,
      ⟨.error, "salida interrumpida",
        [⟨"run_id", .text id.toText⟩, ⟨"error", .text (RunError.interrupted line failure).message⟩,
          ⟨"lines", .int (line - 1)⟩]⟩]
  | .error .noAverage => [opening id name]
  | .error (.overflow _) => [opening id name]

/-- A run with a report logs the values of the report. -/
private theorem events_of_report {id : RunId} {e : Employee} {s : Sink} {r : Report}
    (h : (settle id e s).result = .ok r) : (settle id e s).events = eventsFor id e.name (.ok r) := by
  have hcount := (out_of_report h).2
  obtain ⟨haccepted, bonus, settlement, average, ha, hd, -⟩ := settle_eq_ok h
  rw [settle_of_accepted haccepted, perform_of_average id s ha hd] at h ⊢
  obtain ⟨hnone, rfl⟩ := conclude_eq_ok h
  simp only [conclude, hnone, eventsFor, figures, finished, hcount]
  rfl

/-- The events of a run are those for its result. -/
theorem events_settle (id : RunId) (e : Employee) (s : Sink) :
    (settle id e s).events = eventsFor id e.name (settle id e s).result := by
  rcases hresult : (settle id e s).result with error | r
  · cases hrefusal : e.refusal? with
    | some refusal =>
      simp only [settle, hrefusal, Except.error.injEq] at hresult ⊢
      rw [← hresult]
      rfl
    | none =>
      rw [settle_of_accepted hrefusal] at hresult ⊢
      rcases perform_cases id e s with ⟨cause, -, hrun⟩ | ⟨bonus, settlement, cause, -, hd, hrun⟩ |
        ⟨bonus, settlement, average, -, -, hrun⟩
      · rw [hrun] at hresult ⊢
        cases hresult
        rfl
      · obtain ⟨-, rfl⟩ := (averageDaily_eq_error_iff hrefusal).1 hd
        rw [hrun] at hresult ⊢
        cases hresult
        rfl
      · rw [hrun] at hresult ⊢
        unfold conclude at hresult ⊢
        split at hresult
        · cases hresult
          simp [eventsFor, interrupted, started, event, opening, Log.Field.error, Log.errorKey]
        · cases hresult
  · exact events_of_report hresult

/-- Every event of a run carries the id of the run, in its first field. -/
theorem head?_fields_of_mem_eventsFor {id : RunId} {name : Text} {result : Except RunError Report} {event : Log.Event}
    (h : event ∈ eventsFor id name result) : event.fields.head? = some ⟨"run_id", .text id.toText⟩ := by
  unfold eventsFor at h
  split at h <;> simp only [List.mem_cons, List.not_mem_nil, or_false] at h
  · rcases h with rfl | rfl | rfl <;> rfl
  · rcases h with rfl | rfl <;> rfl
  · rw [h]; rfl
  · rw [h]; rfl

theorem head?_fields_of_mem_events {id : RunId} {e : Employee} {s : Sink} {event : Log.Event}
    (h : event ∈ (settle id e s).events) : event.fields.head? = some ⟨"run_id", .text id.toText⟩ := by
  rw [events_settle] at h
  exact head?_fields_of_mem_eventsFor h

/-- A run of an accepted employee logs its opening first. -/
theorem head?_events_of_accepted {e : Employee} (h : e.refusal? = none) (id : RunId) (s : Sink) :
    (settle id e s).events.head? = some (opening id e.name) := by
  rw [settle_of_accepted h]
  rcases perform_cases id e s with ⟨cause, -, hrun⟩ | ⟨bonus, settlement, cause, -, -, hrun⟩ |
    ⟨bonus, settlement, average, -, -, hrun⟩
  · rw [hrun]; rfl
  · rw [hrun]; rfl
  · rw [hrun]
    unfold conclude
    split <;> rfl

end Run

end PayRun
