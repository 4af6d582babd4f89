import Mathlib
import PayRun.Proofs.Events
import PayRun.Proofs.LogLine
import PayRun.Session

/-!
# The log of a run

What a run adds to the log of its session: of the events for its result, those from the threshold on, each on one
line.  The name of the employee reaches the log and may hold any bytes, newlines and quotes among them.  It never
ends a line or adds a field to one: the log has as many lines as events were kept, and on each of them the id of the
run is found once (`Session.settle_logs`).
-/

namespace PayRun

open Log

private theorem RunId.isPlain_of_mem_toText {id : RunId} {b : UInt8} (h : b ∈ id.toText) :
    Console.isPlain b = true := by
  rcases Text.mem_intercalate h with rfl | ⟨group, hgroup, hb⟩
  · decide
  · have hhex : ∀ {start count : Nat}, b ∈ id.group start count → Console.isPlain b = true := by
      intro start count hb
      obtain ⟨octet, -, hb⟩ := List.mem_flatMap.1 hb
      exact Console.isPlain_of_mem_hex hb
    simp only [List.mem_cons, List.not_mem_nil, or_false] at hgroup
    rcases hgroup with rfl | rfl | rfl | rfl | rfl <;> exact hhex hb

namespace Run

/-- The events of a run have names for keys and ordinary messages, whatever their values are. -/
theorem plain_of_mem_eventsFor {id : RunId} {name : Text} {result : Except RunError Report} {event : Event}
    (h : event ∈ eventsFor id name result) : event.Plain := by
  have hopening : (opening id name).Plain := by
    have hreadable : Readable ["run_id", "employee"] "iniciando liquidación" := by decide +kernel
    exact hreadable
  unfold eventsFor at h
  split at h <;> simp only [List.mem_cons, List.not_mem_nil, or_false] at h
  · rcases h with rfl | rfl | rfl
    · exact hopening
    · have hreadable : Readable ["run_id", "bonus", "productivity", "has_bonus", "is_employed", "year_sum"]
          "valores internos" := by decide +kernel
      exact hreadable
    · have hreadable : Readable ["run_id", "lines", "tier"] "liquidación finalizada" := by decide +kernel
      exact hreadable
  · rcases h with rfl | rfl
    · exact hopening
    · have hreadable : Readable ["run_id", "error", "lines"] "salida interrumpida" := by decide +kernel
      exact hreadable
  · rw [h]
    exact hopening
  · rw [h]
    exact hopening

/-- How a run without overflow can end. -/
private theorem result_cases {id : RunId} {e : Employee} {s : Sink}
    (hdefined : ∀ cause, (settle id e s).result ≠ .error (.overflow cause)) :
    (∃ refusal, e.refusal? = some refusal ∧ (settle id e s).result = .error (.refused refusal)) ∨
    (∃ r, (settle id e s).result = .ok r ∧ r.runId = id) ∨
    ∃ k failure, (settle id e s).result = .error (.interrupted (k + 1) failure) := by
  cases hrefusal : e.refusal? with
  | some refusal =>
    left
    refine ⟨refusal, rfl, ?_⟩
    rw [settle, hrefusal]
  | none =>
    right
    obtain ⟨bonus, settlement, average, -, -, hrun⟩ := settle_of_defined hrefusal id s hdefined
    rw [hrun]
    unfold conclude
    split
    · exact .inr ⟨_, _, rfl⟩
    · exact .inl ⟨_, rfl, rfl⟩

/-- A line of the log of a run ends in its only newline, and the id of the run is found on it once. -/
private theorem line_of_mem_eventsFor {form : Form} (hform : form.Uncoloured) {id : RunId} {name : Text}
    {result : Except RunError Report} {event : Event} (h : event ∈ eventsFor id name result) (now : Moment) :
    ∃ body, form.line now event = body ++ [Text.newline] ∧ Text.newline ∉ body ∧
      form.find "run_id" body = [form.bare id.toText] := by
  have hfield := List.mem_of_mem_head? (head?_fields_of_mem_eventsFor h)
  obtain ⟨body, hline, hnewline, hfind⟩ := form.find_line hform (plain_of_mem_eventsFor h) now hfield
  rw [form.valueText_of_plain fun b => RunId.isPlain_of_mem_toText] at hfind
  exact ⟨body, hline, hnewline, hfind⟩

end Run

/-- What a run adds to the log: the events for its result from the threshold on, one line each, with the id of the run
on every line. -/
theorem Session.settle_logs {s : Session} {environment threshold : Text} {style : Console.Style}
    (hstyle : style.coloured = false) (hlogger : s.logger = some (.of environment threshold style)) (e : Employee) :
    let form := Form.ofEnvironment environment style
    let id := s.ids.draw.1
    ∃ result out log, (s.settle e).2 = .ran result out log ∧
      ((∀ cause, result ≠ .error (.overflow cause)) →
        (∃ refusal, e.refusal? = some refusal ∧ result = .error (.refused refusal)) ∨
        (∃ r, result = .ok r ∧ r.runId = id) ∨
        ∃ k failure, result = .error (.interrupted (k + 1) failure)) ∧
      ∃ kept, kept = (Run.eventsFor id e.name result).filter (Level.ofName threshold ≤ ·.level) ∧
        log = kept.flatMap (form.line s.now) ∧
        log.count Text.newline = kept.length ∧ (kept ≠ [] → log.getLast? = some Text.newline) ∧
        Text.readLines log = kept.map (fun event => (form.line s.now event).dropLast) ∧
        ∀ line ∈ Text.readLines log, form.find "run_id" line = [form.bare id.toText] := by
  intro form id
  have hform : form.Uncoloured := Form.uncoloured_ofEnvironment hstyle environment
  let result := (Run.settle id e s.sink).result
  let kept := (Run.eventsFor id e.name result).filter (Level.ofName threshold ≤ ·.level)
  have hline : ∀ event ∈ kept, ∃ body, form.line s.now event = body ++ [Text.newline] ∧ Text.newline ∉ body ∧
      form.find "run_id" body = [form.bare id.toText] :=
    fun event hevent => Run.line_of_mem_eventsFor hform (List.mem_of_mem_filter hevent) s.now
  -- the log is made of the lines without their newlines, each followed by one
  let lines := kept.map fun event => (form.line s.now event).dropLast
  have hlines : ∀ l ∈ lines, Text.newline ∉ l ∧ form.find "run_id" l = [form.bare id.toText] := by
    intro l hl
    obtain ⟨event, hevent, rfl⟩ := List.mem_map.1 hl
    obtain ⟨body, hbody, hnewline, hfind⟩ := hline event hevent
    rw [hbody, List.dropLast_concat]
    exact ⟨hnewline, hfind⟩
  have hlog : kept.flatMap (form.line s.now) = Text.ofLines lines := by
    rw [Text.ofLines, List.flatMap_map]
    refine List.flatMap_congr fun event hevent => ?_
    obtain ⟨body, hbody, -⟩ := hline event hevent
    rw [hbody, List.dropLast_concat]
  have hread : Text.readLines (kept.flatMap (form.line s.now)) = lines := by
    rw [hlog]
    exact Text.readLines_ofLines fun l hl => (hlines l hl).1
  refine ⟨result, (Run.settle id e s.sink).out, kept.flatMap (form.line s.now), ?_, Run.result_cases, kept, rfl, rfl,
    ?_, ?_, hread, ?_⟩
  · rw [settle, Session.log, hlogger, Run.events_settle]
    rfl
  · rw [hlog, Text.count_newline_ofLines fun l hl => (hlines l hl).1, List.length_map]
  · intro hne
    rw [hlog]
    exact Text.getLast?_ofLines (by simpa [lines] using hne)
  · rw [hread]
    exact fun l hl => (hlines l hl).2

/-- A name that pretends to be a second line with another id. -/
theorem Session.settle_logs_forged :
    let e := { Employee.standard with name := "Ana\n3:04PM INF \"fin\" run_id=0" }
    let s : Session :=
      { sink := {}, logger := some (.of "development" "debug" {}), ids := { byte := UInt8.ofNat },
        now := ⟨2024, 2, 29, 15, 4, 5⟩ }
    ∃ r out log, (s.settle e).2 = .ran (.ok r) out log ∧ log.count Text.newline = 3 ∧
      ∀ line ∈ Text.readLines log, (Form.console {}).find "run_id" line = [r.runId.toText] := by
  intro e s
  have hlogger : s.logger = some (.of "development" "debug" {}) := rfl
  have hform : Form.ofEnvironment "development" {} = .console {} := if_pos rfl
  have hlevel : Level.ofName "debug" = .debug := by decide +kernel
  have hok : (Run.settle s.ids.draw.1 e s.sink).result.isOk = true := by decide +kernel
  obtain ⟨r, hr⟩ := Run.exists_report hok
  obtain ⟨result, out, log, hanswer, -, kept, hkept, -, hcount, -, -, hfind⟩ := settle_logs rfl hlogger e
  have hresult : result = .ok r := by
    rw [settle] at hanswer
    injection hanswer with hran
    exact hran.symm.trans hr
  rw [hresult, hlevel] at hkept
  rw [hkept] at hcount
  rw [hform, ← (Run.runId_name_of_report hr).1] at hfind
  refine ⟨r, out, log, hresult ▸ hanswer, hcount, hfind⟩

end PayRun
