import Mathlib
import PayRun.Proofs.Refused

/-!
# Runs can be repeated

A run counts the age up and the days worked down, but only in its report.  The staff of a session changes by
enrolment alone (`Session.staff_after`), so every run finds the employee as enrolled, however often and with
whatever success the pay has been settled before.  Since a report depends on the employee and on nothing else, all
reports of one employee agree but for their ids, within a session and across sessions
(`Session.reports_repeatable`).
-/

namespace PayRun

/-! ### Reports of one employee -/

namespace Run

/-- The id, the sink and its state decide whether there is a report, but not what it says. -/
private theorem report_unique {id id' : RunId} {e : Employee} {s s' : Sink} {r r' : Report}
    (h : (settle id e s).result = .ok r) (h' : (settle id' e s').result = .ok r') :
    (settle id' e s').out = (settle id e s).out ∧ r' = { r with runId := r'.runId } := by
  obtain ⟨hout, hcount⟩ := out_of_report h
  obtain ⟨hout', hcount'⟩ := out_of_report h'
  obtain ⟨-, bonus, settlement, average, ha, hd, hr⟩ := settle_eq_ok h
  obtain ⟨-, bonus', settlement', average', ha', hd', hr'⟩ := settle_eq_ok h'
  obtain ⟨rfl, rfl⟩ := Prod.mk.inj (Except.ok.inj (ha.symm.trans ha'))
  obtain rfl := Except.ok.inj (hd.symm.trans hd')
  have heq : r' = { r with runId := r'.runId } := by
    rw [hcount] at hr
    rw [hcount'] at hr'
    rw [hr, hr']
    rfl
  refine ⟨?_, heq⟩
  rw [hout, hout', heq]

private theorem counts_of_report {id : RunId} {e : Employee} {s : Sink} {r : Report}
    (h : (settle id e s).result = .ok r) :
    r.ageAfter = e.age + 1 ∧ r.daysWorkedAfter = e.daysWorked - 1 := by
  obtain ⟨-, bonus, settlement, average, -, -, hr⟩ := settle_eq_ok h
  rw [hr]
  exact ⟨rfl, rfl⟩

end Run

/-! ### The staff -/

namespace Session

/-- The employee that a step enrols. -/
def Step.enrolled? : Step → Option Employee
  | .enrol e => some e
  | .run _ => none
  | .print _ => none

/-- The employees at the start and those enrolled later, in order. -/
def roster (s : Session) (steps : List Step) : List Employee := s.staff ++ steps.filterMap Step.enrolled?

private theorem staff_step (s : Session) (t : Step) : (s.step t).1.staff = s.staff ++ t.enrolled?.toList := by
  cases t with
  | enrol e => rfl
  | print line => simp [step, Step.enrolled?]
  | run index =>
    simp only [step, Step.enrolled?]
    split
    · simp [settle]
    · simp

theorem staff_after (s : Session) (steps : List Step) : (s.after steps).staff = s.roster steps := by
  induction steps generalizing s with
  | nil => simp [after, roster]
  | cons t rest ih =>
    have hrest := ih (s.step t).1
    show ((s.step t).1.after rest).staff = s.staff ++ (t :: rest).filterMap Step.enrolled?
    rw [hrest, roster, staff_step, List.filterMap_cons]
    cases t.enrolled? <;> simp

private theorem roster_take_isPrefix (s : Session) (steps : List Step) {m n : Nat} (h : m ≤ n) :
    s.roster (steps.take m) <+: s.roster (steps.take n) := by
  have htake : steps.take m <+: steps.take n := List.take_prefix_take_left h
  obtain ⟨later, hlater⟩ := htake
  rw [← hlater, roster, roster, List.filterMap_append, ← List.append_assoc]
  exact List.prefix_append _ _

private theorem getElem?_of_isPrefix {α : Type} {l l' : List α} (h : l <+: l') {i : Nat} {a : α}
    (ha : l[i]? = some a) :
    l'[i]? = some a := by
  obtain ⟨rest, rfl⟩ := h
  rw [List.getElem?_append_left (List.getElem?_eq_some_iff.1 ha).1]
  exact ha

/-- Nobody who was enrolled changes or leaves. -/
private theorem staff_of_enrolled (s : Session) {steps : List Step} {m : Nat} {e : Employee}
    (h : steps[m]? = some (.enrol e)) :
    ∃ i, (s.answers steps)[m]? = some (.enrolled i) ∧
      ∀ n, m < n → (s.after (steps.take n)).staff[i]? = some e := by
  refine ⟨(s.after (steps.take m)).staff.length, ?_, ?_⟩
  · rw [getElem?_answers, h]
    rfl
  · intro n hn
    -- at once after the enrolment, and from then on
    have hat : (s.after (steps.take (m + 1))).staff[(s.after (steps.take m)).staff.length]? = some e := by
      rw [after_take_succ s h, staff_step]
      simp [Step.enrolled?]
    rw [staff_after] at hat ⊢
    exact getElem?_of_isPrefix (s.roster_take_isPrefix steps hn) hat

/-! ### Reports of a session -/

/-- Some run of the session reports on the employee, and prints this output. -/
def Reports (s : Session) (steps : List Step) (e : Employee) (r : Report) (out : Text) : Prop :=
  ∃ (n i : Nat) (log : Text), (s.roster steps)[i]? = some e ∧ steps[n]? = some (.run i) ∧
    (s.answers steps)[n]? = some (.ran (.ok r) out log)

private theorem Reports.exists_run {s : Session} {steps : List Step} {e : Employee} {r : Report} {out : Text}
    (h : s.Reports steps e r out) :
    ∃ id sink, (Run.settle id e sink).result = .ok r ∧ (Run.settle id e sink).out = out := by
  obtain ⟨n, i, log, he, hstep, hanswer⟩ := h
  let before := s.after (steps.take n)
  have hran : (before.step (.run i)).2 = .ran (.ok r) out log := by
    rw [getElem?_answers, hstep] at hanswer
    exact Option.some.inj hanswer
  cases hi : before.staff[i]? with
  | none =>
    simp only [step, hi] at hran
    cases hran
  | some found =>
    -- whoever stands there at the run stands there at the end
    have hlast : (s.roster steps)[i]? = some found := by
      rw [staff_after] at hi
      have hprefix := s.roster_take_isPrefix steps (Nat.le_max_left n steps.length)
      rw [List.take_of_length_le (Nat.le_max_right n steps.length)] at hprefix
      exact getElem?_of_isPrefix hprefix hi
    obtain rfl : found = e := Option.some.inj (hlast.symm.trans he)
    simp only [step, hi, settle, Answer.ran.injEq] at hran
    exact ⟨_, _, hran.1, hran.2.1⟩

/-- Runs leave the staff as it was enrolled, so that all reports of one employee are alike. -/
theorem reports_repeatable (s : Session) (steps : List Step) :
    (∀ n, (s.after (steps.take n)).staff = s.roster (steps.take n)) ∧
    (∀ m e, steps[m]? = some (.enrol e) → ∃ i, (s.answers steps)[m]? = some (.enrolled i) ∧
      ∀ n, m < n → (s.after (steps.take n)).staff[i]? = some e) ∧
    (∀ e r out, s.Reports steps e r out →
      r.ageAfter = e.age + 1 ∧ r.daysWorkedAfter = e.daysWorked - 1 ∧
      ∀ (s' : Session) (steps' : List Step) (r' : Report) (out' : Text), s'.Reports steps' e r' out' →
        out' = out ∧ r' = { r with runId := r'.runId }) := by
  refine ⟨fun n => staff_after s _, fun m e => staff_of_enrolled s, ?_⟩
  intro e r out h
  obtain ⟨id, sink, hresult, hout⟩ := h.exists_run
  obtain ⟨hage, hdays⟩ := Run.counts_of_report hresult
  refine ⟨hage, hdays, ?_⟩
  intro s' steps' r' out' h'
  obtain ⟨id', sink', hresult', hout'⟩ := h'.exists_run
  have hsame := Run.report_unique hresult hresult'
  rw [hout, hout'] at hsame
  exact hsame

/-- The standard employee after an interrupted run, and in another session with a logger and another seed. -/
theorem reports_repeatable_interrupted :
    let now : Moment := ⟨2024, 2, 29, 15, 4, 5⟩
    let sink : Sink := { refuses := fun n => if n = 3 then some .brokenPipe else none }
    let s : Session := { sink := sink, logger := none, ids := { byte := UInt8.ofNat }, now := now }
    let s' : Session :=
      { sink := {}, logger := some (.of "production" "debug" {}), ids := { byte := fun i => 7 + UInt8.ofNat i },
        now := now }
    let steps : List Step := [.enrol .standard, .run 0, .run 0]
    let steps' : List Step := [.enrol { Employee.standard with age := 17 }, .enrol .standard, .run 0, .run 1]
    ∃ r r' out out', s.Reports steps .standard r out ∧ s'.Reports steps' .standard r' out' ∧
      out' = out ∧ r' = { r with runId := r'.runId } ∧ r'.runId ≠ r.runId ∧ r.ageAfter = 26 := by
  intro now sink s s' steps steps'
  let run := Run.settle (s.after (steps.take 2)).ids.draw.1 .standard (s.after (steps.take 2)).sink
  let run' := Run.settle (s'.after (steps'.take 3)).ids.draw.1 .standard (s'.after (steps'.take 3)).sink
  obtain ⟨r, hr⟩ := Run.exists_report (show run.result.isOk = true by decide +kernel)
  obtain ⟨r', hr'⟩ := Run.exists_report (show run'.result.isOk = true by decide +kernel)
  have hreports : s.Reports steps .standard r run.out := by
    refine ⟨2, 0, [], rfl, rfl, ?_⟩
    rw [(answer_of_runAt? (e := .standard) rfl).1, ← hr]
    rfl
  have hreports' : s'.Reports steps' .standard r' run'.out := by
    refine ⟨3, 1, (s'.after (steps'.take 3)).log run'.events, rfl, rfl, ?_⟩
    rw [(answer_of_runAt? (e := .standard) rfl).1, ← hr']
    rfl
  have hids : (s'.after (steps'.take 3)).ids.draw.1 ≠ (s.after (steps.take 2)).ids.draw.1 := by decide +kernel
  rw [← (Run.runId_name_of_report hr).1, ← (Run.runId_name_of_report hr').1] at hids
  obtain ⟨hage, -, hsame⟩ := (reports_repeatable s steps).2.2 .standard r run.out hreports
  obtain ⟨hout, hreport⟩ := hsame s' steps' r' run'.out hreports'
  exact ⟨r, r', _, _, hreports, hreports', hout, hreport, hids, hage⟩

end Session

end PayRun
