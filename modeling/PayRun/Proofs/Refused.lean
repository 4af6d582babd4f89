import Mathlib
import PayRun.Proofs.Events
import PayRun.Proofs.Value
import PayRun.Session

/-!
# Refused runs in a session

A run of an employee who is refused leaves no trace: the session goes on as if the step had not been asked for.

* Which runs are refused, and why, is decided by the values of the employee alone, and deleting the refused runs from
  a session changes no other answer (`Session.answers_of_refusals`).
* So the ids of the stream go to the runs of accepted employees one by one: the run after `k` such runs has block `k`
  of the stream, whether or not it prints its lines.
-/

namespace PayRun

/-! ### Blocks of the id stream -/

namespace RunId.Source

/-- The identifier made from block `k` of the sixteen bytes each that are still to be read. -/
def block (s : Source) (k : Nat) : RunId := mark ((List.range 16).map fun i => s.byte (s.position + (16 * k + i)))

private theorem draw_fst (s : Source) : s.draw.1 = s.block 0 := by
  simp only [draw, block, Nat.mul_zero, Nat.zero_add]

/-- After a draw the stream goes on with the next block. -/
private theorem block_draw (s : Source) (k : Nat) : s.draw.2.block k = s.block (k + 1) := by
  have hposition : ∀ i, s.position + 16 + (16 * k + i) = s.position + (16 * (k + 1) + i) := by
    intro i
    omega
  simp only [block, draw, hposition]

end RunId.Source

/-! ### Why an employee is refused -/

/-- The two kinds of faults that an employee is refused for. -/
inductive Refusal.Kind where
  | invalidInput
  | noDaysWorked
  deriving DecidableEq, Repr

def Refusal.kind : Refusal → Kind
  | .negativeSalary _ => .invalidInput
  | .taxRateOutOfRange _ => .invalidInput
  | .noDaysWorked => .noDaysWorked

/-- The refusal of an employee by the values of the amounts and the days. -/
theorem Employee.refusal?_eq (e : Employee) :
    e.refusal? =
      if e.salary.toRat < 0 then some (.negativeSalary e.salary)
      else if e.taxRate.toRat < 0 ∨ 1 < e.taxRate.toRat then some (.taxRateOutOfRange e.taxRate)
      else if e.daysWorked.toInt ≤ 0 then some .noDaysWorked
      else none := by
  have hdays : e.daysWorked ≤ 0 ↔ e.daysWorked.toInt ≤ 0 := Int64.le_iff_toInt_le
  simp only [refusal?, Decimal.isNegative_iff, Decimal.lt_iff_toRat_lt, Decimal.toRat_ofInt, Int.cast_one, hdays]

/-- An employee is refused for a bad salary, a bad tax rate or days that were not worked. -/
theorem Employee.exists_refusal_iff (e : Employee) :
    (∃ refusal, e.refusal? = some refusal) ↔
      e.salary.toRat < 0 ∨ e.taxRate.toRat < 0 ∨ 1 < e.taxRate.toRat ∨ e.daysWorked.toInt ≤ 0 := by
  rw [refusal?_eq]
  by_cases hsalary : e.salary.toRat < 0
  · simp [hsalary]
  · by_cases hrate : e.taxRate.toRat < 0 ∨ 1 < e.taxRate.toRat
    · have hany : e.taxRate.toRat < 0 ∨ 1 < e.taxRate.toRat ∨ e.daysWorked.toInt ≤ 0 := by tauto
      simp [hsalary, hrate, hany]
    · obtain ⟨hlow, hhigh⟩ := not_or.1 hrate
      by_cases hdays : e.daysWorked.toInt ≤ 0
      · simp [hsalary, hlow, hhigh, hdays]
      · simp [hsalary, hlow, hhigh, hdays]

/-- Of several faults the salary is reported before the tax rate, and both before the days. -/
private theorem Employee.eq_of_refusal? {e : Employee} {refusal : Refusal} (h : e.refusal? = some refusal) :
    refusal = (if e.salary.toRat < 0 then .negativeSalary e.salary
      else if e.taxRate.toRat < 0 ∨ 1 < e.taxRate.toRat then .taxRateOutOfRange e.taxRate
      else .noDaysWorked) ∧
    (refusal.kind = .invalidInput ↔ e.salary.toRat < 0 ∨ e.taxRate.toRat < 0 ∨ 1 < e.taxRate.toRat) := by
  rw [refusal?_eq] at h
  by_cases hsalary : e.salary.toRat < 0
  · rw [if_pos hsalary, Option.some.injEq] at h
    rw [if_pos hsalary, ← h]
    simp [Refusal.kind, hsalary]
  · by_cases hrate : e.taxRate.toRat < 0 ∨ 1 < e.taxRate.toRat
    · rw [if_neg hsalary, if_pos hrate, Option.some.injEq] at h
      rw [if_neg hsalary, if_pos hrate, ← h]
      simp [Refusal.kind, hrate]
    · rw [if_neg hsalary, if_neg hrate, Option.ite_none_right_eq_some] at h
      rw [if_neg hsalary, if_neg hrate, ← Option.some.inj h.2]
      simp [Refusal.kind, hsalary, hrate]

/-- A run ends in a refusal exactly if the employee is refused, and names the same reason. -/
private theorem Run.result_eq_refused_iff {id : RunId} {e : Employee} {s : Sink} {refusal : Refusal} :
    (settle id e s).result = .error (.refused refusal) ↔ e.refusal? = some refusal := by
  cases h : e.refusal? with
  | some reason => simp [settle, h]
  | none =>
    -- a run of an accepted employee logs something, and a refused one does not
    have hfirst := head?_events_of_accepted h id s
    simp only [reduceCtorEq, iff_false]
    intro hresult
    rw [events_settle, hresult] at hfirst
    cases hfirst

namespace Session

/-! ### Steps of a session -/

theorem after_take_succ (s : Session) {steps : List Step} {n : Nat} {t : Step} (h : steps[n]? = some t) :
    s.after (steps.take (n + 1)) = ((s.after (steps.take n)).step t).1 := by
  rw [List.take_add_one, h, after, List.foldl_append]
  rfl

/-- The answer at a position is that of the step there, in the session as the steps before it left it. -/
theorem getElem?_answers (s : Session) (steps : List Step) (n : Nat) :
    (s.answers steps)[n]? = steps[n]?.map fun t => ((s.after (steps.take n)).step t).2 := by
  induction steps generalizing s n with
  | nil => rfl
  | cons t rest ih =>
    cases n with
    | zero => rfl
    | succ n => exact ih (s.step t).1 n

theorem log_after (s : Session) (steps : List Step) (events : List Log.Event) :
    (s.after steps).log events = s.log events := by
  induction steps generalizing s with
  | nil => rfl
  | cons t rest ih =>
    refine (ih (s.step t).1).trans ?_
    cases t with
    | enrol e => rfl
    | print line => rfl
    | run index =>
      simp only [step]
      split <;> rfl

/-- The employee of the run at a position of some steps, if there is a run of somebody. -/
def runAt? (s : Session) (steps : List Step) (n : Nat) : Option Employee :=
  match steps[n]? with
  | some (.run index) => (s.after (steps.take n)).staff[index]?
  | _ => none

/-- A run is answered as the employee is settled. -/
theorem answer_of_runAt? {s : Session} {steps : List Step} {n : Nat} {e : Employee} (h : s.runAt? steps n = some e) :
    (s.answers steps)[n]? = some ((s.after (steps.take n)).settle e).2 ∧
      s.after (steps.take (n + 1)) = ((s.after (steps.take n)).settle e).1 := by
  unfold runAt? at h
  split at h
  · rename_i index hstep
    have hsettle : (s.after (steps.take n)).step (.run index) = (s.after (steps.take n)).settle e := by
      simp only [step, h]
    rw [getElem?_answers, after_take_succ s hstep, hstep, ← hsettle]
    exact ⟨rfl, rfl⟩
  · cases h

/-! ### Refused runs -/

/-- Is it the answer of a run whose employee is refused? -/
def Answer.isRefused : Answer → Bool
  | .ran (.error (.refused _)) _ _ => true
  | _ => false

/-- Is it the answer of a run whose employee is accepted? -/
def Answer.isAccepted : Answer → Bool
  | .ran (.error (.refused _)) _ _ => false
  | .ran _ _ _ => true
  | _ => false

private theorem Answer.isAccepted_ran (result : Except RunError Report) (out log : Text) :
    (Answer.ran result out log).isAccepted = !(Answer.ran result out log).isRefused := by
  rcases result with (_ | _ | _ | _) | _ <;> rfl

/-- The steps of a session without its refused runs. -/
def withoutRefused (s : Session) (steps : List Step) : List Step :=
  ((steps.zip (s.answers steps)).filter fun p => !p.2.isRefused).map Prod.fst

private theorem isRefused_settle (s : Session) (e : Employee) : (s.settle e).2.isRefused = e.refusal?.isSome := by
  cases h : e.refusal? with
  | some refusal => rw [settle_of_refused s h]; rfl
  | none =>
    simp only [settle]
    unfold Answer.isRefused
    split
    · rename_i refusal _ _ hran
      have hresult := Run.result_eq_refused_iff.1 (Answer.ran.inj hran).1
      rw [h] at hresult
      cases hresult
    · rfl

private theorem isAccepted_settle (s : Session) (e : Employee) : (s.settle e).2.isAccepted = e.refusal?.isNone := by
  have hrefused := isRefused_settle s e
  rw [settle] at hrefused ⊢
  rw [Answer.isAccepted_ran, hrefused, Option.not_isSome]

/-- A step draws an id exactly if it is a run of an accepted employee, and a refused run changes nothing at all. -/
private theorem step_cases (s : Session) (t : Step) :
    ((s.step t).2.isRefused = true ∧ (s.step t).2.isAccepted = false ∧ (s.step t).1 = s) ∨
    ((s.step t).2.isRefused = false ∧ (s.step t).2.isAccepted = true ∧ (s.step t).1.ids = s.ids.draw.2) ∨
    ((s.step t).2.isRefused = false ∧ (s.step t).2.isAccepted = false ∧ (s.step t).1.ids = s.ids) := by
  cases t with
  | enrol e => exact .inr (.inr ⟨rfl, rfl, rfl⟩)
  | print line => exact .inr (.inr ⟨rfl, rfl, rfl⟩)
  | run index =>
    cases he : s.staff[index]? with
    | none =>
      have hstep : s.step (.run index) = (s, .unknown index) := by simp only [step, he]
      rw [hstep]
      exact .inr (.inr ⟨rfl, rfl, rfl⟩)
    | some e =>
      simp only [step, he, isAccepted_settle, isRefused_settle]
      cases h : e.refusal? with
      | some refusal => exact .inl ⟨rfl, rfl, by rw [settle_of_refused s h]⟩
      | none => exact .inr (.inl ⟨rfl, rfl, by simp [settle, idsAfter, h]⟩)

/-- Deleting the refused runs changes no other answer. -/
private theorem answers_withoutRefused (s : Session) (steps : List Step) :
    s.answers (s.withoutRefused steps) = (s.answers steps).filter (!·.isRefused) ∧
      s.after (s.withoutRefused steps) = s.after steps := by
  induction steps generalizing s with
  | nil => exact ⟨rfl, rfl⟩
  | cons t rest ih =>
    obtain ⟨hanswers, hafter⟩ := ih (s.step t).1
    cases hrefused : (s.step t).2.isRefused with
    | true =>
      have hsame : (s.step t).1 = s := by
        rcases step_cases s t with ⟨-, -, h⟩ | ⟨h, -⟩ | ⟨h, -⟩
        · exact h
        · rw [hrefused] at h; cases h
        · rw [hrefused] at h; cases h
      have hdrop : s.withoutRefused (t :: rest) = (s.step t).1.withoutRefused rest := by
        simp [withoutRefused, answers, hrefused]
      rw [hsame] at hanswers hafter hdrop
      rw [hdrop, answers, List.filter_cons_of_neg (by simp [hrefused]), hanswers, hsame]
      refine ⟨rfl, ?_⟩
      rw [hafter, after, after, List.foldl_cons, hsame]
    | false =>
      have hkeep : s.withoutRefused (t :: rest) = t :: (s.step t).1.withoutRefused rest := by
        simp [withoutRefused, answers, hrefused]
      rw [hkeep, answers, answers, List.filter_cons_of_pos (by simp [hrefused]), ← hanswers]
      exact ⟨rfl, hafter⟩

/-! ### Ids of accepted runs -/

/-- After some steps the stream has moved on by one block for each run of an accepted employee. -/
private theorem block_ids_after (s : Session) (steps : List Step) (k : Nat) :
    (s.after steps).ids.block k = s.ids.block ((s.answers steps).countP Answer.isAccepted + k) := by
  induction steps generalizing s with
  | nil => simp [after, answers]
  | cons t rest ih =>
    have hstep := ih (s.step t).1
    rw [answers, List.countP_cons]
    refine hstep.trans ?_
    rcases step_cases s t with ⟨-, haccepted, hids⟩ | ⟨-, haccepted, hids⟩ | ⟨-, haccepted, hids⟩
    · rw [hids]; simp [haccepted]
    · rw [hids, RunId.Source.block_draw]
      simp only [haccepted, ↓reduceIte]
      congr 1
      omega
    · rw [hids]; simp [haccepted]

private theorem answers_take (s : Session) (steps : List Step) (n : Nat) :
    s.answers (steps.take n) = (s.answers steps).take n := by
  induction steps generalizing s n with
  | nil => simp [answers]
  | cons t rest ih =>
    cases n with
    | zero => rfl
    | succ n => simp only [List.take_succ_cons, answers, ih]

/-- Refused runs leave no trace in a session, and accepted ones take the ids of the stream in turn. -/
theorem answers_of_refusals (s : Session) (steps : List Step) :
    (∀ n e, s.runAt? steps n = some e → ∃ result out log,
      (s.answers steps)[n]? = some (.ran result out log) ∧
      ((∃ refusal, result = .error (.refused refusal)) ↔
        e.salary.toRat < 0 ∨ e.taxRate.toRat < 0 ∨ 1 < e.taxRate.toRat ∨ e.daysWorked.toInt ≤ 0) ∧
      ∀ refusal, result = .error (.refused refusal) →
        refusal = (if e.salary.toRat < 0 then .negativeSalary e.salary
          else if e.taxRate.toRat < 0 ∨ 1 < e.taxRate.toRat then .taxRateOutOfRange e.taxRate
          else .noDaysWorked) ∧
        (refusal.kind = .invalidInput ↔ e.salary.toRat < 0 ∨ e.taxRate.toRat < 0 ∨ 1 < e.taxRate.toRat) ∧
        out = [] ∧ log = [] ∧ s.after (steps.take (n + 1)) = s.after (steps.take n)) ∧
    s.answers (s.withoutRefused steps) = (s.answers steps).filter (!·.isRefused) ∧
    (∀ n e a, s.runAt? steps n = some e → (s.answers steps)[n]? = some a → a.isAccepted = true →
      let id := s.ids.block (((s.answers steps).take n).countP Answer.isAccepted)
      let run := Run.settle id e (s.after (steps.take n)).sink
      a = .ran run.result run.out (s.log run.events) ∧
      (∀ r, run.result = .ok r → r.runId = id) ∧
      run.events ≠ [] ∧ ∀ event ∈ run.events, event.fields.head? = some ⟨"run_id", .text id.toText⟩) := by
  refine ⟨?_, (answers_withoutRefused s steps).1, ?_⟩
  · intro n e he
    obtain ⟨hanswer, hafter⟩ := answer_of_runAt? he
    refine ⟨_, _, _, hanswer, ?_, ?_⟩
    · simp only [Run.result_eq_refused_iff]
      exact e.exists_refusal_iff
    · intro refusal hresult
      have hrefusal := Run.result_eq_refused_iff.1 hresult
      obtain ⟨hreason, hkind⟩ := Employee.eq_of_refusal? hrefusal
      have hsame := settle_of_refused (s.after (steps.take n)) hrefusal
      obtain ⟨-, hout, hlog⟩ := Answer.ran.inj (congrArg Prod.snd hsame)
      exact ⟨hreason, hkind, hout, hlog, hafter.trans (congrArg Prod.fst hsame)⟩
  · intro n e a he ha haccepted id run
    obtain ⟨hanswer, -⟩ := answer_of_runAt? he
    obtain rfl : ((s.after (steps.take n)).settle e).2 = a := Option.some.inj (hanswer.symm.trans ha)
    rw [isAccepted_settle, Option.isNone_iff_eq_none] at haccepted
    have hid : (s.after (steps.take n)).ids.draw.1 = id := by
      rw [RunId.Source.draw_fst, block_ids_after, answers_take]
      rfl
    have hfirst := Run.head?_events_of_accepted haccepted id (s.after (steps.take n)).sink
    refine ⟨?_, ?_, ?_, fun event => Run.head?_fields_of_mem_events⟩
    · rw [settle, hid, log_after]
    · exact fun r hr => (Run.runId_name_of_report hr).1
    · intro hnil
      rw [hnil] at hfirst
      cases hfirst

/-- Two refused runs around one that fails to print: the run after them has the second block. -/
theorem answers_of_refusals_between :
    let refused := { Employee.standard with salary := .cents (-1), daysWorked := 0 }
    let sink : Sink := { refuses := fun n => if n = 3 then some .brokenPipe else none }
    let s : Session :=
      { sink := sink, logger := none, ids := { byte := UInt8.ofNat }, now := ⟨2024, 2, 29, 15, 4, 5⟩ }
    let steps : List Step := [.enrol .standard, .enrol refused, .run 1, .run 0, .run 1, .run 0]
    (∃ out log, (s.answers steps)[4]? = some (.ran (.error (.refused (.negativeSalary refused.salary))) out log)) ∧
      ∃ r out log, (s.answers steps)[5]? = some (.ran (.ok r) out log) ∧ r.runId = s.ids.block 1 := by
  intro refused sink s steps
  obtain ⟨hrefusals, -, hids⟩ := answers_of_refusals s steps
  have hnegative : refused.salary.toRat < 0 := Decimal.isNegative_iff.1 (by decide)
  constructor
  · obtain ⟨result, out, log, hanswer, hiff, hreason⟩ := hrefusals 4 refused rfl
    obtain ⟨refusal, rfl⟩ := hiff.2 (.inl hnegative)
    have hsalary := (hreason refusal rfl).1
    rw [if_pos hnegative] at hsalary
    exact ⟨out, log, hsalary ▸ hanswer⟩
  · obtain ⟨hanswer, hid, -⟩ := hids 5 .standard _ rfl (answer_of_runAt? rfl).1 (by decide +kernel)
    have hcount : ((s.answers steps).take 5).countP Answer.isAccepted = 1 := by decide +kernel
    have hok : (Run.settle (s.ids.block 1) .standard (s.after (steps.take 5)).sink).result.isOk = true := by
      decide +kernel
    rw [hcount] at hanswer hid
    generalize hrun : Run.settle (s.ids.block 1) .standard (s.after (steps.take 5)).sink = run at hanswer hid hok
    obtain ⟨r, hresult⟩ := Run.exists_report hok
    rw [hresult] at hanswer
    exact ⟨r, _, _, (answer_of_runAt? rfl).1.trans (congrArg some hanswer), hid r hresult⟩

end Session

end PayRun
