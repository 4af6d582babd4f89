import Mathlib
import PayRun.Log.Desk

/-!
# Several loggers do not disturb each other

What a desk of loggers does is fixed by what its loggers were opened with, in order (`Log.Desk.openings`).

* The desk after any steps is the one that has these loggers, so a new logger leaves the earlier ones as they were
  (`Log.Desk.after_having`), and the process shares the newest one (`Log.Desk.shared_after`).
* An event is written at most once, by the logger that it names or else by the newest one, and exactly if its level is
  at least the threshold of that logger (`Log.Desk.answers_by_opening`).
* Without the newer loggers an earlier one writes the same events in the same way (`Log.Desk.answersTo_withoutNewer`).
-/

namespace PayRun.Log

/-- What a logger is opened with. -/
structure Opening where
  environment : Text
  threshold : Text
  onStandardError : Bool

namespace Opening

/-- Where the logger opened with this number writes. -/
def destination (o : Opening) (i : Nat) : Destination := if o.onStandardError then .standardError else .buffer i

/-- How lines look on a console: colours are for standard error only. -/
def style (o : Opening) (colours : Bool) (folder : Text) : Console.Style where
  coloured := o.onStandardError && colours
  folder := folder

/-- For a reader in development, and in JSON anywhere else. -/
def form (o : Opening) (colours : Bool) (folder : Text) : Form :=
  if o.environment = ("development" : Text) then .console (o.style colours folder) else .json

private theorem form_eq_ofEnvironment (o : Opening) (colours : Bool) (folder : Text) :
    o.form colours folder = .ofEnvironment o.environment (o.style colours folder) := rfl

end Opening

namespace Desk

/-! ### Steps and answers -/

/-- The text that a step has added to a destination. -/
def Answer.addedTo : Answer → Destination → Text
  | .wrote destination added, other => if other = destination then added else []
  | .opened _ _, _ => []
  | .silent, _ => []
  | .unknown _, _ => []

def Step.opening? : Step → Option Opening
  | .create environment threshold onStandardError => some ⟨environment, threshold, onStandardError⟩
  | .log _ _ => none

/-- What the loggers of some steps are opened with, in order. -/
def openings (steps : List Step) : List Opening := steps.filterMap Step.opening?

/-- The opening that an event goes to, with its number: the one that it names, or else the last one. -/
def addressee? (os : List Opening) : Option Nat → Option (Nat × Opening)
  | some i => os[i]?.map fun o => (i, o)
  | none => os.getLast?.map fun o => (os.length - 1, o)

def after (now : Moment) (d : Desk) (steps : List Step) : Desk := steps.foldl (fun d t => (d.step now t).1) d

/-- The answer at a position is that of the step there, at the desk as the steps before it left it. -/
theorem getElem?_answers (now : Moment) (d : Desk) (steps : List Step) (n : Nat) :
    (d.answers now steps)[n]? = steps[n]?.map fun t => ((d.after now (steps.take n)).step now t).2 := by
  induction steps generalizing d n with
  | nil => rfl
  | cons t rest ih =>
    cases n with
    | zero => rfl
    | succ n => exact ih (d.step now t).1 n

section

variable (colours : Bool) (folder : Text) (now : Moment)

/-! ### The desk with given loggers -/

/-- The logger for an opening, with its destination. -/
def entry (i : Nat) (o : Opening) : Logger × Destination :=
  (⟨o.form colours folder, .ofName o.threshold⟩, o.destination i)

/-- The desk where loggers were opened in this order. -/
def having (os : List Opening) : Desk where
  opened := os.mapIdx (entry colours folder)
  shared := os.getLast?.map (entry colours folder (os.length - 1))
  colours := colours
  folder := folder

private theorem find?_having (os : List Opening) (index : Option Nat) :
    (having colours folder os).find? index = (addressee? os index).map fun p => entry colours folder p.1 p.2 := by
  cases index with
  | some i => simp [find?, having, addressee?, Function.comp_def]
  | none => simp [find?, having, addressee?, Function.comp_def]

/-- A step adds the logger that it opens, and leaves the others as they are. -/
private theorem step_having (os : List Opening) (t : Step) :
    ((having colours folder os).step now t).1 = having colours folder (os ++ t.opening?.toList) := by
  cases t with
  | create environment threshold onStandardError =>
    simp [step, having, Step.opening?, List.mapIdx_append, entry, Logger.of, Opening.form_eq_ofEnvironment,
      Opening.style, Opening.destination]
  | log index event =>
    simp only [step, Step.opening?, Option.toList_none, List.append_nil]
    split <;> rfl

theorem after_having (os : List Opening) (steps : List Step) :
    (having colours folder os).after now steps = having colours folder (os ++ openings steps) := by
  induction steps generalizing os with
  | nil => simp [after, openings]
  | cons t rest ih =>
    have hrest := ih (os ++ t.opening?.toList)
    rw [← step_having colours folder now os t] at hrest
    refine hrest.trans ?_
    rw [openings, openings, List.filterMap_cons, List.append_assoc]
    cases t.opening? <;> rfl

private theorem getElem?_opened_having {os : List Opening} {i : Nat} {o : Opening} (h : os[i]? = some o) :
    (having colours folder os).opened[i]? = some (entry colours folder i o) := by
  simp [having, h]

/-- The process shares the newest logger. -/
private theorem shared_having (os : List Opening) :
    (having colours folder os).shared = (having colours folder os).opened.getLast? := by
  simp [having, List.getLast?_eq_getElem?]

/-- Starting without loggers, the process shares the newest one after any steps. -/
theorem shared_after (steps : List Step) :
    ((having colours folder []).after now steps).shared =
      ((having colours folder []).after now steps).opened.getLast? := by
  rw [after_having, shared_having]

/-! ### Answers -/

private theorem answer_create (os : List Opening) (environment threshold : Text) (onStandardError : Bool) :
    ((having colours folder os).step now (.create environment threshold onStandardError)).2 =
      .opened os.length (.ofName threshold) := by
  simp [step, having, Logger.of]

/-- The answer to an event: the logger that it goes to writes it or not, and no other logger does. -/
private theorem answer_log (os : List Opening) (index : Option Nat) (event : Event) :
    ((having colours folder os).step now (.log index event)).2 =
      match addressee? os index, index with
      | some (i, o), _ =>
        if Level.ofName o.threshold ≤ event.level then
          .wrote (o.destination i) ((o.form colours folder).line now event)
        else .silent
      | none, some i => .unknown i
      | none, none => .silent := by
  simp only [step, find?_having]
  cases h : addressee? os index with
  | some p =>
    obtain ⟨i, o⟩ := p
    by_cases hlevel : Level.ofName o.threshold ≤ event.level
    · simp [entry, Logger.writes, Logger.log, hlevel]
    · simp [entry, Logger.writes, hlevel]
  | none => cases index <;> rfl

private theorem line_ne_nil (form : Form) (event : Event) : form.line now event ≠ [] := by
  cases form with
  | json => simp [Form.line, Json.line]
  | console style => simp [Form.line, Console.line]

/-- What an event adds to a destination. -/
private theorem addedTo_answer_log (os : List Opening) (index : Option Nat) (event : Event)
    (destination : Destination) :
    ((having colours folder os).step now (.log index event)).2.addedTo destination =
      match addressee? os index with
      | some (i, o) =>
        if Level.ofName o.threshold ≤ event.level ∧ destination = o.destination i then
          (o.form colours folder).line now event
        else []
      | none => [] := by
  rw [answer_log]
  cases h : addressee? os index with
  | some p =>
    obtain ⟨i, o⟩ := p
    by_cases hlevel : Level.ofName o.threshold ≤ event.level
    · simp [hlevel, Answer.addedTo]
    · simp [hlevel, Answer.addedTo]
  | none => cases index <;> rfl

/-- An event is written at most once, to the destination of its addressee, and only from the threshold on. -/
private theorem addedTo_answer_log_ne_nil_iff (os : List Opening) (index : Option Nat) (event : Event)
    (destination : Destination) :
    ((having colours folder os).step now (.log index event)).2.addedTo destination ≠ [] ↔
      ∃ i o, addressee? os index = some (i, o) ∧ destination = o.destination i ∧
        Level.ofName o.threshold ≤ event.level := by
  rw [addedTo_answer_log]
  cases addressee? os index with
  | none => simp
  | some p =>
    obtain ⟨i, o⟩ := p
    simp [line_ne_nil, and_comm]

/-! ### Earlier loggers -/

/-- The loggers opened so far are the first ones of those opened later. -/
private theorem getElem?_openings_take {steps : List Step} {m n i : Nat} {o : Opening} (hle : m ≤ n)
    (h : (openings (steps.take m))[i]? = some o) : (openings (steps.take n))[i]? = some o := by
  obtain ⟨later, hlater⟩ : steps.take m <+: steps.take n := List.take_prefix_take_left hle
  have hbound : i < (openings (steps.take m)).length := (List.getElem?_eq_some_iff.1 h).1
  rw [← hlater, openings, List.filterMap_append]
  exact (List.getElem?_append_left hbound).trans h

/-- The steps without the loggers that are opened after the first `k`. -/
def withoutNewer : Nat → List Step → List Step
  | _, [] => []
  | 0, .create _ _ _ :: rest => withoutNewer 0 rest
  | k + 1, .create environment threshold onStandardError :: rest =>
    .create environment threshold onStandardError :: withoutNewer k rest
  | k, .log index event :: rest => .log index event :: withoutNewer k rest

/-- Is it an event for the logger with this number? -/
def Step.names (i : Nat) : Step → Bool
  | .log (some j) _ => j = i
  | .log none _ => false
  | .create _ _ _ => false

/-- The answers to the events that name a logger. -/
def answersTo (now : Moment) (d : Desk) (i : Nat) (steps : List Step) : List Answer :=
  ((steps.zip (d.answers now steps)).filter (·.1.names i)).map Prod.snd

private theorem answersTo_cons (d : Desk) (i : Nat) (t : Step) (rest : List Step) :
    d.answersTo now i (t :: rest) =
      (if t.names i then [(d.step now t).2] else []) ++ (d.step now t).1.answersTo now i rest := by
  simp only [answersTo, answers, List.zip_cons_cons, List.filter_cons]
  split <;> rfl

/-- Of the first `k` loggers each answers alike, whether there are newer ones or not. -/
private theorem answersTo_having {k i : Nat} (hi : i < k) (os : List Opening) (steps : List Step) :
    (having colours folder (os.take k)).answersTo now i (withoutNewer (k - os.length) steps) =
      (having colours folder os).answersTo now i steps := by
  induction steps generalizing os with
  | nil => simp [withoutNewer, answersTo]
  | cons t rest ih =>
    cases t with
    | create environment threshold onStandardError =>
      let o : Opening := ⟨environment, threshold, onStandardError⟩
      have hrest := ih (os ++ [o])
      rw [answersTo_cons _ (having colours folder os), step_having]
      rcases Nat.lt_or_ge os.length k with hlt | hge
      · -- one of the first `k`, opened at both desks
        obtain ⟨m, hm⟩ : ∃ m, k - os.length = m + 1 := ⟨k - os.length - 1, by omega⟩
        have hm' : k - (os ++ [o]).length = m := by
          rw [List.length_append, List.length_singleton]
          omega
        have htake : (os ++ [o]).take k = os.take k ++ [o] := by
          rw [List.take_of_length_le (by simp; omega), List.take_of_length_le (by omega)]
        rw [hm', htake] at hrest
        rw [hm, withoutNewer, answersTo_cons, step_having]
        simp only [Step.names, Step.opening?, Option.toList_some]
        exact congrArg _ hrest
      · -- a newer one, which one of the two desks never sees
        have hnone : k - os.length = 0 := by omega
        have hnone' : k - (os ++ [o]).length = 0 := by
          rw [List.length_append]
          omega
        have htake : (os ++ [o]).take k = os.take k := List.take_append_of_le_length hge
        rw [hnone', htake] at hrest
        rw [hnone, withoutNewer, hrest]
        rfl
    | log index event =>
      have hrest := ih os
      have hkept : withoutNewer (k - os.length) (.log index event :: rest) =
          .log index event :: withoutNewer (k - os.length) rest := by
        rw [withoutNewer]
      rw [hkept, answersTo_cons, answersTo_cons, step_having, step_having]
      simp only [Step.opening?, Option.toList_none, List.append_nil, hrest]
      cases index with
      | none => rfl
      | some j =>
        by_cases hj : j = i
        · have hsame : addressee? (os.take k) (some j) = addressee? os (some j) := by
            simp [addressee?, hj, hi]
          rw [answer_log, answer_log, hsame]
        · simp [Step.names, hj]

/-- The events for an earlier logger are written as if the newer loggers did not exist. -/
theorem answersTo_withoutNewer {k i : Nat} (hi : i < k) (steps : List Step) :
    (having colours folder []).answersTo now i (withoutNewer k steps) =
      (having colours folder []).answersTo now i steps := by
  have h := answersTo_having colours folder now hi [] steps
  simpa using h

end

/-- Starting without loggers.  The first two parts say what a step writes: opening a logger writes nothing, and an
event is written by its addressee alone.  The third says that the process shares the newest logger, and the last two
that newer loggers leave the earlier ones alone. -/
theorem answers_by_opening (colours : Bool) (folder : Text) (now : Moment) (steps : List Step) :
    let desk : Desk := { colours := colours, folder := folder }
    (∀ (n : Nat) (environment threshold : Text) (onStandardError : Bool),
      steps[n]? = some (.create environment threshold onStandardError) →
      ∃ a, (desk.answers now steps)[n]? = some a ∧
        a = .opened (openings (steps.take n)).length (.ofName threshold) ∧
        ∀ destination, a.addedTo destination = []) ∧
    (∀ (n : Nat) (index : Option Nat) (event : Event), steps[n]? = some (.log index event) →
      ∃ a, (desk.answers now steps)[n]? = some a ∧
        (∀ destination, a.addedTo destination ≠ [] ↔ ∃ i o, addressee? (openings (steps.take n)) index = some (i, o) ∧
          destination = o.destination i ∧ Level.ofName o.threshold ≤ event.level) ∧
        (∀ i o, addressee? (openings (steps.take n)) index = some (i, o) → Level.ofName o.threshold ≤ event.level →
          a.addedTo (o.destination i) = (o.form colours folder).line now event) ∧
        (index = none → openings (steps.take n) = [] → a = .silent)) ∧
    (∀ n : Nat, (desk.after now (steps.take n)).shared = (desk.after now (steps.take n)).opened.getLast?) ∧
    (∀ (m n i : Nat) (o : Opening), m ≤ n → (openings (steps.take m))[i]? = some o →
      (desk.after now (steps.take n)).opened[i]? =
        some (⟨o.form colours folder, .ofName o.threshold⟩, o.destination i)) ∧
    (∀ k i : Nat, i < k → desk.answersTo now i (withoutNewer k steps) = desk.answersTo now i steps) := by
  intro desk
  have hafter : ∀ n, desk.after now (steps.take n) = having colours folder (openings (steps.take n)) := by
    intro n
    exact after_having colours folder now [] (steps.take n)
  have hanswer : ∀ n t, steps[n]? = some t → (desk.answers now steps)[n]? =
      some ((having colours folder (openings (steps.take n))).step now t).2 := by
    intro n t ht
    rw [getElem?_answers, ht, hafter]
    rfl
  refine ⟨?_, ?_, fun n => shared_after colours folder now (steps.take n), ?_, ?_⟩
  · intro n environment threshold onStandardError hstep
    refine ⟨_, hanswer n _ hstep, ?_⟩
    rw [answer_create]
    exact ⟨rfl, fun _ => rfl⟩
  · intro n index event hstep
    refine ⟨_, hanswer n _ hstep, ?_, ?_, ?_⟩
    · exact addedTo_answer_log_ne_nil_iff colours folder now _ index event
    · intro i o haddressee hlevel
      rw [addedTo_answer_log, haddressee]
      simp [hlevel]
    · intro hindex hnone
      rw [answer_log, hindex, hnone]
      rfl
  · intro m n i o hle ho
    rw [hafter]
    exact getElem?_opened_having colours folder (getElem?_openings_take hle ho)
  · intro k i hi
    exact answersTo_withoutNewer colours folder now hi steps

/-- A quiet logger on standard error is opened after a talkative one with a buffer: from then on the events that name
no logger go to standard error, and the first logger keeps its buffer, its form and its threshold. -/
theorem answers_by_opening_quieter :
    let notice : Event := ⟨.debug, "tick", []⟩
    let alarm : Event := ⟨.error, "fire", []⟩
    let now : Moment := ⟨2024, 2, 29, 15, 4, 5⟩
    let desk : Desk := { colours := true }
    let steps : List Step := [.log none alarm, .create "development" "debug" false, .create "Development" "warn" true,
      .log (some 0) notice, .log none notice, .log none alarm]
    (desk.answers now steps)[0]? = some .silent ∧
      (∃ a, (desk.answers now steps)[3]? = some a ∧
        a.addedTo (.buffer 0) = Console.line { coloured := false } now notice ∧ a.addedTo .standardError = []) ∧
      (∃ a, (desk.answers now steps)[4]? = some a ∧ ∀ destination, a.addedTo destination = []) ∧
      (∃ a, (desk.answers now steps)[5]? = some a ∧ a.addedTo .standardError = Json.line now alarm) ∧
      desk.answersTo now 0 (withoutNewer 1 steps) = desk.answersTo now 0 steps := by
  intro notice alarm now desk steps
  obtain ⟨-, hlog, -, -, hearlier⟩ := answers_by_opening true Path.root now steps
  refine ⟨?_, ?_, ?_, ?_, hearlier 1 0 (by decide)⟩
  · obtain ⟨a, ha, -, -, hsilent⟩ := hlog 0 none alarm rfl
    rw [ha, hsilent rfl rfl]
  · obtain ⟨a, ha, hiff, hline, -⟩ := hlog 3 (some 0) notice rfl
    refine ⟨a, ha, hline 0 ⟨"development", "debug", false⟩ rfl (by decide), ?_⟩
    by_contra hne
    obtain ⟨i, o, haddressee, hdestination, -⟩ := (hiff .standardError).1 hne
    cases haddressee
    cases hdestination
  · obtain ⟨a, ha, hiff, -, -⟩ := hlog 4 none notice rfl
    refine ⟨a, ha, ?_⟩
    intro destination
    by_contra hne
    obtain ⟨i, o, haddressee, -, hlevel⟩ := (hiff destination).1 hne
    cases haddressee
    exact absurd hlevel (by decide)
  · obtain ⟨a, ha, -, hline, -⟩ := hlog 5 none alarm rfl
    exact ⟨a, ha, hline 1 ⟨"Development", "warn", true⟩ rfl (by decide)⟩

end Desk

end PayRun.Log
