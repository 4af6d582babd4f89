import Mathlib
import PayRun.Proofs.Outcome
import PayRun.Proofs.Printing
import PayRun.Session

/-!
# Sinks with a capacity

A session on a sink that takes so many bytes is compared with the same session on a sink without a limit.  After
every line, run and step the room that is left is the capacity less all that the unlimited session has printed
(`Sink.Cut`), even when the limited one has long stopped printing: once a write is cut no room is left, and no
later line, run or step can leave a byte behind.

* The limited session prints the beginning of what the unlimited one prints, and every step of it that does not
  fail for want of room has the same answer, but for a run whose daily average overflows
  (`Session.answers_on_capacity`).
* Such a run never tells that the sink was full: it may have printed less before it overflows
  (`Session.answers_on_capacity_overflow`).
-/

namespace PayRun

/-- A sink with `room` bytes left, beside one without a limit.  Neither refuses a write. -/
structure Sink.Cut (room : Nat) (limited unlimited : Sink) : Prop where
  refuses : ∀ n, limited.refuses n = none
  room_eq : limited.room = some room
  refuses_unlimited : ∀ n, unlimited.refuses n = none
  room_unlimited : unlimited.room = none

/-- A printout that began with `room` bytes left, beside the one without a limit. -/
structure Printout.Cut (room : Nat) (limited unlimited : Printout) : Prop where
  out : limited.out = unlimited.out.take room
  sink : Sink.Cut (room - unlimited.out.length) limited.sink unlimited.sink
  unlimited_failure : unlimited.failure = none
  failure : (limited.failure = none ∧ unlimited.out.length ≤ room ∧ limited.lines = unlimited.lines) ∨
    (limited.failure = some .full ∧ room < unlimited.out.length)

private theorem take_append_of_length_le {first : Text} {n : Nat} (h : first.length ≤ n) (second : Text) :
    (first ++ second).take n = first ++ second.take (n - first.length) := by
  rw [List.take_append, List.take_of_length_le h]

namespace Printout

/-! ### Lines -/

private theorem Cut.start {room : Nat} {l u : Sink} (h : Sink.Cut room l u) :
    Cut room { sink := l } { sink := u } where
  out := by simp
  sink := h
  unlimited_failure := rfl
  failure := .inl ⟨rfl, Nat.zero_le room, rfl⟩

/-- One more line keeps the two printouts together. -/
private theorem Cut.print {room : Nat} {p q : Printout} (h : Cut room p q) (line : Text) :
    Cut room (p.print line) (q.print line) := by
  have hu := Sink.printLine_of_unlimited (h.sink.refuses_unlimited _) h.sink.room_unlimited line
  rw [print_of_noFailure h.unlimited_failure, hu]
  rcases h.failure with ⟨hp, hle, hlines⟩ | ⟨hp, hlt⟩
  · rw [print_of_noFailure hp]
    have hall : p.out = q.out := by rw [h.out, List.take_of_length_le hle]
    by_cases hfits : (line ++ [Text.newline]).length ≤ room - q.out.length
    · -- the line fits, and the two printouts stay equal
      rw [Sink.printLine_of_fits (h.sink.refuses _) h.sink.room_eq hfits]
      refine ⟨?_, ⟨h.sink.refuses, ?_, h.sink.refuses_unlimited, h.sink.room_unlimited⟩, rfl, .inl ⟨rfl, ?_, ?_⟩⟩
      · show p.out ++ (line ++ [Text.newline]) = (q.out ++ (line ++ [Text.newline])).take room
        rw [hall, List.take_of_length_le (by rw [List.length_append]; omega)]
      · simp only [List.length_append, Option.some.injEq] at hfits ⊢
        omega
      · simp only [List.length_append] at hfits ⊢
        omega
      · show p.lines + 1 = q.lines + 1
        rw [hlines]
    · -- the line is cut where the room ends
      have hfull : room - q.out.length < (line ++ [Text.newline]).length := Nat.lt_of_not_le hfits
      rw [Sink.printLine_of_full (h.sink.refuses _) h.sink.room_eq hfull]
      refine ⟨?_, ⟨h.sink.refuses, ?_, h.sink.refuses_unlimited, h.sink.room_unlimited⟩, rfl, .inr ⟨rfl, ?_⟩⟩
      · show p.out ++ (line ++ [Text.newline]).take (room - q.out.length) =
          (q.out ++ (line ++ [Text.newline])).take room
        rw [hall, take_append_of_length_le hle]
      · simp only [List.length_append, Option.some.injEq] at hfull ⊢
        omega
      · simp only [List.length_append] at hfull ⊢
        omega
  · -- nothing is printed any more, and the other printout only grows
    rw [print_of_failure hp]
    refine ⟨?_, ⟨h.sink.refuses, ?_, h.sink.refuses_unlimited, h.sink.room_unlimited⟩, rfl, .inr ⟨hp, ?_⟩⟩
    · rw [h.out, List.take_append_of_le_length (Nat.le_of_lt hlt)]
    · rw [h.sink.room_eq]
      simp only [List.length_append, Option.some.injEq]
      omega
    · simp only [List.length_append]
      omega

private theorem Cut.printAll {room : Nat} {p q : Printout} (h : Cut room p q) (lines : List Text) :
    Cut room (p.printAll lines) (q.printAll lines) := by
  induction lines generalizing p q with
  | nil => exact h
  | cons line rest ih => exact ih (h.print line)

/-- Two printouts of which the limited one has not failed are alike. -/
private theorem Cut.eq_of_noFailure {room : Nat} {p q : Printout} (h : Cut room p q) (hp : p.failure = none) :
    p.out = q.out ∧ p.lines = q.lines := by
  rcases h.failure with ⟨-, hle, hlines⟩ | ⟨hfull, -⟩
  · exact ⟨by rw [h.out, List.take_of_length_le hle], hlines⟩
  · rw [hp] at hfull
    cases hfull

end Printout

/-! ### Runs -/

/-- A run that began with `room` bytes left, beside the one without a limit: it fails for want of room, or it
ends in the same way.  If the daily average does not overflow it has then printed the same, too. -/
structure Run.Cut (room : Nat) (limited unlimited : Run) : Prop where
  out : limited.out = unlimited.out.take room
  sink : Sink.Cut (room - unlimited.out.length) limited.sink unlimited.sink
  result : (∃ line, limited.result = .error (.interrupted line .full)) ∨
    (limited.result = unlimited.result ∧ limited.events = unlimited.events ∧
      (limited.out = unlimited.out ∨ limited.result = .error (.overflow .quotient)))

namespace Run

private theorem Cut.conclude {room : Nat} {p q : Printout} (h : Printout.Cut room p q) (id : RunId) (e : Employee)
    (bonus : Decimal) (settlement : Settlement) (average : Decimal) :
    Cut room (conclude id e bonus settlement average p) (conclude id e bonus settlement average q) := by
  refine ⟨by simpa using h.out, by simpa using h.sink, ?_⟩
  cases hp : p.failure with
  | none =>
    obtain ⟨hout, hlines⟩ := h.eq_of_noFailure hp
    right
    simp only [Run.conclude, hp, h.unlimited_failure, hlines, hout, true_or, and_self]
  | some failure =>
    obtain rfl : failure = .full := by
      rcases h.failure with ⟨hnone, -⟩ | ⟨hfull, -⟩
      · rw [hp] at hnone; cases hnone
      · rw [hp] at hfull; exact Option.some.inj hfull
    exact .inl ⟨p.lines + 1, by simp only [Run.conclude, hp]⟩

/-- A run keeps the two sinks together. -/
private theorem Cut.settle {room : Nat} {l u : Sink} (h : Sink.Cut room l u) (id : RunId) (e : Employee) :
    Cut room (settle id e l) (settle id e u) := by
  cases hrefusal : e.refusal? with
  | some refusal =>
    simp only [Run.settle, hrefusal]
    exact ⟨by simp, h, .inr ⟨rfl, rfl, .inl rfl⟩⟩
  | none =>
    rw [settle_of_accepted hrefusal, settle_of_accepted hrefusal]
    rcases ha : amounts e with cause | ⟨bonus, settlement⟩
    · rw [perform_of_amounts_error id l ha, perform_of_amounts_error id u ha]
      exact ⟨by simp, h, .inr ⟨rfl, rfl, .inl rfl⟩⟩
    · rcases hd : averageDaily settlement.netSalary e.daysWorked with cause | average
      · -- the run overflows whatever the sink took of the opening lines
        have hopening := (Printout.Cut.start h).printAll (Report.openingLines settlement.netSalary)
        obtain ⟨-, rfl⟩ := (averageDaily_eq_error_iff hrefusal).1 hd
        rw [perform_of_average_error id l ha hd, perform_of_average_error id u ha hd]
        exact ⟨hopening.out, hopening.sink, .inr ⟨rfl, rfl, .inr rfl⟩⟩
      · rw [perform_of_average id l ha hd, perform_of_average id u ha hd]
        exact Cut.conclude ((Printout.Cut.start h).printAll _) id e bonus settlement average

end Run

/-! ### Sessions -/

namespace Session

/-- A session with `room` bytes left, beside the one without a limit. -/
structure Cut (room : Nat) (limited unlimited : Session) : Prop where
  sink : Sink.Cut room limited.sink unlimited.sink
  others : limited = { unlimited with sink := limited.sink }

/-- Did the step fail for want of room? -/
def Answer.IsFull : Answer → Prop
  | .ran (.error (.interrupted _ failure)) _ _ => failure = .full
  | .printed (some failure) _ => failure = .full
  | _ => False

/-- A run overflowed at the daily average, and had printed what `room` bytes hold of its output. -/
def Answer.OverflowsWithin (room : Nat) (limited unlimited : Answer) : Prop :=
  ∃ out log, unlimited = .ran (.error (.overflow .quotient)) out log ∧
    limited = .ran (.error (.overflow .quotient)) (out.take room) log

/-- A step keeps the two sessions together. -/
private theorem Cut.step {room : Nat} {s t : Session} (h : Cut room s t) (x : Step) :
    (s.step x).2.out = (t.step x).2.out.take room ∧
      Cut (room - (t.step x).2.out.length) (s.step x).1 (t.step x).1 ∧
      ((s.step x).2.IsFull ∨ (s.step x).2 = (t.step x).2 ∨ (s.step x).2.OverflowsWithin room (t.step x).2) := by
  obtain ⟨hsink, hothers⟩ := h
  generalize s.sink = l at hsink hothers
  subst hothers
  cases x with
  | enrol e => exact ⟨List.take_nil.symm, ⟨hsink, rfl⟩, .inr (.inl rfl)⟩
  | print line =>
    have hprint := (Printout.Cut.start hsink).print line
    rw [Printout.print_start, Printout.print_start] at hprint
    refine ⟨hprint.out, ⟨hprint.sink, rfl⟩, ?_⟩
    simp only [Session.step]
    rcases hprint.failure with ⟨hnone, -⟩ | ⟨hfull, -⟩
    · rw [hnone, hprint.unlimited_failure, (hprint.eq_of_noFailure hnone).1]
      exact .inr (.inl rfl)
    · rw [hfull]
      exact .inl rfl
  | run index =>
    cases he : t.staff[index]? with
    | none =>
      simp only [Session.step, he]
      exact ⟨List.take_nil.symm, ⟨hsink, rfl⟩, .inr (.inl trivial)⟩
    | some e =>
      have hrun := Run.Cut.settle hsink t.ids.draw.1 e
      simp only [Session.step, he, Session.settle]
      generalize Run.settle t.ids.draw.1 e l = r at hrun ⊢
      generalize Run.settle t.ids.draw.1 e t.sink = r' at hrun ⊢
      refine ⟨hrun.out, ⟨hrun.sink, rfl⟩, ?_⟩
      rcases hrun.result with ⟨line, hfull⟩ | ⟨hresult, hevents, hout | hoverflow⟩
      · rw [hfull]
        exact .inl rfl
      · rw [hresult, hevents, hout]
        exact .inr (.inl rfl)
      · rw [← hresult, ← hevents, hoverflow, hrun.out]
        exact .inr (.inr ⟨r'.out, _, rfl, rfl⟩)

/-- All steps keep the two sessions together.  Before each step the room that is left is what the outputs so far
leave of it. -/
private theorem Cut.answers {room : Nat} {s t : Session} (h : Cut room s t) (steps : List Step) :
    (s.answers steps).flatMap Answer.out = ((t.answers steps).flatMap Answer.out).take room ∧
      ∀ (i : Nat) (a : Answer), (s.answers steps)[i]? = some a →
        ∃ b, (t.answers steps)[i]? = some b ∧ (a.IsFull ∨ a = b ∨
          a.OverflowsWithin (room - (((t.answers steps).take i).flatMap Answer.out).length) b) := by
  induction steps generalizing room s t with
  | nil => exact ⟨List.take_nil.symm, by simp [Session.answers]⟩
  | cons x rest ih =>
    obtain ⟨hout, hnext, hanswer⟩ := h.step x
    obtain ⟨houts, hanswers⟩ := ih hnext
    simp only [Session.answers, List.flatMap_cons]
    refine ⟨by rw [hout, houts, List.take_append], ?_⟩
    rintro (_ | i) a ha
    · obtain rfl : (s.step x).2 = a := Option.some.inj ha
      exact ⟨(t.step x).2, rfl, hanswer⟩
    · obtain ⟨b, hb, hagree⟩ := hanswers i a ha
      refine ⟨b, hb, ?_⟩
      rw [List.take_succ_cons, List.flatMap_cons, List.length_append, ← Nat.sub_sub]
      exact hagree

/-- On a sink with a capacity a session prints the beginning of what it prints on one without a limit, and every
step that does not fail for want of room has the same answer.  The one exception is a run whose daily average
overflows: it ends in the same way with the same log, and has printed of its output what there was room for. -/
theorem answers_on_capacity (s : Session) (writes capacity : Nat) (steps : List Step) :
    let limited := { s with sink := { writes := writes, room := some capacity } }
    let unlimited := { s with sink := { writes := writes } }
    let printed := (unlimited.answers steps).flatMap Answer.out
    (limited.answers steps).flatMap Answer.out = printed.take (min capacity printed.length) ∧
      ∀ (i : Nat) (a : Answer), (limited.answers steps)[i]? = some a → ¬ a.IsFull →
        ∃ b, (unlimited.answers steps)[i]? = some b ∧
          (a = b ∨ ∃ out log, b = .ran (.error (.overflow .quotient)) out log ∧
            a = .ran (.error (.overflow .quotient))
              (out.take (capacity - (((unlimited.answers steps).take i).flatMap Answer.out).length)) log) := by
  intro limited unlimited printed
  have hcut : Cut capacity limited unlimited := ⟨⟨fun _ => rfl, rfl, fun _ => rfl, rfl⟩, rfl⟩
  obtain ⟨hout, hanswers⟩ := hcut.answers steps
  refine ⟨?_, ?_⟩
  · rw [hout, ← List.take_eq_take_min]
  · intro i a ha hfull
    obtain ⟨b, hb, hagree⟩ := hanswers i a ha
    exact ⟨b, hb, hagree.resolve_left hfull⟩

/-- An employee who earns nothing, in units so large that the daily average overflows. -/
def largeZero : Employee := { Employee.standard with salary := { coefficient := 0, exponent := 2147483640 } }

/-- A session that settles the pay of this employee and then prints a line. -/
def overflowing : List Step := [.enrol largeZero, .run 0, .print "x"]

/-- The exception is there: with ten bytes of room no step up to the run fails for want of room, and yet the run
has printed less than it does without a limit. -/
theorem answers_on_capacity_overflow :
    let s : Session := { sink := {}, logger := none, ids := { byte := UInt8.ofNat }, now := ⟨2024, 2, 29, 15, 4, 5⟩ }
    let limited := { s with sink := { room := some 10 } }
    let unlimited := { s with sink := {} }
    ¬ ∀ i, (∀ (j : Nat) (a : Answer), j ≤ i → (limited.answers overflowing)[j]? = some a → ¬ a.IsFull) →
      (limited.answers overflowing)[i]? = (unlimited.answers overflowing)[i]? := by
  intro s limited unlimited h
  obtain ⟨out, log, hrun⟩ : ∃ out log,
      (limited.answers overflowing)[1]? = some (.ran (.error (.overflow .quotient)) out log) := ⟨_, _, rfl⟩
  have hsame : (limited.answers overflowing)[1]? = (unlimited.answers overflowing)[1]? := by
    refine h 1 fun j a hj ha => ?_
    interval_cases j
    · cases ha
      exact id
    · rw [hrun] at ha
      cases ha
      exact id
  -- of the two only the unlimited run has an eleventh byte
  have hlimited : (limited.answers overflowing)[1]?.map (·.out[10]?.isSome) = some false := by decide
  have hunlimited : (unlimited.answers overflowing)[1]?.map (·.out[10]?.isSome) = some true := by decide
  rw [hsame, hunlimited] at hlimited
  cases hlimited

end Session

end PayRun
