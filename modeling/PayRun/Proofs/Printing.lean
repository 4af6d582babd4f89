import Mathlib
import PayRun.Sink

/-!
# Printing to a sink

What printing lines leaves behind, without following the writes one by one.  The write of line `k` fails if the
sink refuses its number, or if the lines up to it take more bytes than there is room for (`Sink.failureAt`).

* If no write fails, all lines are printed (`Sink.printLines_of_noFailure`).
* If line `k` is the first one to fail, the lines before it are printed, then what the sink takes of line `k`,
  and nothing after it (`Sink.printLines_of_firstFailure`).

In both cases the sink is left as by the writes of these lines alone (`Sink.writeAll`).
-/

namespace PayRun

/-- The bytes of lines that are printed one after another. -/
def Text.ofLines (lines : List Text) : Text := lines.flatMap (· ++ [newline])

theorem Text.ofLines_append (first second : List Text) :
    ofLines (first ++ second) = ofLines first ++ ofLines second :=
  List.flatMap_append

theorem Text.ofLines_cons (l : Text) (lines : List Text) : ofLines (l :: lines) = l ++ newline :: ofLines lines := by
  simp [ofLines]

theorem Text.splitOn_ofLines {lines : List Text} (h : ∀ l ∈ lines, newline ∉ l) (rest : Text) :
    (ofLines lines ++ rest).splitOn newline = lines ++ rest.splitOn newline := by
  induction lines with
  | nil => rfl
  | cons l lines ih =>
    have hl : newline ∉ l := h l (by simp)
    rw [ofLines_cons, List.append_assoc, List.cons_append, List.splitOn_append_cons_self_of_not_mem hl,
      ih (fun l' hl' => h l' (by simp [hl'])), List.cons_append]

/-- Lines without newlines are read back as they are. -/
theorem Text.readLines_ofLines {lines : List Text} (h : ∀ l ∈ lines, newline ∉ l) :
    readLines (ofLines lines) = lines := by
  have hsplit := splitOn_ofLines h []
  rw [List.append_nil, List.splitOn_nil] at hsplit
  rw [readLines, hsplit, List.dropLast_concat]

theorem Text.count_newline_ofLines {lines : List Text} (h : ∀ l ∈ lines, newline ∉ l) :
    (ofLines lines).count newline = lines.length := by
  induction lines with
  | nil => rfl
  | cons l lines ih =>
    have hl : l.count newline = 0 := List.count_eq_zero.2 (h l (by simp))
    rw [ofLines_cons, List.count_append, List.count_cons_self, hl, ih fun l' hl' => h l' (by simp [hl']),
      List.length_cons, Nat.zero_add]

theorem Text.getLast?_ofLines {lines : List Text} (h : lines ≠ []) : (ofLines lines).getLast? = some newline := by
  obtain ⟨first, last, rfl⟩ := List.eq_nil_or_concat lines |>.resolve_left h
  simp [ofLines]

private theorem ofLines_take_succ {lines : List Text} {k : Nat} (hk : k < lines.length) :
    Text.ofLines (lines.take (k + 1)) = Text.ofLines (lines.take k) ++ (lines[k] ++ [Text.newline]) := by
  rw [List.take_succ_eq_append_getElem hk, Text.ofLines_append]
  simp [Text.ofLines]

namespace Sink

/-! ### Which write fails -/

/-- How the write of line `k` fails, if those of the lines before it do not. -/
def failureAt (s : Sink) (lines : List Text) (k : Nat) : Option Failure :=
  match s.refuses (s.writes + (k + 1)), s.room with
  | some failure, _ => some failure
  | none, none => none
  | none, some room => if (Text.ofLines (lines.take (k + 1))).length ≤ room then none else some .full

/-- What the sink takes of line `k` when its write is the first one to fail: nothing if it is refused, and else
what there is room for. -/
def acceptedAt (s : Sink) (lines : List Text) (k : Nat) : Text :=
  match s.refuses (s.writes + (k + 1)), s.room with
  | none, some room =>
    (lines.getD k [] ++ [Text.newline]).take (room - (Text.ofLines (lines.take k)).length)
  | _, _ => []

/-- What is taken of line `k` is a beginning of it. -/
theorem acceptedAt_isPrefix (s : Sink) (lines : List Text) (k : Nat) :
    s.acceptedAt lines k <+: lines.getD k [] ++ [Text.newline] := by
  unfold acceptedAt
  split
  · exact List.take_prefix _ _
  · exact List.nil_prefix

/-- The sink after some writes that took some bytes together. -/
def after (s : Sink) (writes bytes : Nat) : Sink :=
  { s with writes := s.writes + writes, room := s.room.map (· - bytes) }

/-- Writes lines one by one, whether a write fails or not: the bytes taken, and the sink afterwards. -/
def writeAll (s : Sink) : List Text → Text × Sink
  | [] => ([], s)
  | line :: rest =>
    let others := (s.printLine line).sink.writeAll rest
    ((s.printLine line).out ++ others.1, others.2)

private theorem room_after {s : Sink} {room : Nat} (h : s.room = some room) (writes bytes : Nat) :
    (s.after writes bytes).room = some (room - bytes) := by
  simp [after, h]

private theorem after_zero (s : Sink) : s.after 0 0 = s := by
  cases s with
  | mk writes refuses room => cases room <;> simp [after]

private theorem printLine_of_noFailure (s : Sink) {lines : List Text} {k : Nat} (hk : k < lines.length)
    (h : s.failureAt lines k = none) :
    (s.after k (Text.ofLines (lines.take k)).length).printLine lines[k] =
      { out := lines[k] ++ [Text.newline], lines := 1, failure := none,
        sink := s.after (k + 1) (Text.ofLines (lines.take (k + 1))).length } := by
  rw [failureAt, ofLines_take_succ hk, List.length_append] at h
  rw [ofLines_take_succ hk, List.length_append]
  generalize (Text.ofLines (lines.take k)).length = n at h ⊢
  cases hr : s.refuses (s.writes + (k + 1)) with
  | some failure => simp [hr] at h
  | none =>
    cases hroom : s.room with
    | none => rw [printLine_of_unlimited hr (by simp [after, hroom])]; simp [after, hroom, Nat.add_assoc]
    | some room =>
      have hfits : n + (lines[k] ++ [Text.newline]).length ≤ room := by
        by_contra hn
        simp only [hr, hroom, hn, ↓reduceIte, reduceCtorEq] at h
      have hleft : (lines[k] ++ [Text.newline]).length ≤ room - n := by omega
      rw [printLine_of_fits hr (room_after hroom k n) hleft]
      simp [after, hroom, Nat.add_assoc, Nat.sub_sub]

private theorem printLine_of_failure (s : Sink) {lines : List Text} {k : Nat} (hk : k < lines.length)
    {failure : Failure} (h : s.failureAt lines k = some failure) :
    (s.after k (Text.ofLines (lines.take k)).length).printLine lines[k] =
      { out := s.acceptedAt lines k, lines := 0, failure := some failure,
        sink := s.after (k + 1) ((Text.ofLines (lines.take k)).length + (s.acceptedAt lines k).length) } := by
  have hget : lines.getD k [] = lines[k] := by simp [hk]
  rw [failureAt, ofLines_take_succ hk, List.length_append] at h
  rw [acceptedAt, hget]
  generalize (Text.ofLines (lines.take k)).length = n at h ⊢
  cases hr : s.refuses (s.writes + (k + 1)) with
  | some refused =>
    obtain rfl : refused = failure := by simpa [hr] using h
    rw [printLine_of_refused hr]
    simp [after, Nat.add_assoc]
  | none =>
    cases hroom : s.room with
    | none => simp [hr, hroom] at h
    | some room =>
      obtain ⟨hlong, rfl⟩ : room < n + (lines[k] ++ [Text.newline]).length ∧ Failure.full = failure := by
        simpa [hr, hroom] using h
      have hpos : 0 < (lines[k] ++ [Text.newline]).length := by simp
      rw [printLine_of_full hr (room_after hroom k n) (by omega)]
      -- what is taken fills the room exactly
      have hrest : room - (n + min (room - n) (lines[k] ++ [Text.newline]).length) = 0 := by omega
      simp only [after, hroom, Option.map_some, List.length_take, hrest, Nat.add_assoc]

end Sink

/-! ### A row of lines -/

namespace Printout

theorem print_of_noFailure {p : Printout} (h : p.failure = none) (line : Text) :
    p.print line = { p.sink.printLine line with
      out := p.out ++ (p.sink.printLine line).out
      lines := p.lines + (p.sink.printLine line).lines } := by
  unfold print
  rw [h]

theorem print_of_failure {p : Printout} {failure : Sink.Failure} (h : p.failure = some failure) (line : Text) :
    p.print line = p := by
  unfold print
  rw [h]

/-- Nothing is printed after a failure. -/
private theorem printAll_of_failure {p : Printout} {failure : Sink.Failure} (h : p.failure = some failure)
    (lines : List Text) : p.printAll lines = p := by
  induction lines with
  | nil => rfl
  | cons line rest ih => rw [printAll_cons, print_of_failure h, ih]

end Printout

namespace Sink

/-- As long as no write fails, every line is printed whole. -/
private theorem printLines_take (s : Sink) {lines : List Text} {k : Nat} (hk : k ≤ lines.length)
    (h : ∀ j < k, s.failureAt lines j = none) :
    s.printLines (lines.take k) =
      { out := Text.ofLines (lines.take k), lines := k, failure := none,
        sink := s.after k (Text.ofLines (lines.take k)).length } := by
  induction k with
  | zero => simp [printLines, Text.ofLines, after_zero]
  | succ k ih =>
    have hk' : k < lines.length := hk
    have hprev := ih (by omega) (fun j hj => h j (by omega))
    -- line `k` meets the sink that the lines before it left behind
    have hstep := s.printLine_of_noFailure hk' (h k (by omega))
    rw [printLines] at hprev ⊢
    rw [List.take_succ_eq_append_getElem hk', Printout.printAll_append, hprev, Printout.printAll_cons,
      Printout.printAll_nil, Printout.print_of_noFailure rfl, hstep,
      ← List.take_succ_eq_append_getElem hk', ofLines_take_succ hk']

/-- If no write fails, all lines are printed. -/
theorem printLines_of_noFailure (s : Sink) {lines : List Text}
    (h : ∀ k < lines.length, s.failureAt lines k = none) :
    s.printLines lines =
      { out := Text.ofLines lines, lines := lines.length, failure := none,
        sink := s.after lines.length (Text.ofLines lines).length } := by
  have := s.printLines_take (Nat.le_refl lines.length) h
  rwa [List.take_length] at this

/-- If line `k` is the first one to fail, printing stops there. -/
theorem printLines_of_firstFailure (s : Sink) {lines : List Text} {k : Nat} (hk : k < lines.length)
    (hbefore : ∀ j < k, s.failureAt lines j = none) {failure : Failure} (h : s.failureAt lines k = some failure) :
    s.printLines lines =
      { out := Text.ofLines (lines.take k) ++ s.acceptedAt lines k, lines := k, failure := some failure,
        sink := s.after (k + 1) (Text.ofLines (lines.take k) ++ s.acceptedAt lines k).length } := by
  have hprev := s.printLines_take (Nat.le_of_lt hk) hbefore
  have hstep := s.printLine_of_failure hk h
  have hsplit : lines = lines.take k ++ lines[k] :: lines.drop (k + 1) := by
    rw [← List.drop_eq_getElem_cons hk, List.take_append_drop]
  rw [printLines] at hprev ⊢
  conv => lhs; rw [hsplit]
  rw [Printout.printAll_append, hprev, Printout.printAll_cons, Printout.print_of_noFailure rfl, hstep,
    Printout.printAll_of_failure rfl, List.length_append]
  rfl

end Sink

/-! ### Printing and writing -/

private theorem failure_of_printAll {p : Printout} {lines : List Text} (h : (p.printAll lines).failure = none) :
    p.failure = none := by
  cases hp : p.failure with
  | none => rfl
  | some failure => rw [Printout.printAll_of_failure hp, hp] at h; exact h

/-- As long as no write fails, printing is writing. -/
private theorem printAll_eq_writeAll {p : Printout} {lines : List Text} (h : (p.printAll lines).failure = none) :
    (p.printAll lines).out = p.out ++ (p.sink.writeAll lines).1 ∧
      (p.printAll lines).sink = (p.sink.writeAll lines).2 := by
  induction lines generalizing p with
  | nil => simp [Sink.writeAll]
  | cons line rest ih =>
    have hp : p.failure = none := failure_of_printAll h
    obtain ⟨hout, hsink⟩ := ih (p := p.print line) h
    rw [Printout.printAll_cons, hout, hsink, Printout.print_of_noFailure hp]
    simp [Sink.writeAll]

private theorem lines_printLine_of_noFailure {s : Sink} {line : Text} (h : (s.printLine line).failure = none) :
    (s.printLine line).out = line ++ [Text.newline] ∧ (s.printLine line).lines = 1 := by
  cases hr : s.refuses (s.writes + 1) with
  | some failure =>
    rw [Sink.printLine_of_refused hr] at h
    cases h
  | none =>
    cases hroom : s.room with
    | none => rw [Sink.printLine_of_unlimited hr hroom]; exact ⟨rfl, rfl⟩
    | some room =>
      by_cases hfits : (line ++ [Text.newline]).length ≤ room
      · rw [Sink.printLine_of_fits hr hroom hfits]; exact ⟨rfl, rfl⟩
      · rw [Sink.printLine_of_full hr hroom (Nat.lt_of_not_le hfits)] at h
        cases h

/-- A printout without a failure holds all its lines. -/
theorem Printout.out_printAll {p : Printout} {lines : List Text} (h : (p.printAll lines).failure = none) :
    (p.printAll lines).out = p.out ++ Text.ofLines lines ∧ (p.printAll lines).lines = p.lines + lines.length := by
  induction lines generalizing p with
  | nil => simp [Text.ofLines]
  | cons line rest ih =>
    have hp : p.failure = none := failure_of_printAll h
    have hnext : (p.print line).failure = none := failure_of_printAll (p := p.print line) h
    obtain ⟨hout, hlines⟩ := ih (p := p.print line) h
    rw [print_of_noFailure hp] at hnext
    obtain ⟨htaken, hone⟩ := lines_printLine_of_noFailure hnext
    rw [printAll_cons, hout, hlines, print_of_noFailure hp]
    simp only [htaken, hone, Text.ofLines, List.flatMap_cons, List.append_assoc, List.length_cons, true_and]
    omega

/-- A sink takes a beginning of a line. -/
private theorem Sink.out_printLine_isPrefix (s : Sink) (line : Text) :
    (s.printLine line).out <+: line ++ [Text.newline] := by
  cases hr : s.refuses (s.writes + 1) with
  | some failure =>
    rw [printLine_of_refused hr]
    exact List.nil_prefix
  | none =>
    cases hroom : s.room with
    | none => rw [printLine_of_unlimited hr hroom]
    | some room =>
      by_cases hfits : (line ++ [Text.newline]).length ≤ room
      · rw [printLine_of_fits hr hroom hfits]
      · rw [printLine_of_full hr hroom (Nat.lt_of_not_le hfits)]
        exact List.take_prefix _ _

/-- What is printed of some lines is a beginning of them, wherever the printing stops. -/
theorem Printout.out_printAll_isPrefix (p : Printout) (lines : List Text) :
    (p.printAll lines).out <+: p.out ++ Text.ofLines lines := by
  induction lines generalizing p with
  | nil => simp [Text.ofLines]
  | cons line rest ih =>
    rw [printAll_cons, Text.ofLines_cons]
    cases hp : p.failure with
    | some failure =>
      rw [print_of_failure hp, printAll_of_failure hp]
      exact List.prefix_append _ _
    | none =>
      cases hnext : (p.sink.printLine line).failure with
      | some failure =>
        -- the rest is not printed any more
        have hstopped : (p.print line).failure = some failure := by
          rw [print_of_noFailure hp]
          exact hnext
        rw [printAll_of_failure hstopped, print_of_noFailure hp]
        refine (List.prefix_append_right_inj p.out).2 ((p.sink.out_printLine_isPrefix line).trans ?_)
        exact ⟨Text.ofLines rest, by simp⟩
      | none =>
        have hprint := ih (p.print line)
        have htaken := (lines_printLine_of_noFailure hnext).1
        rw [print_of_noFailure hp, htaken] at hprint
        rw [print_of_noFailure hp, htaken]
        simpa using hprint

namespace Sink

private theorem writeAll_append (s : Sink) (first second : List Text) :
    s.writeAll (first ++ second) =
      ((s.writeAll first).1 ++ ((s.writeAll first).2.writeAll second).1,
        ((s.writeAll first).2.writeAll second).2) := by
  induction first generalizing s with
  | nil => simp [writeAll]
  | cons line rest ih => simp [writeAll, ih]

/-- If no write fails, printing lines is writing them all. -/
theorem writeAll_of_noFailure (s : Sink) {lines : List Text}
    (h : ∀ k < lines.length, s.failureAt lines k = none) :
    s.writeAll lines = ((s.printLines lines).out, (s.printLines lines).sink) := by
  have hnone : (s.printLines lines).failure = none := by rw [s.printLines_of_noFailure h]
  obtain ⟨hout, hsink⟩ := printAll_eq_writeAll hnone
  exact Prod.ext hout.symm hsink.symm

/-- If line `k` is the first one to fail, printing lines is writing those up to line `k`. -/
theorem writeAll_of_firstFailure (s : Sink) {lines : List Text} {k : Nat} (hk : k < lines.length)
    (hbefore : ∀ j < k, s.failureAt lines j = none) {failure : Failure} (h : s.failureAt lines k = some failure) :
    s.writeAll (lines.take (k + 1)) = ((s.printLines lines).out, (s.printLines lines).sink) := by
  have hprev := s.printLines_take (Nat.le_of_lt hk) hbefore
  have hnone : (s.printLines (lines.take k)).failure = none := by rw [hprev]
  obtain ⟨hout, hsink⟩ := printAll_eq_writeAll hnone
  rw [← printLines, hprev] at hout hsink
  -- the write of line `k` meets the sink as it is after the lines before it
  have hlast := s.printLine_of_failure hk h
  rw [List.take_succ_eq_append_getElem hk, writeAll_append, ← hsink, s.printLines_of_firstFailure hk hbefore h]
  simp only [List.nil_append] at hout
  simp [writeAll, hlast, ← hout]

end Sink

end PayRun
