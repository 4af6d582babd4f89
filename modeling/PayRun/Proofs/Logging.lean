import Mathlib
import PayRun.Proofs.Refused
import PayRun.Proofs.RunLog

/-!
# Logging does not influence the payroll

* The answers of a session are the same with any logger and with none, but for what they say of the log
  (`Session.map_withoutLog_answers`).
* The events of a session do not depend on its logger either, and the logger writes those from its threshold on, one
  line each (`Session.logLines_withLogger`).
* So a higher threshold drops lines and does nothing else.  The lines that it drops can be told by the level they show
  (`Log.Form.shownLevel?_line`, `Session.logging_is_passive`).
-/

namespace PayRun

open Text

namespace Log

/-! ### The level that a line shows -/

private theorem Level.name_injective : Function.Injective Level.name := by
  intro l l' h
  have hnamed := Console.namedLevel?_name l
  rw [h, Console.namedLevel?_name l'] at hnamed
  exact (Option.some.inj hnamed).symm

/-- A search that only one level answers finds it. -/
private theorem Level.find?_all {p : Level → Bool} {level : Level} (h : ∀ l, p l = true ↔ l = level) :
    Level.all.find? p = some level := by
  have hp : p = fun l => decide (l = level) := by
    funext l
    by_cases hl : l = level
    · simp [hl, (h level).2 rfl]
    · simpa [hl] using mt (h l).1 hl
  rw [hp]
  cases level <;> rfl

/-- The second of the words of a text, between its first two blanks. -/
def secondWord (t : Text) : Text := (t.dropWhile (· ≠ ' '.toUInt8)).tail.takeWhile (· ≠ ' '.toUInt8)

private theorem secondWord_append {first second : Text} (hfirst : ' '.toUInt8 ∉ first)
    (hsecond : ' '.toUInt8 ∉ second) (rest : Text) :
    secondWord (first ++ ' '.toUInt8 :: (second ++ ' '.toUInt8 :: rest)) = second := by
  have hbytes : ∀ {t : Text}, ' '.toUInt8 ∉ t → ∀ b ∈ t, decide (b ≠ ' '.toUInt8) = true := by
    intro t ht b hb
    rw [decide_eq_true_iff]
    rintro rfl
    exact ht hb
  rw [secondWord, List.dropWhile_append_of_pos (hbytes hfirst), List.dropWhile_cons_of_neg (by simp), List.tail_cons,
    List.takeWhile_append_of_pos (hbytes hsecond), List.takeWhile_cons_of_neg (by simp), List.append_nil]

/-- Is the byte a capital letter? -/
def isCapital (b : UInt8) : Bool := 0x41 ≤ b && b ≤ 0x5A

/-- The level that a reader sees on a line without its newline: in JSON the one under the key for it, and on a console
the one that the capital letters of the second word name, for the codes of colours have none. -/
def Form.shownLevel? : Form → Text → Option Level
  | .json, body => Level.all.find? fun l => Form.json.find levelKey body = [Form.json.bare l.name]
  | .console _, body => Level.all.find? fun l => (secondWord body).filter isCapital = Console.levelLabel l

namespace Console

private theorem levelLabel_injective : Function.Injective levelLabel := by
  intro l l' h
  cases l <;> cases l' <;> first | rfl | exact absurd h (by decide)

private theorem filter_isCapital_paint (s : Style) (code : Nat) (t : Text) :
    (s.paint code t).filter isCapital = t.filter isCapital := by
  have hdigits : (ofNat code).filter isCapital = [] := by
    rw [List.filter_eq_nil_iff]
    intro b hb hcapital
    have hdigit := isDigit_of_mem_ofNat hb
    simp only [isDigit, isCapital, Bool.and_eq_true, decide_eq_true_iff] at hdigit hcapital
    exact absurd (UInt8.le_trans hcapital.1 hdigit.2) (by decide)
  have hcodes : (ofString "\x1b[").filter isCapital = [] ∧ (ofString "m").filter isCapital = [] ∧
      (ofString "\x1b[0m").filter isCapital = [] := by decide
  unfold Style.paint
  split
  · simp only [List.flatten_cons, List.flatten_nil, List.append_nil, List.filter_append, hdigits, hcodes,
      List.nil_append]
  · rfl

private theorem filter_isCapital_levelText (s : Style) (l : Level) :
    (levelText s (.text l.name)).filter isCapital = levelLabel l := by
  have hlabel : (levelLabel l).filter isCapital = levelLabel l := by cases l <;> decide
  rcases levelText_name s l with heq | ⟨code, heq⟩
  · rw [heq, hlabel]
  · rw [heq, filter_isCapital_paint, hlabel]

private theorem blank_not_mem_kitchen (now : Moment) : ' '.toUInt8 ∉ now.kitchen := by
  intro h
  rcases isDigit_or_mem_of_mem_kitchen h with h | h
  · exact absurd h (by decide)
  · exact absurd h (by decide)

private theorem blank_not_mem_paint (s : Style) (code : Nat) {t : Text} (h : ' '.toUInt8 ∉ t) :
    ' '.toUInt8 ∉ s.paint code t := not_mem_paint s code (by decide) (by decide) h

private theorem blank_not_mem_levelText (s : Style) (l : Level) : ' '.toUInt8 ∉ levelText s (.text l.name) := by
  have hlabel : ' '.toUInt8 ∉ levelLabel l := by cases l <;> decide
  rcases levelText_name s l with heq | ⟨code, heq⟩
  · rw [heq]
    exact hlabel
  · rw [heq]
    exact blank_not_mem_paint s code hlabel

/-- With colours or without, the second word of the line of a plain event is its level. -/
private theorem secondWord_line (s : Style) {e : Event} (h : e.Plain) (now : Moment) :
    secondWord (line s now e).dropLast = levelText s (.text e.level.name) := by
  obtain ⟨fields, message, -, -, hparts⟩ := parts_of_plain s h now
  rw [line, List.dropLast_concat, hparts]
  -- the message follows, so there is a second blank
  have hwords : [' '.toUInt8].intercalate (s.paint grey now.kitchen :: levelText s (.text e.level.name) :: message ::
      fields.map (fieldText s)) = s.paint grey now.kitchen ++ ' '.toUInt8 :: (levelText s (.text e.level.name) ++
      ' '.toUInt8 :: [' '.toUInt8].intercalate (message :: fields.map (fieldText s))) := by
    simp [List.intercalate]
  rw [hwords]
  exact secondWord_append (blank_not_mem_paint s _ (blank_not_mem_kitchen now)) (blank_not_mem_levelText s _) _

end Console

/-- The line of a plain event shows the level of the event. -/
theorem Form.shownLevel?_line (form : Form) {e : Event} (h : e.Plain) (now : Moment) :
    form.shownLevel? (form.line now e).dropLast = some e.level := by
  cases form with
  | json =>
    obtain ⟨body, hline, -, hfind⟩ :=
      Json.find_line h now (f := ⟨levelKey, .text e.level.name⟩) (by simp [Json.members])
    have hletters : e.level.name.all Console.isPlain = true := by
      cases e.level <;> decide
    have hname : Json.value (.text e.level.name) = Form.json.bare e.level.name :=
      Form.json.valueText_of_plain (List.all_eq_true.1 hletters)
    rw [line, hline, List.dropLast_concat, shownLevel?]
    apply Level.find?_all
    intro l
    rw [decide_eq_true_iff, hfind, hname, List.cons.injEq, Form.json.bare_injective.eq_iff,
      Level.name_injective.eq_iff, and_iff_left rfl]
    exact eq_comm
  | console style =>
    rw [shownLevel?]
    apply Level.find?_all
    intro l
    rw [decide_eq_true_iff, line, Console.secondWord_line style h now, Console.filter_isCapital_levelText,
      Console.levelLabel_injective.eq_iff]
    exact eq_comm

end Log

namespace Session

open Log

/-! ### Sessions with one logger or another -/

def withLogger (s : Session) (logger : Option Logger) : Session := { s with logger := logger }

/-- The answer, but for what it says of the log. -/
def Answer.withoutLog : Answer → Answer
  | .ran result out _ => .ran result out []
  | .printed failure out => .printed failure out
  | .enrolled index => .enrolled index
  | .unknown index => .unknown index

/-- The events of a step, whether they are logged or not. -/
def stepEvents (s : Session) : Step → List Event
  | .run index =>
    match s.staff[index]? with
    | some e => (Run.settle s.ids.draw.1 e s.sink).events
    | none => []
  | .enrol _ => []
  | .print _ => []

def events (s : Session) : List Step → List Event
  | [] => []
  | t :: rest => s.stepEvents t ++ events (s.step t).1 rest

private theorem log_append (s : Session) (first second : List Event) :
    s.log (first ++ second) = s.log first ++ s.log second := by
  unfold log
  split
  · simp [Logger.log]
  · rfl

/-- What a step does with another logger: the same, but for the log, which gets the same events. -/
private theorem step_withLogger (s : Session) (logger : Option Logger) (t : Step) :
    ((s.withLogger logger).step t).1 = (s.step t).1.withLogger logger ∧
      ((s.withLogger logger).step t).2.withoutLog = (s.step t).2.withoutLog ∧
      ((s.withLogger logger).step t).2.log = (s.withLogger logger).log (s.stepEvents t) := by
  have hnone : (s.withLogger logger).log [] = [] := by
    unfold log
    split <;> rfl
  cases t with
  | enrol e => exact ⟨rfl, rfl, hnone.symm⟩
  | print line => exact ⟨rfl, rfl, hnone.symm⟩
  | run index =>
    have hstaff : (s.withLogger logger).staff = s.staff := rfl
    cases he : s.staff[index]? with
    | none =>
      rw [step, step, stepEvents, hstaff, he]
      exact ⟨rfl, rfl, hnone.symm⟩
    | some e =>
      rw [step, step, stepEvents, hstaff, he]
      exact ⟨rfl, rfl, rfl⟩

theorem map_withoutLog_answers (s : Session) (logger : Option Logger) (steps : List Step) :
    ((s.withLogger logger).answers steps).map Answer.withoutLog = (s.answers steps).map Answer.withoutLog := by
  induction steps generalizing s with
  | nil => rfl
  | cons t rest ih =>
    obtain ⟨hstate, hanswer, -⟩ := step_withLogger s logger t
    rw [answers, answers, List.map_cons, List.map_cons, hanswer, hstate, ih]

private theorem flatMap_log_answers (s : Session) (logger : Option Logger) (steps : List Step) :
    ((s.withLogger logger).answers steps).flatMap Answer.log = (s.withLogger logger).log (s.events steps) := by
  induction steps generalizing s with
  | nil =>
    unfold log
    split <;> rfl
  | cons t rest ih =>
    obtain ⟨hstate, -, hlog⟩ := step_withLogger s logger t
    have hkept : ((s.step t).1.withLogger logger).log (events (s.step t).1 rest) =
        (s.withLogger logger).log (events (s.step t).1 rest) := by
      rw [← hstate]
      exact log_after (s.withLogger logger) [t] _
    rw [answers, List.flatMap_cons, hlog, hstate, ih, hkept, events, log_append]

private theorem plain_of_mem_events {s : Session} {steps : List Step} {event : Event} (h : event ∈ s.events steps) :
    event.Plain := by
  induction steps generalizing s with
  | nil => cases h
  | cons t rest ih =>
    rcases List.mem_append.1 h with h | h
    · cases t with
      | enrol e => cases h
      | print line => cases h
      | run index =>
        simp only [stepEvents] at h
        split at h
        · rw [Run.events_settle] at h
          exact Run.plain_of_mem_eventsFor h
        · cases h
    · exact ih h

/-- The lines of the log of some steps. -/
def logLines (s : Session) (steps : List Step) : List Text := readLines ((s.answers steps).flatMap Answer.log)

theorem logLines_withLogger (s : Session) (steps : List Step) (environment threshold : Text) (style : Console.Style) :
    (s.withLogger (some (.of environment threshold style))).logLines steps =
      ((s.events steps).filter (Level.ofName threshold ≤ ·.level)).map fun event =>
        ((Form.ofEnvironment environment style).line s.now event).dropLast := by
  rw [logLines, flatMap_log_answers]
  apply Form.readLines_of_plain
  intro event hevent
  exact plain_of_mem_events (List.mem_of_mem_filter hevent)

/-- Whether and how a session logs is seen in its log only, and of two thresholds the higher one keeps exactly the
lines whose level reaches it. -/
theorem logging_is_passive (s : Session) (steps : List Step) :
    (∀ logger logger' : Option Logger, ((s.withLogger logger).answers steps).map Answer.withoutLog =
      ((s.withLogger logger').answers steps).map Answer.withoutLog) ∧
    ∀ (environment threshold threshold' : Text) (style : Console.Style),
      Level.ofName threshold ≤ Level.ofName threshold' →
      let form := Form.ofEnvironment environment style
      let lines := (s.withLogger (some (.of environment threshold style))).logLines steps
      let lines' := (s.withLogger (some (.of environment threshold' style))).logLines steps
      lines = ((s.events steps).filter (Level.ofName threshold ≤ ·.level)).map
        (fun event => (form.line s.now event).dropLast) ∧
      (∀ event ∈ s.events steps, form.shownLevel? (form.line s.now event).dropLast = some event.level) ∧
      lines' = lines.filter fun line => (form.shownLevel? line).any (Level.ofName threshold' ≤ ·) := by
  refine ⟨?_, ?_⟩
  · intro logger logger'
    rw [map_withoutLog_answers, map_withoutLog_answers]
  · intro environment threshold threshold' style hle form lines lines'
    have hshown : ∀ event ∈ s.events steps,
        form.shownLevel? (form.line s.now event).dropLast = some event.level := by
      intro event hevent
      exact form.shownLevel?_line (plain_of_mem_events hevent) s.now
    refine ⟨logLines_withLogger s steps environment threshold style, hshown, ?_⟩
    simp only [lines, lines', logLines_withLogger]
    rw [List.filter_map, List.filter_filter]
    congr 1
    apply List.filter_congr
    intro event hevent
    -- an event that reaches the higher threshold reaches the lower one
    have hreach : Level.ofName threshold' ≤ event.level → Level.ofName threshold ≤ event.level :=
      fun h => Int.le_trans hle h
    rw [Function.comp_apply, hshown event hevent, Option.any_some, ← Bool.decide_and, decide_eq_decide]
    exact ⟨fun h => ⟨h, hreach h⟩, fun h => h.1⟩

/-- A run that is interrupted and one that is not: at `warn` only the interruption is left of five lines, and the
reports do not tell whether anything was logged. -/
theorem logging_is_passive_interrupted :
    let sink : Sink := { refuses := fun n => if n = 3 then some .brokenPipe else none }
    let s : Session :=
      { sink := sink, logger := none, ids := { byte := UInt8.ofNat }, now := ⟨2024, 2, 29, 15, 4, 5⟩ }
    let steps : List Step := [.enrol .standard, .run 0, .run 0]
    let logging := fun threshold : Text => s.withLogger (some (.of "development" threshold { coloured := true }))
    ((s.withLogger none).answers steps).map Answer.withoutLog =
        (((logging "debug").answers steps).map Answer.withoutLog) ∧
      ((logging "debug").logLines steps).length = 5 ∧ ((logging "warn").logLines steps).length = 1 ∧
      (logging "warn").logLines steps = ((logging "debug").logLines steps).filter fun line =>
        ((Form.console { coloured := true }).shownLevel? line).any (Level.warn ≤ ·) := by
  intro sink s steps logging
  have hlevels : Level.ofName "debug" = .debug ∧ Level.ofName "warn" = .warn := by decide
  obtain ⟨hsame, hlines⟩ := logging_is_passive s steps
  have hevents : ((s.events steps).map Event.level) = [.info, .error, .info, .debug, .info] := by decide +kernel
  obtain ⟨hdebug, -, hwarn⟩ := hlines "development" "debug" "warn" { coloured := true } (by decide)
  obtain ⟨hwarn', -, -⟩ := hlines "development" "warn" "warn" { coloured := true } (by decide)
  have hlength : ∀ level : Level, ((s.events steps).filter (level ≤ ·.level)).length =
      (((s.events steps).map Event.level).filter (level ≤ ·)).length := by
    intro level
    rw [List.filter_map, List.length_map]
    rfl
  refine ⟨hsame _ _, ?_, ?_, ?_⟩
  · rw [hdebug, List.length_map, hlevels.1, hlength, hevents]
    rfl
  · rw [hwarn', List.length_map, hlevels.2, hlength, hevents]
    rfl
  · rw [hlevels.2] at hwarn
    exact hwarn

end Session

end PayRun
