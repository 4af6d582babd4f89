import Mathlib
import PayRun.Proofs.Command
import PayRun.Proofs.Precedence

/-!
# The threshold that a text chooses

The settings put the text for the threshold in lower case, by the rules for all characters, and the log compares it
with the names of the levels, byte by byte.  For these names that comes to the same as lower case in ASCII alone.

* Outside ASCII there are two characters whose lower case is an ASCII letter, the capital `İ` with `i` and the
  kelvin sign with `k` (`Text.eq_of_lower_ascii`).  All others stay outside, and ill-formed bytes become
  replacement characters.
* So a text without `i`, `k` and bytes outside ASCII is the lower case of its ASCII spellings and of nothing else
  (`Text.lower_eq_iff`).  Of the names of thresholds only that of `info`, the default, has one of the two letters.
* A text chooses a threshold other than `info` exactly if it is the name of that threshold up to the case of ASCII
  letters (`Command.threshold_of_text`).
-/

namespace PayRun

/-! ### Bytes outside ASCII -/

namespace Text

/-- A part of a text outside ASCII: a character with a high code, or bytes that belong to none. -/
def Piece.High : Piece → Prop
  | .char c => 0x80 ≤ c.toNat
  | .stray bytes => bytes ≠ []

/-- Whatever bytes follow in their ranges, the code of the character is a valid one outside ASCII. -/
def AnnouncesHigh : (following : Nat) → (low high : UInt8) → (value : Nat) → Prop
  | 0, _, _, value => 0x80 ≤ value ∧ value.isValidChar
  | following + 1, low, high, value =>
    ∀ b : UInt8, low ≤ b → b ≤ high → AnnouncesHigh following 0x80 0xBF (64 * value + b.toNat % 64)

private theorem announcesHigh_of_lead? {b : UInt8} {l : Lead} (h : lead? b = some l) :
    AnnouncesHigh l.following l.low l.high l.bits := by
  unfold lead? at h
  simp only [UInt8.le_iff_toNat_le, ← UInt8.toNat_inj, UInt8.reduceToNat] at h
  split_ifs at h <;> cases h
  -- for each kind of first byte, the least and the greatest code that it can lead to
  all_goals
    simp only [AnnouncesHigh, UInt8.le_iff_toNat_le, UInt8.reduceToNat, Nat.isValidChar]
    intros
    omega

private theorem high_readFollowing {following : Nat} {low high : UInt8} {value : Nat} {seen : Text}
    (h : AnnouncesHigh following low high value) (hseen : seen ≠ []) (rest : Text) :
    (readFollowing following low high value seen rest).1.High := by
  fun_induction readFollowing following low high value seen rest with
  | case1 low high value seen rest =>
    obtain ⟨hhigh, hvalid⟩ := h
    show 0x80 ≤ (Char.ofNat value).toNat
    rw [Char.toNat_ofNat, if_pos hvalid]
    exact hhigh
  | case2 low high value seen following => simpa [Piece.High] using hseen
  | case3 low high value seen following b rest hb ih => exact ih (h b hb.1 hb.2) (by simp)
  | case4 low high value seen following b rest hb => simpa [Piece.High] using hseen

/-- A part that starts outside ASCII stays there. -/
private theorem high_readPiece {b : UInt8} (h : ¬ b < 0x80) (rest : Text) : (readPiece b rest).1.High := by
  rw [readPiece, if_neg h]
  split
  · rename_i l hl
    exact high_readFollowing (announcesHigh_of_lead? hl) (by simp) rest
  · simp [Piece.High]

/-! ### Lower case outside ASCII -/

private theorem CaseRun.range_of_holds {r : CaseRun} {n : Nat} (h : r.holds n = true) : r.first ≤ n ∧ n ≤ r.last := by
  simp only [holds, Bool.and_eq_true, decide_eq_true_eq] at h
  exact h.1

/-- All images of the run are valid codes outside ASCII. -/
def CaseRun.StaysHigh (r : CaseRun) : Prop :=
  0x80 ≤ r.first + r.shift ∧ (r.last + r.shift < 0xD800 ∨ 0xE000 ≤ r.first + r.shift ∧ r.last + r.shift < 0x110000)

instance (r : CaseRun) : Decidable r.StaysHigh := inferInstanceAs (Decidable (_ ∧ _))

private theorem CaseRun.StaysHigh.image {r : CaseRun} (h : r.StaysHigh) {n : Nat} (hn : r.holds n = true) :
    0x80 ≤ (Char.ofNat (n + r.shift).toNat).toNat := by
  obtain ⟨hfirst, hlast⟩ := range_of_holds hn
  obtain ⟨hhigh, hvalid⟩ := h
  have hchar : (n + r.shift).toNat.isValidChar := by
    unfold Nat.isValidChar
    omega
  rw [Char.toNat_ofNat, if_pos hchar]
  omega

/-- Of the runs outside ASCII all but two stay there. -/
private theorem lowerRuns_images : ∀ r ∈ lowerRuns, r.last < 0x80 ∨ r.StaysHigh ∨
    (r.first = 0x130 ∧ r.last = 0x130 ∧ r.shift = -199) ∨
    (r.first = 0x212A ∧ r.last = 0x212A ∧ r.shift = -8383) := by
  decide +kernel

/-- Only two characters outside ASCII have an ASCII character as their lower case. -/
theorem eq_of_lower_ascii {c : Char} (hc : 0x80 ≤ c.toNat) (hlower : (mapChar lowerRuns c).toNat < 0x80) :
    (c = '\u0130' ∧ mapChar lowerRuns c = 'i') ∨ (c = '\u212A' ∧ mapChar lowerRuns c = 'k') := by
  unfold mapChar at hlower ⊢
  split at hlower
  · rename_i r hfind
    have hholds := List.find?_some hfind
    obtain ⟨hfirst, hlast⟩ := CaseRun.range_of_holds hholds
    rcases lowerRuns_images r (List.mem_of_find?_eq_some hfind) with hascii | hhigh | ⟨h1, h2, hshift⟩ |
      ⟨h1, h2, hshift⟩
    · omega
    · have himage := hhigh.image hholds
      omega
    · have hcode : c.toNat = 0x130 := by omega
      left
      refine ⟨Char.toNat_inj.1 hcode, ?_⟩
      rw [hcode, hshift]
      rfl
    · have hcode : c.toNat = 0x212A := by omega
      right
      refine ⟨Char.toNat_inj.1 hcode, ?_⟩
      rw [hcode, hshift]
      rfl
  · omega

/-- The bytes outside ASCII and the two letters that characters outside ASCII are lowered to. -/
def isForeign (b : UInt8) : Bool := 0x80 ≤ b || b == 'i'.toUInt8 || b == 'k'.toUInt8

private theorem high_of_mem_ofChar {c : Char} (hc : 0x80 ≤ c.toNat) {b : UInt8} (h : b ∈ ofChar c) : 0x80 ≤ b := by
  have hb : 128 ≤ b.toNat := by
    rcases mem_ofChar h with hcode | hhigh
    · omega
    · exact hhigh
  exact UInt8.le_iff_toNat_le.2 hb

private theorem ofChar_ne_nil (c : Char) : ofChar c ≠ [] := by
  have hlength : (ofChar c).length = c.utf8Size := String.length_utf8EncodeChar c
  have hpos := c.utf8Size_pos
  intro hnil
  rw [hnil, List.length_nil] at hlength
  omega

/-- The lower case of a part of a text. -/
def lowerPiece : Piece → Text
  | .char c => ofChar (mapChar lowerRuns c)
  | .stray bytes => bytes.flatMap fun _ => replacement

private theorem lower_cons (b : UInt8) (rest : Text) :
    lower (b :: rest) = lowerPiece (readPiece b rest).1 ++ lower (readPiece b rest).2 := by
  rw [lower, mapChars, pieces_cons, List.flatMap_cons]
  rfl

private theorem Piece.High.exists_mem_lowerPiece {p : Piece} (h : p.High) :
    ∃ x ∈ lowerPiece p, isForeign x = true := by
  cases p with
  | char c =>
    by_cases hlower : (mapChar lowerRuns c).toNat < 0x80
    · rcases eq_of_lower_ascii h hlower with ⟨-, hi⟩ | ⟨-, hk⟩
      · exact ⟨'i'.toUInt8, by rw [lowerPiece, hi]; decide, rfl⟩
      · exact ⟨'k'.toUInt8, by rw [lowerPiece, hk]; decide, rfl⟩
    · obtain ⟨x, hx⟩ := List.exists_mem_of_ne_nil _ (ofChar_ne_nil (mapChar lowerRuns c))
      have hhigh := high_of_mem_ofChar (Nat.le_of_not_lt hlower) hx
      exact ⟨x, hx, by simp [isForeign, hhigh]⟩
  | stray bytes =>
    -- every stray byte becomes a replacement character
    obtain ⟨b, hb⟩ := List.exists_mem_of_ne_nil bytes h
    exact ⟨0xEF, List.mem_flatMap.2 ⟨b, hb, by decide⟩, rfl⟩

/-- The lower case of a text with a byte outside ASCII shows it. -/
private theorem exists_mem_lower {t : Text} {b : UInt8} (hb : b ∈ t) (hhigh : ¬ b < 0x80) :
    ∃ x ∈ lower t, isForeign x = true := by
  induction t with
  | nil => cases hb
  | cons a rest ih =>
    rw [lower_cons]
    by_cases ha : a < 0x80
    · have hrest : (readPiece a rest).2 = rest := by rw [readPiece, if_pos ha]
      have hmem : b ∈ rest := by
        rcases List.mem_cons.1 hb with rfl | hmem
        · exact absurd ha hhigh
        · exact hmem
      obtain ⟨x, hx, hforeign⟩ := ih hmem
      rw [hrest]
      exact ⟨x, List.mem_append_right _ hx, hforeign⟩
    · obtain ⟨x, hx, hforeign⟩ := (high_readPiece ha rest).exists_mem_lowerPiece
      exact ⟨x, List.mem_append_left _ hx, hforeign⟩

private theorem lt_of_smallLetter {b : UInt8} (h : smallLetter b < 0x80) : b < 0x80 := by
  unfold smallLetter at h
  split at h
  · rename_i hcapital
    simp only [UInt8.le_iff_toNat_le, UInt8.lt_iff_toNat_lt, UInt8.reduceToNat] at hcapital ⊢
    omega
  · exact h

/-- A text without foreign bytes is the lower case of its ASCII spellings, and of no other text. -/
theorem lower_eq_iff {s t : Text} (ht : ∀ b ∈ t, isForeign b = false) : lower s = t ↔ smallLetters s = t := by
  constructor
  · intro h
    have hascii : ∀ b ∈ s, b < 0x80 := by
      intro b hb
      by_contra hhigh
      obtain ⟨x, hx, hforeign⟩ := exists_mem_lower hb hhigh
      rw [h] at hx
      rw [ht x hx] at hforeign
      cases hforeign
    rw [← lower_of_ascii hascii, h]
  · intro h
    have hascii : ∀ b ∈ s, b < 0x80 := by
      intro b hb
      have hmem : smallLetter b ∈ t := h ▸ List.mem_map_of_mem hb
      have hnot := ht _ hmem
      simp only [isForeign, Bool.or_eq_false_iff, decide_eq_false_iff_not] at hnot
      exact lt_of_smallLetter (UInt8.not_le.1 hnot.1.1)
    rw [lower_of_ascii hascii, h]

end Text

/-! ### Thresholds by name -/

namespace Log.Level

/-- The thresholds that a text has to name. -/
def selectable : List Level := [trace, debug, warn, error]

private theorem ofName_eq_iff {l : Level} (hl : l ∈ selectable) {t : Text} : ofName t = l ↔ t = l.name := by
  constructor
  · intro h
    unfold ofName at h
    cases hfind : thresholds.find? (·.name = t) with
    | none =>
      have hinfo : info ∉ selectable := by decide
      rw [hfind, Option.getD_none] at h
      exact absurd (h ▸ hl) hinfo
    | some found =>
      rw [hfind, Option.getD_some] at h
      have hname := List.find?_some hfind
      rw [h] at hname
      exact (of_decide_eq_true hname).symm
  · rintro rfl
    have hnames : ∀ l ∈ selectable, ofName l.name = l := by decide
    exact hnames l hl

private theorem ofName_eq_info {t : Text} (h : ∀ l ∈ selectable, t ≠ l.name) : ofName t = info := by
  have hothers : ∀ l ∈ thresholds, l ≠ info → l ∈ selectable := by decide
  by_contra hne
  have hselectable := hothers _ (ofName_mem_thresholds t) hne
  exact h _ hselectable ((ofName_eq_iff hselectable).1 rfl)

private theorem isForeign_of_mem_name {l : Level} (hl : l ∈ selectable) {b : UInt8} (hb : b ∈ l.name) :
    Text.isForeign b = false := by
  have hall : selectable.all (·.name.all fun b => !Text.isForeign b) = true := by decide
  simpa using List.all_eq_true.1 (List.all_eq_true.1 hall l hl) b hb

/-- Of the case of letters only that of ASCII letters matters for the name of a threshold. -/
private theorem ofName_lower (s : Text) : ofName (Text.lower s) = ofName (Text.smallLetters s) := by
  by_cases h : ∃ l ∈ selectable, Text.smallLetters s = l.name
  · obtain ⟨l, hl, hsmall⟩ := h
    have hlower := (Text.lower_eq_iff fun b => isForeign_of_mem_name hl).2 hsmall
    rw [hlower, hsmall]
  · have hsmall : ∀ l ∈ selectable, Text.smallLetters s ≠ l.name := fun l hl heq => h ⟨l, hl, heq⟩
    have hlower : ∀ l ∈ selectable, Text.lower s ≠ l.name := fun l hl heq =>
      hsmall l hl ((Text.lower_eq_iff fun b => isForeign_of_mem_name hl).1 heq)
    rw [ofName_eq_info hlower, ofName_eq_info hsmall]

private theorem ofName_lower_of_high {s : Text} {b : UInt8} (hb : b ∈ s) (hhigh : ¬ b < 0x80) :
    ofName (Text.lower s) = info := by
  obtain ⟨x, hx, hforeign⟩ := Text.exists_mem_lower hb hhigh
  apply ofName_eq_info
  intro l hl heq
  rw [heq] at hx
  rw [isForeign_of_mem_name hl hx] at hforeign
  cases hforeign

end Log.Level

/-! ### The threshold of the command -/

/-- What `LOG_LEVEL` reads: the variable, the key in the active file or the default. -/
def Settings.thresholdText (folder : Folder) (env : Environment) : Text :=
  value env (activeFile folder env) "LOG_LEVEL" "info"

private theorem Settings.thresholdText_of_variable {env : Environment} {s : Text}
    (hset : env.get? "LOG_LEVEL" = some s) (hs : s ≠ []) (folder : Folder) : thresholdText folder env = s := by
  have hnonempty : env.nonempty? "LOG_LEVEL" = some s := by
    rw [Environment.nonempty?, hset, Option.filter_some, if_pos (by simpa using hs)]
  rw [thresholdText, value, hnonempty]
  rfl

namespace Command

/-- The threshold of the command if `LOG_LEVEL` reads `s`. -/
def thresholdFor (s : Text) : Log.Level := Log.Level.ofName (Text.lower s)

/-- The command logs from the threshold that its text names up to the case of ASCII letters, and from `info` if the
text is no such name.  Without lower case the names would have to be exact, and a character outside ASCII is never
taken for a letter of a name, whatever its lower case. -/
theorem threshold_of_text (s : Text) :
    (∀ (folder : Folder) (env : Environment),
      (env.get? "LOG_LEVEL" = some s → s ≠ [] → Settings.thresholdText folder env = s) ∧
      (Settings.thresholdText folder env = s → ∀ (id : RunId) (now : Moment) (stdout : StandardOutput),
        let settings := Settings.load folder env
        let result := (Run.settle id .standard stdout.sink).result
        let events := started settings :: Run.eventsFor id Employee.standard.name result ++ closing result
        (run folder env id now stdout).stderr =
          (events.filter (thresholdFor s ≤ ·.level)).flatMap
            ((Log.Form.ofEnvironment settings.environment { coloured := colours env }).line now))) ∧
    (∀ l ∈ Log.Level.selectable, thresholdFor s = l ↔ Text.smallLetters s = l.name) ∧
    ((∀ l ∈ Log.Level.selectable, Text.smallLetters s ≠ l.name) → thresholdFor s = .info) ∧
    (∀ s', Text.smallLetters s' = Text.smallLetters s → thresholdFor s' = thresholdFor s) ∧
    (∀ l ∈ Log.Level.selectable, Log.Level.ofName s = l ↔ s = l.name) ∧
    (∀ (before : Text) (c : Char) (after : Text), s = before ++ Text.ofChar c ++ after → 0x80 ≤ c.toNat →
      thresholdFor s = .info) := by
  have hsmall : ∀ t, thresholdFor t = Log.Level.ofName (Text.smallLetters t) := Log.Level.ofName_lower
  refine ⟨?_, ?_, ?_, ?_, ?_, ?_⟩
  · intro folder env
    refine ⟨fun hset hs => Settings.thresholdText_of_variable hset hs folder, ?_⟩
    rintro rfl id now stdout
    exact stderr_run folder env id now stdout
  · intro l hl
    rw [hsmall]
    exact Log.Level.ofName_eq_iff hl
  · intro hother
    rw [hsmall]
    exact Log.Level.ofName_eq_info hother
  · intro s' hs'
    rw [hsmall, hsmall, hs']
  · intro l hl
    exact Log.Level.ofName_eq_iff hl
  · rintro before c after rfl hc
    obtain ⟨b, hb⟩ := List.exists_mem_of_ne_nil _ (Text.ofChar_ne_nil c)
    have hhigh : ¬ b < 0x80 := UInt8.not_lt.2 (Text.high_of_mem_ofChar hc hb)
    exact Log.Level.ofName_lower_of_high (by simp [hb]) hhigh

/-- A variable in mixed case sets the threshold, although the log itself knows no such name; the kelvin sign, whose
lower case is `k`, leaves it at `info`. -/
theorem threshold_of_text_mixed :
    Settings.thresholdText [] [("LOG_LEVEL", "WaRn")] = Text.ofString "WaRn" ∧
      thresholdFor "WaRn" = .warn ∧ Log.Level.ofName "WaRn" ≠ .warn ∧ thresholdFor "warn" = thresholdFor "WaRn" ∧
      thresholdFor (Text.ofString "warn" ++ Text.ofChar '\u212A' ++ []) = .info := by
  obtain ⟨hgiven, hselect, -, hsame, hexact, -⟩ := threshold_of_text "WaRn"
  refine ⟨(hgiven [] _).1 rfl (by decide), (hselect .warn (by decide)).2 (by decide), ?_, hsame _ (by decide), ?_⟩
  · rw [Ne, hexact .warn (by decide)]
    decide
  · exact (threshold_of_text _).2.2.2.2.2 _ _ _ rfl (by decide)

end Command

end PayRun
