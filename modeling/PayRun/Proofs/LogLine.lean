import Mathlib
import PayRun.Log.Logger
import PayRun.Proofs.Digits
import PayRun.Proofs.Printing
import PayRun.Proofs.Quotes

/-!
# Reading a log line

An event whose keys are names and whose message is ordinary text is written as one line, in JSON as on a console
without colours.  Each of its fields can be found again under its key, and nothing else can: a value may hold any
bytes, but it stays in its own cell of the line (`Log.Form.find_line`).
-/

namespace PayRun.Log

open Text

/-- May the byte stand in the name of a field? -/
def isNameByte (b : UInt8) : Bool := (0x61 ≤ b && b ≤ 0x7A) || b == 0x5F

/-- May the byte stand on a console line before the fields? -/
def isHeadByte (b : UInt8) : Bool := b != newline && b != doubleQuote && b != '='.toUInt8

/-- A key of small letters and low lines that is not shown at the head of a line. -/
def IsName (k : Text) : Prop := k ≠ [] ∧ k ∉ Console.headKeys ∧ k.all isNameByte = true

instance (k : Text) : Decidable (IsName k) := inferInstanceAs (Decidable (_ ∧ _))

/-- Keys and a message that a reader can tell from values. -/
def Readable (keys : List Text) (message : Text) : Prop :=
  (∀ k ∈ keys, IsName k) ∧ keys.Nodup ∧ message ≠ [] ∧ repair message = message ∧ message.all isHeadByte = true

instance (keys : List Text) (message : Text) : Decidable (Readable keys message) :=
  inferInstanceAs (Decidable (_ ∧ _))

def Event.Plain (e : Event) : Prop := Readable (e.fields.map Field.key) e.message

/-! ### Reading -/

namespace Form

/-- What stands between two cells of a line. -/
def separator : Form → UInt8
  | .json => ','.toUInt8
  | .console _ => ' '.toUInt8

/-- What stands between a key and its value. -/
def mark : Form → UInt8
  | .json => ':'.toUInt8
  | .console _ => '='.toUInt8

/-- How a text of letters, digits and hyphens is written. -/
def bare : Form → Text → Text
  | .json, t => doubleQuote :: t ++ [doubleQuote]
  | .console _, t => t

def valueText : Form → Value → Text
  | .json, v => Json.value v
  | .console _, v => Console.valueText v

/-- The part of a line that holds the cells: in JSON what stands between the braces. -/
def content : Form → Text → Text
  | .json, body => body.tail.dropLast
  | .console _, body => body

def cell (form : Form) (f : Field) : Text := form.bare f.key ++ form.mark :: form.valueText f.value

/-- The texts that a reader of a line finds under a key. -/
def find (form : Form) (key body : Text) : List Text :=
  (cut form.separator .outside (form.content body)).filterMap (List.isPrefixOf? (form.bare key ++ [form.mark]))

def Uncoloured (form : Form) : Prop := ∀ style, form = .console style → style.coloured = false

private theorem separator_ne (form : Form) : form.separator ≠ newline ∧ form.separator ≠ doubleQuote := by
  have hcomma : ','.toUInt8 ≠ newline ∧ ','.toUInt8 ≠ doubleQuote := by decide
  have hblank : ' '.toUInt8 ≠ newline ∧ ' '.toUInt8 ≠ doubleQuote := by decide
  cases form with
  | json => exact hcomma
  | console style => exact hblank

theorem bare_injective (form : Form) : form.bare.Injective := by
  intro k k' h
  cases form with
  | json => exact List.append_cancel_right (List.cons.inj h).2
  | console style => exact h

theorem uncoloured_ofEnvironment {style : Console.Style} (h : style.coloured = false) (environment : Text) :
    (ofEnvironment environment style).Uncoloured := by
  intro style' heq
  unfold ofEnvironment at heq
  split at heq
  · cases heq
    exact h
  · cases heq

end Form

private theorem eq_of_append_mark {mark : UInt8} {k k' a a' : Text} (hk : mark ∉ k) (hk' : mark ∉ k')
    (h : k ++ mark :: a = k' ++ mark :: a') : k = k' := by
  have hsplit := congrArg (List.splitOn mark) h
  rw [List.splitOn_append_cons_self_of_not_mem hk, List.splitOn_append_cons_self_of_not_mem hk'] at hsplit
  exact (List.cons.inj hsplit).1

private theorem isPrefixOf?_mark {mark : UInt8} {k k' : Text} (hk : mark ∉ k) (hk' : mark ∉ k') (v : Text) :
    (k ++ [mark]).isPrefixOf? (k' ++ mark :: v) = if k' = k then some v else none := by
  split
  · rename_i heq
    rw [List.isPrefixOf?_eq_some_iff_append_eq, heq]
    simp
  · rename_i hne
    rw [Option.eq_none_iff_forall_ne_some]
    intro rest hrest
    rw [List.isPrefixOf?_eq_some_iff_append_eq, List.append_assoc] at hrest
    exact hne (eq_of_append_mark hk hk' hrest).symm

private theorem isPrefixOf?_of_not_mem {mark : UInt8} {w : Text} (hw : mark ∉ w) (k : Text) :
    (k ++ [mark]).isPrefixOf? w = none := by
  rw [Option.eq_none_iff_forall_ne_some]
  intro rest hrest
  rw [List.isPrefixOf?_eq_some_iff_append_eq] at hrest
  exact hw (hrest ▸ by simp)

/-- Among fields with different keys only one has a given key. -/
private theorem filter_key {l : List Field} (hdistinct : (l.map Field.key).Nodup) {f : Field} (hf : f ∈ l) :
    l.filter (·.key = f.key) = [f] := by
  induction l with
  | nil => cases hf
  | cons g l ih =>
    obtain ⟨hg, hdistinct⟩ := List.nodup_cons.1 hdistinct
    rcases List.mem_cons.1 hf with rfl | hf
    · have hnone : l.filter (·.key = f.key) = [] := by
        refine List.filter_eq_nil_iff.2 fun x hx hxf => hg ?_
        rw [← of_decide_eq_true hxf]
        exact List.mem_map_of_mem hx
      rw [List.filter_cons_of_pos (by simp), hnone]
    · have hne : g.key ≠ f.key := fun hkey => hg (hkey ▸ List.mem_map_of_mem hf)
      rw [List.filter_cons_of_neg (by simp [hne]), ih hdistinct hf]

/-- Words without a mark, and fields with different keys whose cells stay whole on the line. -/
structure Form.Holds (form : Form) (words : List Text) (fields : List Field) : Prop where
  words : ∀ t ∈ words, Crosses form.mark .outside t .outside ∧ form.mark ∉ t
  cells : ∀ g ∈ fields, Crosses form.separator .outside (form.cell g) .outside
  marks : ∀ g ∈ fields, form.mark ∉ form.bare g.key
  distinct : (fields.map Field.key).Nodup

namespace Form.Holds

variable {form : Form} {words : List Text} {fields : List Field}

theorem newline_not_mem (h : form.Holds words fields) :
    newline ∉ [form.separator].intercalate (words ++ fields.map form.cell) := by
  intro hmem
  rcases mem_intercalate hmem with heq | ⟨t, ht, hnewline⟩
  · exact form.separator_ne.1 heq.symm
  · rcases List.mem_append.1 ht with ht | ht
    · exact (h.words t ht).1.newline_not_mem hnewline
    · obtain ⟨g, hg, rfl⟩ := List.mem_map.1 ht
      exact (h.cells g hg).newline_not_mem hnewline

/-- A reader finds the words, cut further or not, and then the cells. -/
theorem cut_eq (h : form.Holds words fields) (hne : fields ≠ []) :
    cut form.separator .outside ([form.separator].intercalate (words ++ fields.map form.cell)) =
      words.flatMap (cut form.separator .outside) ++ fields.map form.cell := by
  have hcells : ∀ t ∈ fields.map form.cell, Crosses form.separator .outside t .outside := by
    intro t ht
    obtain ⟨g, hg, rfl⟩ := List.mem_map.1 ht
    exact h.cells g hg
  have hafter : ∀ t ∈ words ++ fields.map form.cell, Place.outside.after t = .outside := by
    intro t ht
    rcases List.mem_append.1 ht with ht | ht
    · exact (h.words t ht).1.after_eq
    · exact (hcells t ht).after_eq
  rw [cut_intercalate _ form.separator_ne.2 (by simp [hne]) hafter, List.flatMap_append, Crosses.flatMap_cut hcells]

private theorem find_eq (h : form.Holds words fields) {f : Field} (hf : f ∈ fields) :
    (cut form.separator .outside ([form.separator].intercalate (words ++ fields.map form.cell))).filterMap
      (List.isPrefixOf? (form.bare f.key ++ [form.mark])) = [form.valueText f.value] := by
  have hwords : (words.flatMap (cut form.separator .outside)).filterMap
      (List.isPrefixOf? (form.bare f.key ++ [form.mark])) = [] := by
    refine List.filterMap_eq_nil_iff.2 fun w hw => ?_
    obtain ⟨t, ht, hwt⟩ := List.mem_flatMap.1 hw
    exact isPrefixOf?_of_not_mem (fun hmark => (h.words t ht).2 (mem_of_mem_cut hwt hmark)) _
  have hcell : ∀ g ∈ fields, (List.isPrefixOf? (form.bare f.key ++ [form.mark]) ∘ form.cell) g =
      (Option.guard (·.key = f.key) g).map fun g => form.valueText g.value := by
    intro g hg
    rw [Function.comp_apply, cell, isPrefixOf?_mark (h.marks f hf) (h.marks g hg)]
    by_cases hkey : g.key = f.key
    · simp [Option.guard, hkey]
    · simp [Option.guard, hkey, form.bare_injective.eq_iff]
  rw [h.cut_eq (List.ne_nil_of_mem hf), List.filterMap_append, hwords, List.nil_append, List.filterMap_map,
    List.filterMap_congr hcell, ← List.map_filterMap, List.filterMap_eq_filter, filter_key h.distinct hf]
  rfl

end Form.Holds

/-! ### Names and numbers -/

private theorem plain_of_isNameByte {b : UInt8} (h : isNameByte b = true) :
    b < 0x80 ∧ Console.isPlain b = true ∧ b ≠ '='.toUInt8 ∧ b ≠ ':'.toUInt8 := by
  revert b
  decide +kernel

theorem IsName.byte {k : Text} (h : IsName k) {b : UInt8} (hb : b ∈ k) :
    b < 0x80 ∧ Console.isPlain b = true ∧ b ≠ '='.toUInt8 ∧ b ≠ ':'.toUInt8 :=
  plain_of_isNameByte (List.all_eq_true.1 h.2.2 b hb)

private theorem IsName.repair_eq {k : Text} (h : IsName k) : repair k = k := repair_of_ascii fun _ hb => (h.byte hb).1

private theorem mem_ofInt {n : Int} {b : UInt8} (h : b ∈ ofInt n) : b = '-'.toUInt8 ∨ isDigit b = true := by
  unfold ofInt at h
  split at h
  · rcases List.mem_cons.1 h with h | h
    · exact .inl h
    · exact .inr (isDigit_of_mem_ofNat h)
  · exact .inr (isDigit_of_mem_ofNat h)

private theorem crosses_ofInt {sep : UInt8} (hsep : sep = ','.toUInt8 ∨ sep = ' '.toUInt8) (n : Int) :
    Crosses sep .outside (ofInt n) .outside := by
  have hbytes : ∀ b : UInt8, b = '-'.toUInt8 ∨ isDigit b = true →
      b ≠ newline ∧ b ≠ doubleQuote ∧ b ≠ ','.toUInt8 ∧ b ≠ ' '.toUInt8 := by decide +kernel
  refine .of_outside fun b hb => ?_
  obtain ⟨hline, hquote, hcomma, hblank⟩ := hbytes b (mem_ofInt hb)
  refine ⟨hline, hquote, ?_⟩
  rcases hsep with rfl | rfl
  · exact hcomma
  · exact hblank

private theorem crosses_boolText {sep : UInt8} (hsep : sep = ','.toUInt8 ∨ sep = ' '.toUInt8) (b : Bool) :
    Crosses sep .outside (boolText b) .outside := by
  refine .of_all_outside ?_
  rcases hsep with rfl | rfl <;> cases b <;> decide

/-! ### JSON -/

namespace Json

private theorem crosses_value (v : Value) : Crosses ','.toUInt8 .outside (value v) .outside := by
  cases v with
  | text t => exact crosses_string (by decide) t
  | int n => exact crosses_ofInt (.inl rfl) n
  | bool b => exact crosses_boolText (.inl rfl) b

private theorem crosses_member (f : Field) : Crosses ','.toUInt8 .outside (member f) .outside := by
  have hmark : Crosses ','.toUInt8 .outside (ofString ":") .outside := .of_all_outside (by decide)
  have hmember : member f = string f.key ++ (ofString ":" ++ value f.value) := by simp [member]
  rw [hmember]
  exact (crosses_string (by decide) f.key).append (hmark.append (crosses_value f.value))

/-- The keys of a JSON object for a plain event, which are all different. -/
private theorem keys_members {e : Event} (h : e.Plain) (now : Moment) :
    (members now e).map Field.key = levelKey :: e.fields.map Field.key ++ [timeKey, messageKey] := by
  simp [members, h.2.2.1]

private theorem nodup_keys_members {e : Event} (h : e.Plain) (now : Moment) :
    ((members now e).map Field.key).Nodup := by
  have hhead : ∀ k ∈ e.fields.map Field.key, k ≠ levelKey ∧ k ≠ timeKey ∧ k ≠ messageKey := by
    intro k hk
    have hk' := (h.1 k hk).2.1
    refine ⟨?_, ?_, ?_⟩ <;> rintro rfl <;> exact hk' (by simp [Console.headKeys])
  have hkeys : levelKey ≠ timeKey ∧ levelKey ≠ messageKey ∧ timeKey ≠ messageKey := by decide
  rw [keys_members h, List.cons_append, List.nodup_cons, List.nodup_append]
  refine ⟨?_, h.2.1, ?_, ?_⟩
  · intro hmem
    rcases List.mem_append.1 hmem with hmem | hmem
    · exact (hhead _ hmem).1 rfl
    · simp [hkeys] at hmem
  · simp [hkeys]
  · intro k hk k' hk'
    simp only [List.mem_cons, List.not_mem_nil, or_false] at hk'
    rcases hk' with rfl | rfl
    · exact (hhead k hk).2.1
    · exact (hhead k hk).2.2

private theorem plain_of_mem_members {e : Event} (h : e.Plain) {now : Moment} {f : Field} (hf : f ∈ members now e)
    {b : UInt8} (hb : b ∈ f.key) : Console.isPlain b = true ∧ b ≠ ':'.toUInt8 := by
  have hheads : ∀ k ∈ [levelKey, timeKey, messageKey], k.all isNameByte = true := by decide
  have hkey : f.key ∈ levelKey :: e.fields.map Field.key ++ [timeKey, messageKey] := by
    rw [← keys_members h now]
    exact List.mem_map_of_mem hf
  have hletters : f.key.all isNameByte = true := by
    by_cases hname : f.key ∈ e.fields.map Field.key
    · exact (h.1 _ hname).2.2
    · exact hheads f.key (by simpa [hname] using hkey)
  obtain ⟨-, hplain, -, hmark⟩ := plain_of_isNameByte (List.all_eq_true.1 hletters b hb)
  exact ⟨hplain, hmark⟩

end Json

/-! ### The console -/

namespace Console

private theorem crosses_valueText (v : Value) : Crosses ' '.toUInt8 .outside (valueText v) .outside := by
  cases v with
  | text t =>
    simp only [valueText]
    split
    · rename_i hplain
      refine .of_outside fun b hb => ?_
      obtain ⟨hline, hquote, -, hblank⟩ := ne_of_isPlain (List.all_eq_true.1 hplain b hb)
      exact ⟨hline, hquote, hblank⟩
    · exact crosses_quote (by decide) _
  | int n => exact crosses_ofInt (.inr rfl) n
  | bool b => exact crosses_boolText (.inr rfl) b

private theorem Style.paint_uncoloured {s : Style} (h : s.coloured = false) (code : Nat) (t : Text) :
    s.paint code t = t := by
  simp [paint, h]

private theorem fieldText_uncoloured {s : Style} (h : s.coloured = false) (f : Field) :
    fieldText s f = f.key ++ '='.toUInt8 :: valueText f.value := by
  simp [fieldText, Style.paint_uncoloured h]

/-! Fields with different names are listed once each, in an order of their own. -/

-- a new key is never equal to a kept one, so nothing is replaced
private theorem put_perm {f : Field} {l : List Field} (h : f.key ∉ l.map Field.key) : (put f l).Perm (f :: l) := by
  induction l with
  | nil => exact .refl _
  | cons g l ih =>
    simp only [List.map_cons, List.mem_cons, not_or] at h
    rw [put, if_neg h.1]
    split
    · exact .refl _
    · exact ((ih h.2).cons g).trans (.swap f g l)

private theorem foldl_put_perm {fields : List Field} (kept : List Field)
    (hrepair : ∀ f ∈ fields, repair f.key = f.key) (hdistinct : ((kept ++ fields).map Field.key).Nodup) :
    (fields.foldl (fun kept f => put ⟨repair f.key, f.value⟩ kept) kept).Perm (kept ++ fields) := by
  induction fields generalizing kept with
  | nil => simp
  | cons f fields ih =>
    have hf : (⟨repair f.key, f.value⟩ : Field) = f := by rw [hrepair f (by simp)]
    have hmiddle : (kept ++ f :: fields).Perm (f :: kept ++ fields) := List.perm_middle
    have hdistinct' := (hmiddle.map Field.key).nodup_iff.1 hdistinct
    have hkept : f.key ∉ kept.map Field.key := by
      simp only [List.cons_append, List.map_cons, List.map_append, List.nodup_cons, List.mem_append,
        not_or] at hdistinct'
      exact hdistinct'.1.1
    have hput : (put f kept ++ fields).Perm (f :: kept ++ fields) := (put_perm hkept).append_right fields
    rw [List.foldl_cons, hf]
    exact (ih _ (fun g hg => hrepair g (by simp [hg])) ((hput.map Field.key).nodup_iff.2 hdistinct')).trans
      (hput.trans hmiddle.symm)

private theorem record_perm {fields : List Field} (hnames : ∀ f ∈ fields, IsName f.key)
    (hdistinct : (fields.map Field.key).Nodup) : (record fields).Perm fields := by
  have hsorted := foldl_put_perm [] (fun f hf => (hnames f hf).repair_eq) hdistinct
  have hall : fields.filter (·.key ∉ headKeys) = fields :=
    List.filter_eq_self.2 fun f hf => decide_eq_true (hnames f hf).2.1
  calc (record fields).Perm (fields.filter (·.key ∉ headKeys)) := hsorted.filter _
    _ = fields := hall

private theorem errorFirst_perm {fields : List Field} (hnames : ∀ f ∈ fields, IsName f.key)
    (hdistinct : (fields.map Field.key).Nodup) : (errorFirst fields).Perm fields := by
  unfold errorFirst
  split
  · rename_i f hfind
    have hkey : f.key = errorKey := by simpa using List.find?_some hfind
    have hothers : fields.filter (fun g => g.key ≠ errorKey ∧ g.key ≠ []) =
        fields.filter (fun g => !decide (g.key = errorKey)) := by
      refine List.filter_congr fun g hg => ?_
      simp [(hnames g hg).1]
    have hone := filter_key hdistinct (List.mem_of_find?_eq_some hfind)
    rw [hkey] at hone
    rw [hothers]
    have hsplit := List.filter_append_perm (fun g : Field => decide (g.key = errorKey)) fields
    rw [hone] at hsplit
    exact hsplit
  · exact .refl _

/-- None of the fields is shown at the head of the line. -/
private theorem lastValue?_headKey {e : Event} (h : e.Plain) {key : Text} (hkey : key ∈ headKeys) :
    lastValue? key e.fields = none := by
  rw [lastValue?, Option.map_eq_none_iff, List.find?_eq_none]
  intro f hf heq
  have hname := h.1 f.key (List.mem_map_of_mem (List.mem_reverse.1 hf))
  rw [decide_eq_true_iff, hname.repair_eq] at heq
  exact hname.2.1 (heq ▸ hkey)

/-- The parts of the line of a plain event: the time, the level, the message and the fields, each once. -/
theorem parts_of_plain (s : Style) {e : Event} (h : e.Plain) (now : Moment) :
    ∃ (fields : List Field) (message : Text), fields.Perm e.fields ∧
      (message = e.message ∨ message = s.paint bold e.message) ∧
      parts s now e = s.paint grey now.kitchen :: levelText s (.text e.level.name) :: message ::
        fields.map (fieldText s) := by
  have hlevel : levelValue e = .text e.level.name := by
    rw [levelValue, lastValue?_headKey h (by simp [headKeys]), Option.getD_none]
  have hcaller : callerText? s e = none := by
    rw [callerText?, lastValue?_headKey h (by simp [headKeys])]
  obtain ⟨message, hmessage, hshown⟩ : ∃ message, messageText? s e = some message ∧
      (message = e.message ∨ message = s.paint bold e.message) := by
    obtain ⟨hne, hrepair, -⟩ := h.2.2
    have hvalue : messageValue? e = some (.text e.message) := if_neg hne
    have hhead : headText (.text e.message) = e.message := hrepair
    simp only [messageText?, hvalue, Value.text.injEq, hne, ↓reduceIte, hhead]
    split
    · exact ⟨_, rfl, .inr rfl⟩
    · exact ⟨_, rfl, .inl rfl⟩
  have hnames : ∀ f ∈ e.fields, IsName f.key := fun f hf => h.1 f.key (List.mem_map_of_mem hf)
  have hrecord := record_perm hnames h.2.1
  have herror : (errorFirst (record e.fields)).Perm (record e.fields) :=
    errorFirst_perm (fun f hf => hnames f (hrecord.mem_iff.1 hf)) ((hrecord.map Field.key).nodup_iff.2 h.2.1)
  refine ⟨errorFirst (record e.fields), message, herror.trans hrecord, hshown, ?_⟩
  rw [parts, hlevel, hcaller, hmessage]
  rfl

theorem levelText_name (s : Style) (l : Level) :
    levelText s (.text l.name) = levelLabel l ∨ ∃ code, levelText s (.text l.name) = s.paint code (levelLabel l) := by
  simp only [levelText, namedLevel?_name]
  split
  · exact .inr ⟨_, rfl⟩
  · exact .inl rfl

private theorem parts_of_uncoloured {s : Style} (hs : s.coloured = false) {e : Event} (h : e.Plain) (now : Moment) :
    ∃ fields : List Field, fields.Perm e.fields ∧
      parts s now e = now.kitchen :: levelLabel e.level :: e.message ::
        fields.map fun f => f.key ++ '='.toUInt8 :: valueText f.value := by
  obtain ⟨fields, message, hperm, hmessage, hparts⟩ := parts_of_plain s h now
  have hlevel : levelText s (.text e.level.name) = levelLabel e.level := by
    rcases levelText_name s e.level with hlabel | ⟨code, hlabel⟩
    · exact hlabel
    · rw [hlabel, Style.paint_uncoloured hs]
  have hfields : fieldText s = fun f => f.key ++ '='.toUInt8 :: valueText f.value :=
    funext (fieldText_uncoloured hs)
  rw [Style.paint_uncoloured hs, or_self] at hmessage
  rw [hlevel, hmessage, hfields, Style.paint_uncoloured hs] at hparts
  exact ⟨fields, hperm, hparts⟩

theorem isDigit_or_mem_of_mem_kitchen {now : Moment} {b : UInt8} (h : b ∈ now.kitchen) :
    isDigit b = true ∨ b ∈ ofString ":AMPM" := by
  have hletters : ofString ":AMPM" = ofString ":" ++ ofString "AM" ++ ofString "PM" := by decide
  rw [hletters, List.mem_append, List.mem_append]
  simp only [Moment.kitchen, List.flatten_cons, List.flatten_nil, List.append_nil, List.mem_append] at h
  rcases h with h | h | h | h
  · exact .inl (isDigit_of_mem_ofNat h)
  · exact .inr (.inl (.inl h))
  · exact .inl (isDigit_of_mem_ofNatPadded h)
  · split at h
    · exact .inr (.inl (.inr h))
    · exact .inr (.inr h)

private theorem isHeadByte_of_mem_kitchen {now : Moment} {b : UInt8} (h : b ∈ now.kitchen) : isHeadByte b = true := by
  have hdigit : ∀ b : UInt8, isDigit b = true → isHeadByte b = true := by decide +kernel
  have hletters : (ofString ":AMPM").all isHeadByte = true := by decide
  rcases isDigit_or_mem_of_mem_kitchen h with h | h
  · exact hdigit b h
  · exact List.all_eq_true.1 hletters b h

end Console

/-! ### Lines -/

private theorem Json.member_eq {e : Event} (h : e.Plain) {now : Moment} {g : Field} (hg : g ∈ members now e) :
    member g = Form.json.cell g := by
  have hstring := string_of_plain fun b hb => (plain_of_mem_members h hg hb).1
  have hcolon : ofString ":" = [Form.json.mark] := by decide
  simp [member, hstring, Form.cell, Form.bare, Form.valueText, hcolon]

private theorem Json.holds_members {e : Event} (h : e.Plain) (now : Moment) : Form.json.Holds [] (members now e) where
  words := by simp
  cells g hg := member_eq h hg ▸ crosses_member g
  marks g hg := by
    have hquote : Form.json.mark ≠ doubleQuote := by decide
    have hkey : Form.json.mark ∉ g.key := fun hmem => (plain_of_mem_members h hg hmem).2 rfl
    simp [Form.bare, hquote, hkey]
  distinct := nodup_keys_members h now

private theorem Console.holds_fields {s : Style} {e : Event} (h : e.Plain) (now : Moment) {fields : List Field}
    (hperm : fields.Perm e.fields) :
    (Form.console s).Holds [now.kitchen, levelLabel e.level, e.message] fields where
  words t ht := by
    have hlabel : (levelLabel e.level).all isHeadByte = true := by
      cases e.level <;> decide
    have hbytes : ∀ b ∈ t, isHeadByte b = true := by
      simp only [List.mem_cons, List.not_mem_nil, or_false] at ht
      rcases ht with rfl | rfl | rfl
      · exact fun b hb => isHeadByte_of_mem_kitchen hb
      · exact List.all_eq_true.1 hlabel
      · exact List.all_eq_true.1 h.2.2.2.2
    have hmark : isHeadByte '='.toUInt8 ≠ true := by decide
    refine ⟨.of_outside fun b hb => ?_, fun hmem => hmark (hbytes _ hmem)⟩
    simpa [isHeadByte, Form.mark, and_assoc] using hbytes b hb
  cells g hg := by
    have hname := h.1 g.key (List.mem_map_of_mem (hperm.mem_iff.1 hg))
    have hkey : Crosses ' '.toUInt8 .outside g.key .outside := by
      refine .of_outside fun b hb => ?_
      obtain ⟨hline, hquote, -, hblank⟩ := ne_of_isPlain (hname.byte hb).2.1
      exact ⟨hline, hquote, hblank⟩
    have hmark : Crosses ' '.toUInt8 .outside ['='.toUInt8] .outside := .of_all_outside (by decide)
    exact hkey.append (hmark.append (crosses_valueText g.value))
  marks g hg hmark :=
    ((h.1 g.key (List.mem_map_of_mem (hperm.mem_iff.1 hg))).byte hmark).2.2.1 rfl
  distinct := (hperm.map Field.key).nodup_iff.2 h.2.1

/-- The level, the time and the message are members of the object like the fields, and are found like them. -/
theorem Json.find_line {e : Event} (h : e.Plain) (now : Moment) {f : Field} (hf : f ∈ members now e) :
    ∃ body, line now e = body ++ [newline] ∧ newline ∉ body ∧ Form.json.find f.key body = [value f.value] := by
  have hholds := holds_members h now
  have hcells : (members now e).map member = (members now e).map Form.json.cell :=
    List.map_congr_left fun g hg => member_eq h hg
  have hbraces : newline ≠ '\x7b'.toUInt8 ∧ newline ≠ '\x7d'.toUInt8 := by decide
  refine ⟨'\x7b'.toUInt8 :: [','.toUInt8].intercalate ((members now e).map Form.json.cell) ++ ['\x7d'.toUInt8],
    ?_, ?_, ?_⟩
  · simp [line, hcells]
  · have hinner := hholds.newline_not_mem
    simp only [List.nil_append, Form.separator] at hinner
    simp [hinner, hbraces]
  · have hfind := hholds.find_eq hf
    simpa [Form.find, Form.content, Form.separator, Form.valueText] using hfind

/-- Every field of a plain event is found again on its line, and nothing else under its key. -/
theorem Form.find_line {form : Form} (hform : form.Uncoloured) {e : Event} (h : e.Plain) (now : Moment) {f : Field}
    (hf : f ∈ e.fields) :
    ∃ body, form.line now e = body ++ [newline] ∧ newline ∉ body ∧
      form.find f.key body = [form.valueText f.value] := by
  cases form with
  | json => exact Json.find_line h now (by simp [Json.members, hf])
  | console style =>
    obtain ⟨fields, hperm, hparts⟩ := Console.parts_of_uncoloured (hform style rfl) h now
    have hholds := Console.holds_fields (s := style) h now hperm
    refine ⟨_, ?_, hholds.newline_not_mem, hholds.find_eq (hperm.mem_iff.2 hf)⟩
    rw [line, Console.line, hparts]
    rfl

/-! ### One line for each event -/

theorem Console.not_mem_paint (s : Style) (code : Nat) {b : UInt8} (hdigit : isDigit b = false)
    (hcodes : b ∉ ofString "\x1b[m") {t : Text} (h : b ∉ t) : b ∉ s.paint code t := by
  have hnumber : b ∉ ofNat code := fun hmem => by simp [isDigit_of_mem_ofNat hmem] at hdigit
  have hreset : b ∉ ofString "\x1b[0m" := by
    have hbytes : (ofString "\x1b[0m").all (fun c => isDigit c || (ofString "\x1b[m").contains c) = true := by decide
    intro hmem
    have hb := List.all_eq_true.1 hbytes b hmem
    rw [hdigit, Bool.false_or, List.contains_iff_mem] at hb
    exact hcodes hb
  have hsplit : ofString "\x1b[m" = ofString "\x1b[" ++ ofString "m" := by decide
  rw [hsplit, List.mem_append, not_or] at hcodes
  unfold Style.paint
  split
  · simp [hnumber, hcodes, hreset, h]
  · exact h

private theorem Console.newline_not_mem_paint (s : Style) (code : Nat) {t : Text} (h : newline ∉ t) :
    newline ∉ s.paint code t := not_mem_paint s code (by decide) (by decide) h

private theorem Console.newline_not_mem_fieldText (s : Style) {f : Field} (h : newline ∉ f.key) :
    newline ∉ fieldText s f := by
  have hvalue := (crosses_valueText f.value).newline_not_mem
  have hkey : newline ∉ f.key ++ ['='.toUInt8] := by
    have hsign : newline ≠ '='.toUInt8 := by decide
    simp [h, hsign]
  unfold fieldText
  split
  · simp [newline_not_mem_paint s _ hkey, newline_not_mem_paint s _ (newline_not_mem_paint s _ hvalue)]
  · simp [newline_not_mem_paint s _ hkey, hvalue]

private theorem Console.newline_not_mem_parts (s : Style) {e : Event} (h : e.Plain) (now : Moment) {t : Text}
    (ht : t ∈ parts s now e) : newline ∉ t := by
  have hhead : isHeadByte newline ≠ true := by decide
  have hkitchen : newline ∉ now.kitchen := fun hmem => hhead (isHeadByte_of_mem_kitchen hmem)
  have hlabel : newline ∉ levelLabel e.level := by cases e.level <;> decide
  have htext : newline ∉ e.message := fun hmem => hhead (List.all_eq_true.1 h.2.2.2.2 _ hmem)
  obtain ⟨fields, message, hperm, hmessage, hparts⟩ := parts_of_plain s h now
  rw [hparts] at ht
  simp only [List.mem_cons, List.mem_map] at ht
  rcases ht with rfl | rfl | rfl | ⟨f, hf, rfl⟩
  · exact newline_not_mem_paint s _ hkitchen
  · rcases levelText_name s e.level with heq | ⟨code, heq⟩
    · rw [heq]
      exact hlabel
    · rw [heq]
      exact newline_not_mem_paint s code hlabel
  · rcases hmessage with rfl | rfl
    · exact htext
    · exact newline_not_mem_paint s _ htext
  · apply newline_not_mem_fieldText
    intro hmem
    have hname := h.1 f.key (List.mem_map_of_mem (hperm.mem_iff.1 hf))
    exact (ne_of_isPlain (hname.byte hmem).2.1).1 rfl

/-- A plain event is written as one line, with colours or without. -/
private theorem Form.line_of_plain (form : Form) {e : Event} (h : e.Plain) (now : Moment) :
    ∃ body, form.line now e = body ++ [newline] ∧ newline ∉ body := by
  have hseparator := form.separator_ne.1
  cases form with
  | json =>
    have hbraces : newline ≠ '\x7b'.toUInt8 ∧ newline ≠ '\x7d'.toUInt8 := by decide
    have hmembers : newline ∉ [','.toUInt8].intercalate ((Json.members now e).map Json.member) := by
      intro hmem
      rcases mem_intercalate hmem with heq | ⟨t, ht, hnewline⟩
      · exact hseparator heq.symm
      · obtain ⟨f, -, rfl⟩ := List.mem_map.1 ht
        exact (Json.crosses_member f).newline_not_mem hnewline
    refine ⟨'\x7b'.toUInt8 :: [','.toUInt8].intercalate ((Json.members now e).map Json.member) ++ ['\x7d'.toUInt8],
      ?_, ?_⟩
    · simp [line, Json.line]
    · simp [hmembers, hbraces]
  | console style =>
    refine ⟨[' '.toUInt8].intercalate (Console.parts style now e), rfl, ?_⟩
    intro hmem
    rcases mem_intercalate hmem with heq | ⟨t, ht, hnewline⟩
    · exact hseparator heq.symm
    · exact Console.newline_not_mem_parts style h now ht hnewline

/-- A log of plain events is read line by line, one line for each of them. -/
theorem Form.readLines_of_plain (form : Form) {events : List Event} (h : ∀ e ∈ events, e.Plain) (now : Moment) :
    readLines (events.flatMap (form.line now)) = events.map fun e => (form.line now e).dropLast := by
  have hlog : events.flatMap (form.line now) = ofLines (events.map fun e => (form.line now e).dropLast) := by
    rw [ofLines, List.flatMap_map]
    refine List.flatMap_congr fun e he => ?_
    obtain ⟨body, hbody, -⟩ := form.line_of_plain (h e he) now
    rw [hbody, List.dropLast_concat]
  rw [hlog]
  apply readLines_ofLines
  intro l hl
  obtain ⟨e, he, rfl⟩ := List.mem_map.1 hl
  obtain ⟨body, hbody, hnewline⟩ := form.line_of_plain (h e he) now
  rw [hbody, List.dropLast_concat]
  exact hnewline

/-- A text of plain bytes is written as it is. -/
theorem Form.valueText_of_plain (form : Form) {t : Text} (h : ∀ b ∈ t, Console.isPlain b = true) :
    form.valueText (.text t) = form.bare t := by
  cases form with
  | json => exact Json.string_of_plain h
  | console style => exact if_pos (List.all_eq_true.2 h)

end PayRun.Log
