import Mathlib
import PayRun.Log.Console
import PayRun.Log.Json

/-!
# Reading with quotes

A reader of a line passes over it byte by byte and stands outside double quotes, inside them, or after a backslash
inside them (`Text.Place`).  Separators count only outside (`Text.cut`).  A text between quotes, in JSON as on a
console, never ends its line and never lets the reader out of the quotes, whatever bytes it was made from.
-/

namespace PayRun

namespace Text

/-- Where a reader of a line stands. -/
inductive Place where
  | outside
  | inside
  /-- After a backslash inside quotes, which takes the next byte along. -/
  | escaped
  deriving DecidableEq

def Place.next : Place → UInt8 → Place
  | .outside, b => if b = doubleQuote then .inside else .outside
  | .inside, b => if b = doubleQuote then .outside else if b = backslash then .escaped else .inside
  | .escaped, _ => .inside

def Place.after (p : Place) (t : Text) : Place := t.foldl Place.next p

/-- Cuts a text at the separators outside quotes. -/
def cut (sep : UInt8) : Place → Text → List Text
  | _, [] => [[]]
  | p, b :: rest =>
    if p = .outside ∧ b = sep then [] :: cut sep .outside rest
    else (cut sep (p.next b) rest).modifyHead (b :: ·)

/-- The text takes a reader from one place to another and holds neither a newline nor a separator outside quotes. -/
inductive Crosses (sep : UInt8) : Place → Text → Place → Prop
  | nil (p : Place) : Crosses sep p [] p
  | cons {p q : Place} {b : UInt8} {t : Text} (hline : b ≠ newline) (hsep : ¬ (p = .outside ∧ b = sep))
      (ht : Crosses sep (p.next b) t q) : Crosses sep p (b :: t) q

/-! ### Cutting -/

variable {sep : UInt8} {p q r : Place} {a t : Text}

private theorem cut_ne_nil (sep : UInt8) (p : Place) (t : Text) : cut sep p t ≠ [] := by
  induction t generalizing p with
  | nil => simp [cut]
  | cons b t ih =>
    unfold cut
    split
    · simp
    · cases hcut : cut sep (p.next b) t with
      | nil => exact absurd hcut (ih _)
      | cons w ws => simp

/-- A separator after a text that leaves the reader outside quotes is one to cut at. -/
private theorem cut_append_sep (hsep : sep ≠ doubleQuote) (hafter : p.after t = .outside) (rest : Text) :
    cut sep p (t ++ sep :: rest) = cut sep p t ++ cut sep .outside rest := by
  induction t generalizing p with
  | nil =>
    have hp : p = .outside := hafter
    simp [cut, hp]
  | cons b t ih =>
    have hafter' : (p.next b).after t = .outside := hafter
    by_cases hcut : p = .outside ∧ b = sep
    · -- a separator inside the text: the reader stays outside, since it is no quote
      obtain ⟨rfl, rfl⟩ := hcut
      have hnext : Place.outside.next b = .outside := if_neg hsep
      rw [hnext] at hafter'
      simp [cut, ih hafter']
    · rw [List.cons_append, cut, if_neg hcut, ih hafter', cut, if_neg hcut]
      cases hfirst : cut sep (p.next b) t with
      | nil => exact absurd hfirst (cut_ne_nil _ _ _)
      | cons w ws => rfl

theorem cut_intercalate (sep : UInt8) (hsep : sep ≠ doubleQuote) {parts : List Text} (hne : parts ≠ [])
    (hparts : ∀ t ∈ parts, Place.outside.after t = .outside) :
    cut sep .outside ([sep].intercalate parts) = parts.flatMap (cut sep .outside) := by
  induction parts with
  | nil => exact absurd rfl hne
  | cons t parts ih =>
    cases parts with
    | nil => simp
    | cons t' parts =>
      have ih' := ih (by simp) fun x hx => hparts x (List.mem_cons_of_mem _ hx)
      rw [List.intercalate_cons_cons, List.append_assoc, List.singleton_append,
        cut_append_sep hsep (hparts t (by simp)), ih']
      rfl

theorem mem_intercalate {parts : List Text} {b : UInt8} (h : b ∈ [sep].intercalate parts) :
    b = sep ∨ ∃ t ∈ parts, b ∈ t := by
  induction parts with
  | nil => simp at h
  | cons t parts ih =>
    cases parts with
    | nil => exact .inr ⟨t, by simp, by simpa using h⟩
    | cons t' parts =>
      rw [List.intercalate_cons_cons, List.mem_append, List.mem_append, List.mem_singleton] at h
      rcases h with (h | h) | h
      · exact .inr ⟨t, by simp, h⟩
      · exact .inl h
      · rcases ih h with hb | ⟨x, hx, hb⟩
        · exact .inl hb
        · exact .inr ⟨x, List.mem_cons_of_mem _ hx, hb⟩

theorem mem_of_mem_cut {w : Text} (hw : w ∈ cut sep p t) {b : UInt8} (hb : b ∈ w) : b ∈ t := by
  induction t generalizing p w with
  | nil =>
    simp only [cut, List.mem_singleton] at hw
    rw [hw] at hb
    exact hb
  | cons x t ih =>
    unfold cut at hw
    split at hw
    · rcases List.mem_cons.1 hw with rfl | hw
      · cases hb
      · exact List.mem_cons_of_mem _ (ih hw hb)
    · cases hrest : cut sep (p.next x) t with
      | nil => exact absurd hrest (cut_ne_nil _ _ _)
      | cons v vs =>
        rw [hrest] at hw
        rcases List.mem_cons.1 hw with rfl | hw
        · rcases List.mem_cons.1 hb with rfl | hb
          · exact List.mem_cons_self
          · exact List.mem_cons_of_mem _ (ih (hrest ▸ List.mem_cons_self) hb)
        · exact List.mem_cons_of_mem _ (ih (hrest ▸ List.mem_cons_of_mem _ hw) hb)

/-! ### Crossing -/

namespace Crosses

theorem append (ha : Crosses sep p a q) (ht : Crosses sep q t r) : Crosses sep p (a ++ t) r := by
  induction ha with
  | nil p => exact ht
  | cons hline hsep _ ih => exact .cons hline hsep (ih ht)

theorem flatMap {α : Type} {l : List α} {f : α → Text} (h : ∀ x ∈ l, Crosses sep p (f x) p) :
    Crosses sep p (l.flatMap f) p := by
  induction l with
  | nil => exact .nil p
  | cons x l ih => exact (h x (by simp)).append (ih fun y hy => h y (by simp [hy]))

theorem newline_not_mem (h : Crosses sep p t q) : newline ∉ t := by
  induction h with
  | nil p => simp
  | cons hline _ _ ih => simp [ih, hline.symm]

theorem after_eq (h : Crosses sep p t q) : p.after t = q := by
  induction h with
  | nil p => rfl
  | cons _ _ _ ih => exact ih

theorem cut_eq (h : Crosses sep p t q) : cut sep p t = [t] := by
  induction h with
  | nil p => rfl
  | cons _ hsep _ ih => rw [cut, if_neg hsep, ih]; rfl

theorem flatMap_cut {parts : List Text} (h : ∀ t ∈ parts, Crosses sep p t q) : parts.flatMap (cut sep p) = parts := by
  calc parts.flatMap (cut sep p) = parts.flatMap fun t => [t] := List.flatMap_congr fun t ht => (h t ht).cut_eq
    _ = parts := by simp

/-- A text without quotes and separators, outside quotes. -/
theorem of_outside (h : ∀ b ∈ t, b ≠ newline ∧ b ≠ doubleQuote ∧ b ≠ sep) : Crosses sep .outside t .outside := by
  induction t with
  | nil => exact .nil _
  | cons b t ih =>
    obtain ⟨hline, hquote, hsep⟩ := h b (by simp)
    refine .cons hline (fun hb => hsep hb.2) ?_
    rw [Place.next, if_neg hquote]
    exact ih fun x hx => h x (by simp [hx])

theorem of_all_outside (h : t.all (fun b => decide (b ≠ newline ∧ b ≠ doubleQuote ∧ b ≠ sep)) = true) :
    Crosses sep .outside t .outside :=
  of_outside fun b hb => of_decide_eq_true (List.all_eq_true.1 h b hb)

/-- A text without quotes and backslashes, inside quotes. -/
private theorem of_inside (h : ∀ b ∈ t, b ≠ newline ∧ b ≠ doubleQuote ∧ b ≠ backslash) :
    Crosses sep .inside t .inside := by
  induction t with
  | nil => exact .nil _
  | cons b t ih =>
    obtain ⟨hline, hquote, hescape⟩ := h b (by simp)
    refine .cons hline (by simp) ?_
    rw [Place.next, if_neg hquote, if_neg hescape]
    exact ih fun x hx => h x (by simp [hx])

private theorem escape {b : UInt8} (hb : b ≠ newline) : Crosses sep .inside [backslash, b] .inside :=
  .cons (by decide) (by simp) (.cons hb (fun h => absurd h.1 (by decide)) (.nil _))

theorem quoted (hsep : sep ≠ doubleQuote) (h : Crosses sep .inside t .inside) :
    Crosses sep .outside (doubleQuote :: t ++ [doubleQuote]) .outside := by
  have hclose : Crosses sep .inside [doubleQuote] .outside := .cons (by decide) (by simp) (.nil _)
  exact .cons (by decide) (fun hb => hsep hb.2.symm) (h.append hclose)

end Crosses

/-! ### Characters inside quotes -/

/-- The bytes of a character: its code alone, or none below 128. -/
theorem mem_ofChar {c : Char} {b : UInt8} (h : b ∈ ofChar c) : b.toNat = c.toNat ∨ 128 ≤ b.toNat := by
  have htoNat : c.val.toNat = c.toNat := rfl
  unfold ofChar String.utf8EncodeChar at h
  simp only [htoNat] at h
  split at h
  · rw [List.mem_singleton.1 h, UInt8.toNat_ofNat']
    omega
  · right
    split at h
    · simp only [List.mem_cons, List.not_mem_nil, or_false] at h
      rcases h with rfl | rfl <;> rw [UInt8.toNat_ofNat'] <;> omega
    · split at h
      · simp only [List.mem_cons, List.not_mem_nil, or_false] at h
        rcases h with rfl | rfl | rfl <;> rw [UInt8.toNat_ofNat'] <;> omega
      · simp only [List.mem_cons, List.not_mem_nil, or_false] at h
        rcases h with rfl | rfl | rfl | rfl <;> rw [UInt8.toNat_ofNat'] <;> omega

private theorem ne_of_mem_ofChar {c d : Char} (hd : d.toNat < 128) (hne : c ≠ d) {b : UInt8} (h : b ∈ ofChar c) :
    b ≠ UInt8.ofNat d.toNat := by
  rintro rfl
  have htoNat : (UInt8.ofNat d.toNat).toNat = d.toNat := by
    rw [UInt8.toNat_ofNat']
    omega
  rcases mem_ofChar h with hcode | hhigh
  · exact hne (Char.toNat_inj.1 (hcode.symm.trans htoNat))
  · omega

/-- The characters that cannot stand inside quotes as they are. -/
def specials : List Char := ['\n', '"', '\\']

private theorem crosses_ofChar {c : Char} (h : c ∉ specials) : Crosses sep .inside (ofChar c) .inside := by
  simp only [specials, List.mem_cons, List.not_mem_nil, or_false, not_or] at h
  obtain ⟨hline, hquote, hescape⟩ := h
  exact .of_inside fun b hb =>
    ⟨ne_of_mem_ofChar (by decide) hline hb, ne_of_mem_ofChar (by decide) hquote hb,
      ne_of_mem_ofChar (by decide) hescape hb⟩

/-- A table of short escapes that covers the special characters, each by a letter. -/
def Escapes (table : List (Char × Char)) : Prop :=
  (specials.all fun c => (table.lookup c).isSome) ∧ ∀ e ∈ table, ofChar e.2 = [e.2.toUInt8] ∧ e.2.toUInt8 ≠ newline

instance (table : List (Char × Char)) : Decidable (Escapes table) := inferInstanceAs (Decidable (_ ∧ _))

private theorem Escapes.crosses_letter {table : List (Char × Char)} (h : Escapes table) {c letter : Char}
    (hlookup : table.lookup c = some letter) : Crosses sep .inside (backslash :: ofChar letter) .inside := by
  obtain ⟨before, later, rfl, -⟩ := List.lookup_eq_some_iff.1 hlookup
  obtain ⟨hletter, hline⟩ := h.2 (c, letter) (by simp)
  rw [hletter]
  exact .escape hline

private theorem Escapes.not_mem_specials {table : List (Char × Char)} (h : Escapes table) {c : Char}
    (hlookup : table.lookup c = none) : c ∉ specials := by
  intro hc
  have hsome := List.all_eq_true.1 h.1 c hc
  rw [hlookup] at hsome
  cases hsome

end Text

open Text

/-! ### Plain bytes -/

namespace Log.Console

theorem ne_of_isPlain {b : UInt8} (h : isPlain b = true) :
    b ≠ newline ∧ b ≠ doubleQuote ∧ b ≠ backslash ∧ b ≠ ' '.toUInt8 := by
  revert b
  decide +kernel

private theorem isPlain_hexDigit {n : Nat} (h : n < 16) : isPlain (hexDigit n) = true := by
  revert n
  decide

theorem isPlain_of_mem_hex {width n : Nat} {b : UInt8} (h : b ∈ hex width n) : isPlain b = true := by
  induction width generalizing n with
  | zero => cases h
  | succ width ih =>
    rcases List.mem_append.1 h with h | h
    · exact ih h
    · rw [List.mem_singleton.1 h]
      exact isPlain_hexDigit (Nat.mod_lt _ (by decide))

end Log.Console

open Log Log.Console

/-! ### Quoted texts -/

private theorem Text.crosses_escaped_hex {sep : UInt8} (letter : UInt8) (hletter : letter ≠ newline) (width n : Nat) :
    Crosses sep .inside ([backslash, letter] ++ hex width n) .inside := by
  refine (Crosses.escape hletter).append (.of_inside fun b hb => ?_)
  obtain ⟨hline, hquote, hescape, -⟩ := ne_of_isPlain (isPlain_of_mem_hex hb)
  exact ⟨hline, hquote, hescape⟩

private theorem Text.crosses_quoteChar {sep : UInt8} (c : Char) : Crosses sep .inside (quoteChar c) .inside := by
  have htable : Escapes Text.shortEscapes := by decide
  unfold quoteChar
  split
  · rename_i letter hlookup
    exact htable.crosses_letter hlookup
  · rename_i hlookup
    have hordinary : Crosses sep .inside (ofChar c) .inside := crosses_ofChar (htable.not_mem_specials hlookup)
    split_ifs
    · exact hordinary
    · exact crosses_escaped_hex 0x78 (by decide) 2 c.toNat
    · exact crosses_escaped_hex 0x75 (by decide) 4 c.toNat
    · exact crosses_escaped_hex 0x55 (by decide) 8 c.toNat

/-- A quoted text is one piece of its line. -/
theorem Text.crosses_quote {sep : UInt8} (hsep : sep ≠ doubleQuote) (t : Text) :
    Crosses sep .outside (quote t) .outside := by
  refine .quoted hsep (.flatMap fun piece _ => ?_)
  cases piece with
  | char c => exact crosses_quoteChar c
  | stray bytes => exact .flatMap fun b _ => crosses_escaped_hex 0x78 (by decide) 2 b.toNat

private theorem Log.Json.crosses_escapeChar {sep : UInt8} (c : Char) :
    Crosses sep .inside (escapeChar c) .inside := by
  have htable : Escapes Json.shortEscapes := by decide
  unfold escapeChar
  split
  · rename_i letter hlookup
    exact htable.crosses_letter hlookup
  · rename_i hlookup
    split
    · exact crosses_escaped_hex 0x75 (by decide) 4 c.toNat
    · exact crosses_ofChar (htable.not_mem_specials hlookup)

/-- A JSON string is one piece of its line. -/
theorem Log.Json.crosses_string {sep : UInt8} (hsep : sep ≠ doubleQuote) (t : Text) :
    Crosses sep .outside (string t) .outside := by
  refine .quoted hsep (.flatMap fun piece _ => ?_)
  cases piece with
  | char c => exact crosses_escapeChar c
  | stray bytes =>
    refine .flatMap fun b _ => ?_
    have hreplaced : ofString "\\ufffd" = [backslash, 0x75] ++ hex 4 0xFFFD := by decide
    rw [hreplaced]
    exact crosses_escaped_hex 0x75 (by decide) 4 0xFFFD

/-! ### Texts that need no quotes -/

theorem Text.pieces_of_ascii {t : Text} (h : ∀ b ∈ t, b < 0x80) :
    pieces t = t.map fun b => .char (Char.ofNat b.toNat) := by
  induction t with
  | nil => simp
  | cons b t ih =>
    have hb : b < 0x80 := h b (by simp)
    rw [pieces_cons, readPiece, if_pos hb, List.map_cons, ih fun x hx => h x (by simp [hx])]

/-- If each byte of an ASCII text is written as itself, so is the text. -/
private theorem Text.flatMap_pieces_of_ascii {f : Piece → Text} {t : Text} (h : ∀ b ∈ t, b < 0x80)
    (hf : ∀ b ∈ t, f (.char (Char.ofNat b.toNat)) = [b]) : (pieces t).flatMap f = t := by
  rw [pieces_of_ascii h, List.flatMap_map]
  calc t.flatMap _ = t.flatMap fun b => [b] := List.flatMap_congr hf
    _ = t := by simp

theorem Text.repair_of_ascii {t : Text} (h : ∀ b ∈ t, b < 0x80) : repair t = t := by
  have hchar : ∀ b : UInt8, b < 0x80 → ofChar (Char.ofNat b.toNat) = [b] := by decide +kernel
  exact flatMap_pieces_of_ascii h fun b hb => hchar b (h b hb)

theorem Log.Json.string_of_plain {t : Text} (h : ∀ b ∈ t, isPlain b = true) :
    string t = doubleQuote :: t ++ [doubleQuote] := by
  have hascii : ∀ b : UInt8, isPlain b = true → b < 0x80 := by decide +kernel
  have hchar : ∀ b : UInt8, isPlain b = true → escapeChar (Char.ofNat b.toNat) = [b] := by decide +kernel
  have hbody : (pieces t).flatMap escapePiece = t :=
    flatMap_pieces_of_ascii (fun b hb => hascii b (h b hb)) fun b hb => hchar b (h b hb)
  rw [string, hbody]

end PayRun
