import PayRun.Text.Basic

/-!
# Characters of a text

`Text.pieces` splits any text into characters and ill-formed parts.  An ill-formed part is a maximal one: the
longest start of a well-formed character that breaks off, or a single byte that starts none.  `Text.repair`
replaces each ill-formed byte by the replacement character.
-/

namespace PayRun.Text

inductive Piece where
  /-- A well-formed character. -/
  | char (c : Char)
  /-- Bytes that belong to no character. -/
  | stray (bytes : Text)
  deriving DecidableEq, Repr

def Piece.bytes : Piece → Text
  | .char c => ofChar c
  | .stray bytes => bytes

/-! ### Reading one character -/

/-- What the first byte of a character announces: how many bytes follow, which second bytes are allowed, and the
bits that the first byte itself contributes. -/
structure Lead where
  following : Nat
  low : UInt8
  high : UInt8
  bits : Nat

/-- The announcement of a byte, if a character of more than one byte starts with it. -/
def lead? (b : UInt8) : Option Lead :=
  if 0xC2 ≤ b ∧ b ≤ 0xDF then some ⟨1, 0x80, 0xBF, b.toNat % 32⟩
  else if b = 0xE0 then some ⟨2, 0xA0, 0xBF, 0⟩
  else if b = 0xED then some ⟨2, 0x80, 0x9F, 13⟩
  else if 0xE1 ≤ b ∧ b ≤ 0xEF then some ⟨2, 0x80, 0xBF, b.toNat % 16⟩
  else if b = 0xF0 then some ⟨3, 0x90, 0xBF, 0⟩
  else if 0xF1 ≤ b ∧ b ≤ 0xF3 then some ⟨3, 0x80, 0xBF, b.toNat % 8⟩
  else if b = 0xF4 then some ⟨3, 0x80, 0x8F, 4⟩
  else none

/-- Reads the `following` bytes of a character after those in `seen`, the latest one first.  The value so far is
`value`, and the next byte has to lie between `low` and `high`. -/
def readFollowing (following : Nat) (low high : UInt8) (value : Nat) (seen rest : Text) : Piece × Text :=
  match following, rest with
  | 0, rest => (.char (Char.ofNat value), rest)
  | _ + 1, [] => (.stray seen.reverse, [])
  | following + 1, b :: rest =>
    if low ≤ b ∧ b ≤ high then
      readFollowing following 0x80 0xBF (64 * value + b.toNat % 64) (b :: seen) rest
    else (.stray seen.reverse, b :: rest)

/-- The first part of a text that starts with `b`, and what follows it. -/
def readPiece (b : UInt8) (rest : Text) : Piece × Text :=
  if b < 0x80 then (.char (Char.ofNat b.toNat), rest)
  else
    match lead? b with
    | some l => readFollowing l.following l.low l.high l.bits [b] rest
    | none => (.stray [b], rest)

theorem readFollowing_length_le (following : Nat) (low high : UInt8) (value : Nat) (seen rest : Text) :
    (readFollowing following low high value seen rest).2.length ≤ rest.length := by
  fun_induction readFollowing following low high value seen rest with
  | case1 => simp
  | case2 => simp
  | case3 _ _ _ _ _ _ _ _ ih => simp only [List.length_cons]; omega
  | case4 => simp

theorem readPiece_length_le (b : UInt8) (rest : Text) : (readPiece b rest).2.length ≤ rest.length := by
  unfold readPiece
  split
  · simp
  · split
    · exact readFollowing_length_le ..
    · simp

/-! ### Reading a text -/

/-- Reads the parts of a text after those in `done`, the latest one first. -/
def readPieces (done : List Piece) : Text → List Piece
  | [] => done.reverse
  | b :: rest => readPieces ((readPiece b rest).1 :: done) (readPiece b rest).2
termination_by t => t.length
decreasing_by
  have := readPiece_length_le b rest
  simp only [List.length_cons]; omega

/-- The parts of a text in order. -/
def pieces (t : Text) : List Piece := readPieces [] t

theorem readPieces_eq (done : List Piece) (t : Text) : readPieces done t = done.reverse ++ pieces t := by
  induction h : t.length using Nat.strongRecOn generalizing done t with
  | _ n ih =>
    cases t with
    | nil => simp [pieces, readPieces]
    | cons b rest =>
      have hlt : (readPiece b rest).2.length < n := by
        have := readPiece_length_le b rest
        simp only [List.length_cons] at h; omega
      have hp : pieces (b :: rest) = [(readPiece b rest).1] ++ pieces (readPiece b rest).2 := by
        rw [pieces, readPieces, ih _ hlt _ _ rfl]; rfl
      rw [readPieces, ih _ hlt _ _ rfl, hp]
      simp

@[simp] theorem pieces_nil : pieces [] = [] := by simp [pieces, readPieces]

theorem pieces_cons (b : UInt8) (rest : Text) :
    pieces (b :: rest) = (readPiece b rest).1 :: pieces (readPiece b rest).2 := by
  rw [pieces, readPieces, readPieces_eq]; simp

def replacement : Text := ofChar '\ufffd'

/-- The text with every ill-formed byte replaced. -/
def repair (t : Text) : Text :=
  (pieces t).flatMap fun
    | .char c => ofChar c
    | .stray bytes => bytes.flatMap fun _ => replacement

end PayRun.Text
