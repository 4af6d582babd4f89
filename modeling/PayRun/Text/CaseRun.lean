import PayRun.Text.Utf8

/-!
# Runs of letters

A case map moves letters, and neighbouring letters mostly move by the same distance.  So a map is kept as a list
of runs: code points at regular steps and the distance to their images.  A text is mapped character by
character, and ill-formed bytes become replacement characters.
-/

namespace PayRun.Text

/-- Code points from `first` to `last`, each `step`-th of them, whose images lie `shift` further on. -/
structure CaseRun where
  first : Nat
  last : Nat
  step : Nat
  shift : Int

def CaseRun.holds (r : CaseRun) (n : Nat) : Bool := r.first ≤ n && n ≤ r.last && (n - r.first) % r.step == 0

/-- The image of a character, which is the character itself if no run holds it. -/
def mapChar (runs : List CaseRun) (c : Char) : Char :=
  match runs.find? (·.holds c.toNat) with
  | some r => Char.ofNat (c.toNat + r.shift).toNat
  | none => c

/-- The text with every character mapped. -/
def mapChars (runs : List CaseRun) (t : Text) : Text :=
  (pieces t).flatMap fun
    | .char c => ofChar (mapChar runs c)
    | .stray bytes => bytes.flatMap fun _ => replacement

end PayRun.Text
