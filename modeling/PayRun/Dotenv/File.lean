import PayRun.Environment
import PayRun.Dotenv.Lines
import PayRun.Dotenv.Assignment
import PayRun.Dotenv.Expansion
import PayRun.Text.Lowercase

/-!
# Dotenv files

A file is read line by line.  References are replaced by variables of the environment, and if there is none of
that name by keys assigned so far.  A single line that is no assignment spoils the whole file.  Keys are looked
up without regard to case: of two spellings of a key, the one that is not in lower case counts.
-/

namespace PayRun

/-- The assignments of a dotenv file, the latest one first. -/
structure Dotenv where
  assignments : List (Text × Text)
  deriving DecidableEq, Repr

namespace Dotenv

/-- What a reference to a name stands for. -/
def referenced (d : Dotenv) (env : Environment) (name : Text) : Text :=
  ((env.get? name).or (d.assignments.lookup name)).getD []

def assign (env : Environment) (d : Dotenv) (line : Text) : Option Dotenv := do
  let (key, written) ← assignment? line
  return ⟨(key, resolve (d.referenced env) written) :: d.assignments⟩

def parse (env : Environment) (file : Text) : Option Dotenv := do
  (← lines file).foldlM (assign env) ⟨[]⟩

/-- The value of a key, given in lower case. -/
def get? (d : Dotenv) (key : Text) : Option Text :=
  let spellings := d.assignments.filter fun (k, _) => Text.lower k = key
  match spellings.find? fun (k, _) => k ≠ key with
  | some (_, value) => some value
  | none => spellings.lookup key

end Dotenv

end PayRun
