import PayRun.Text.Basic

/-!
# Environments

The variables that a process finds, with their values.
-/

namespace PayRun

/-- The variables of a process with their values. -/
abbrev Environment := List (Text × Text)

def Environment.get? (env : Environment) (name : Text) : Option Text := env.lookup name

/-- The value of a variable, if it is set and not empty. -/
def Environment.nonempty? (env : Environment) (name : Text) : Option Text := (env.get? name).filter (· ≠ [])

/-- The variable of an entry `NAME=value`, if it has a name. -/
def Environment.entry? (entry : Text) : Option (Text × Text) :=
  let sign := '='.toUInt8
  match entry.takeWhile (· != sign), entry.dropWhile (· != sign) with
  | b :: name, _ :: value => some (b :: name, value)
  | _, _ => none

/-- Puts a byte in front of the entries of a block; a null byte starts another entry. -/
def Environment.addByte (b : UInt8) : List Text → List Text
  | [] => if b = 0 then [[]] else [[b]]
  | e :: entries => if b = 0 then [] :: e :: entries else (b :: e) :: entries

/-- The variables of a block of entries, each ended by a null byte. -/
def Environment.ofBlock (block : Text) : Environment := (block.foldr addByte []).filterMap entry?

end PayRun
