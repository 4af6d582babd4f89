import PayRun.Text.Basic

/-!
# Paths

A path is a list of names between slashes; it starts at the root if it starts with a slash.  A path from the
root can be told from a folder instead (`Path.relative`): up to the last folder that both have in common, and
down from there.
-/

namespace PayRun.Path

/-- The byte between two names. -/
def slash : UInt8 := 0x2F

def root : Text := "/"

/-- The folder itself. -/
def here : Text := "."

/-- The folder above. -/
def above : Text := ".."

/-- Goes on from a folder, its last name first, to a name. -/
def enter (folder : List Text) (name : Text) : List Text :=
  if name = [] ∨ name = here then folder else if name = above then folder.tail else name :: folder

/-- The names on the way from the root to a path, without detours. -/
def names (path : Text) : List Text := ((path.splitOn slash).foldl enter []).reverse

/-- The names on the way from one place to another, both given by their names from the root. -/
def way : (start finish : List Text) → List Text
  | a :: start, b :: finish =>
    if a = b then way start finish else above :: start.map (fun _ => above) ++ b :: finish
  | start, finish => start.map (fun _ => above) ++ finish

/-- The path as it is told from a folder.  Only a path from the root is told anew. -/
def relative (folder path : Text) : Text :=
  if path.head? = some slash then
    match way (names folder) (names path) with
    | [] => here
    | ns => [slash].intercalate ns
  else path

end PayRun.Path
