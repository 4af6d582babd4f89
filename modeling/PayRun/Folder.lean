import PayRun.Text.Basic

/-!
# Folders

What a program finds in its working folder: files and other folders under relative paths.
-/

namespace PayRun

/-- What stands under a path. -/
inductive Folder.Entry where
  | file (content : Text)
  | folder
  deriving DecidableEq, Repr

/-- A folder: relative paths and what stands there. -/
abbrev Folder := List (Text × Folder.Entry)

/-- The content of the file under a path, if there is a file. -/
def Folder.content? (f : Folder) (path : Text) : Option Text :=
  match f.lookup path with
  | some (.file content) => some content
  | _ => none

end PayRun
