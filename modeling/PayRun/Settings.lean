import PayRun.Dotenv.File
import PayRun.Folder

/-!
# Settings

Three settings steer the program: the environment it runs in, its name, and the threshold of its log.  Each
comes from the variable of its name, if that is not empty; else from the active file, if that has the key; else
from a default.

At most one file is active.  Two searches each take the first file among their candidates.  The file of the
second search is active if it can be read, else that of the first; a file that cannot be read is passed over,
and no other candidate of its search takes its place.
-/

namespace PayRun

structure Settings where
  environment : Text
  name : Text
  threshold : Text
  deriving DecidableEq, Repr

namespace Settings

/-! ### The active file -/

/-- The endings that a candidate may have, in the order in which they are tried. -/
def extensions : List Text :=
  ["json", "toml", "yaml", "yml", "properties", "props", "prop", "hcl", "tfvars", "dotenv", "env", "ini"]

/-- The candidates of a name: with each ending, and then without one. -/
def candidates (name : Text) : List Text :=
  (extensions.map fun ending => name ++ '.'.toUInt8 :: ending) ++ [name]

def firstSearch : List Text := candidates ".env"

/-- The paths of the second search: in the working folder, and then in its folder `config`. -/
def secondSearch : List Text := candidates "config" ++ candidates "config/config"

/-- All paths that may hold settings. -/
def searched : List Text := firstSearch ++ secondSearch

/-- The file of a search, if it finds one and can read it. -/
def readFirst? (folder : Folder) (env : Environment) (search : List Text) : Option Dotenv :=
  (search.findSome? folder.content?).bind (Dotenv.parse env)

/-- The active file, which is one without assignments if there is none. -/
def activeFile (folder : Folder) (env : Environment) : Dotenv :=
  ((readFirst? folder env secondSearch).or (readFirst? folder env firstSearch)).getD ⟨[]⟩

/-! ### Values -/

/-- The value of a setting, by the name of its variable. -/
def value (env : Environment) (file : Dotenv) (name missing : Text) : Text :=
  ((env.nonempty? name).or (file.get? (Text.lower name))).getD missing

/-- The settings that a folder and an environment give. -/
def load (folder : Folder) (env : Environment) : Settings :=
  let file := activeFile folder env
  { environment := value env file "APP_ENV" "development"
    name := value env file "APP_NAME" "payroll-demo"
    threshold := Text.lower (value env file "LOG_LEVEL" "info") }

end Settings

end PayRun
