import PayRun.Text.Utf8
import PayRun.Moment
import PayRun.Log.Event

/-!
# Events as JSON

An event is one JSON object on a line of its own: the level, the fields in their order, the time, and the
message unless it is empty.  Strings escape quotes, backslashes and control characters, so an object never
contains a line break; an ill-formed byte is written as the escape of the replacement character.
-/

namespace PayRun.Log.Json

/-- The short escapes: the character, and the letter that stands for it after a backslash. -/
def shortEscapes : List (Char × Char) :=
  [('"', '"'), ('\\', '\\'), ('\x08', 'b'), ('\x0c', 'f'), ('\n', 'n'), ('\r', 'r'), ('\t', 't')]

/-- A character inside a string. -/
def escapeChar (c : Char) : Text :=
  match shortEscapes.lookup c with
  | some letter => Text.backslash :: Text.ofChar letter
  | none =>
    if c.toNat < 0x20 ∨ c.toNat = 0x7F then Text.ofString "\\u" ++ Text.hex 4 c.toNat
    else Text.ofChar c

def escapePiece : Text.Piece → Text
  | .char c => escapeChar c
  | .stray bytes => bytes.flatMap fun _ => "\\ufffd"

def string (t : Text) : Text := Text.doubleQuote :: (Text.pieces t).flatMap escapePiece ++ [Text.doubleQuote]

def value : Value → Text
  | .text t => string t
  | .int n => Text.ofInt n
  | .bool b => boolText b

def member (f : Field) : Text := List.flatten [string f.key, ":", value f.value]

def members (now : Moment) (e : Event) : List Field :=
  ⟨levelKey, .text e.level.name⟩ :: e.fields ++ ⟨timeKey, .text now.full⟩ ::
    if e.message = [] then [] else [⟨messageKey, .text e.message⟩]

def line (now : Moment) (e : Event) : Text :=
  '\x7b'.toUInt8 :: [','.toUInt8].intercalate ((members now e).map member) ++ ['\x7d'.toUInt8, Text.newline]

end PayRun.Log.Json
