import PayRun.Text.Space

/-!
# Values of a dotenv file

A value is trimmed and loses its quotes.  In double quotes `\n` and `\r` are line breaks, and any other
backslash gives way to the byte after it, except before a dollar sign.  Unless the value stood in single quotes,
references to variables (`$NAME`, with optional braces) are then replaced; a backslash in front keeps the
reference and is dropped.
-/

namespace PayRun.Dotenv

/-- The text between two quotes of a kind at its ends. -/
def unquote? (q : UInt8) (t : Text) : Option Text :=
  if 2 ≤ t.length ∧ t.head? = some q ∧ t.getLast? = some q then some (t.drop 1).dropLast else none

/-! ### Escapes -/

/-- Writes `byte` for each backslash with `letter` after it; `done` is what was written, its last byte first. -/
def replaceEscape (letter byte : UInt8) (done : Text) : Text → Text
  | [] => done.reverse
  | [b] => (b :: done).reverse
  | b :: c :: rest =>
    if b = Text.backslash ∧ c = letter then replaceEscape letter byte (byte :: done) rest
    else replaceEscape letter byte (b :: done) (c :: rest)

/-- Drops each backslash that stands in front of anything but a dollar sign. -/
def dropBackslashes (done : Text) : Text → Text
  | [] => done.reverse
  | [b] => (b :: done).reverse
  | b :: c :: rest =>
    if b = Text.backslash ∧ c ≠ '$'.toUInt8 then dropBackslashes (c :: done) rest
    else dropBackslashes (b :: done) (c :: rest)

/-- Resolves the escapes of a value in double quotes. -/
def unescape (t : Text) : Text :=
  let withFeeds := replaceEscape 'n'.toUInt8 '\n'.toUInt8 [] t
  dropBackslashes [] (replaceEscape 'r'.toUInt8 '\r'.toUInt8 [] withFeeds)

/-! ### References -/

def isNameByte (b : UInt8) : Bool :=
  Text.isDigit b || ('A'.toUInt8 ≤ b && b ≤ 'Z'.toUInt8) || b == '_'.toUInt8

/-- A reference after its dollar sign: the name, and the number of bytes with the braces. -/
structure Reference where
  name : Text
  length : Nat

/-- The reference that a text starts with: an optional brace, a name that may be empty, an optional brace. -/
def reference (t : Text) : Reference :=
  let opening := if t.head? = some '\x7b'.toUInt8 then 1 else 0
  let name := (t.drop opening).takeWhile isNameByte
  let closing := if (t.drop (opening + name.length)).head? = some '\x7d'.toUInt8 then 1 else 0
  ⟨name, opening + name.length + closing⟩

/-- Replaces the references of a text by values; `done` is what was written, its last byte first. -/
def expandOnto (value : Text → Text) (done : Text) : Text → Text
  | [] => done.reverse
  | b :: rest =>
    if b = '$'.toUInt8 then
      let r := reference rest
      let written := if r.name = [] then b :: rest.take r.length else value r.name
      expandOnto value (written.reverse ++ done) (rest.drop r.length)
    else if b = Text.backslash ∧ rest.head? = some '$'.toUInt8 then
      let kept := 1 + (reference (rest.drop 1)).length
      expandOnto value ((rest.take kept).reverse ++ done) (rest.drop kept)
    else expandOnto value (b :: done) rest
termination_by t => t.length
decreasing_by all_goals simp only [List.length_drop, List.length_cons]; omega

def expand (value : Text → Text) (t : Text) : Text := expandOnto value [] t

/-! ### Values -/

/-- The value that was meant by a written one. -/
def resolve (value : Text → Text) (written : Text) : Text :=
  let t := Text.trim written
  match unquote? Text.singleQuote t, unquote? Text.doubleQuote t with
  | some single, _ => single
  | none, some double => expand value (unescape double)
  | none, none => expand value t

end PayRun.Dotenv
