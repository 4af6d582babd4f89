import PayRun.Text.Space

/-!
# Assignments

A logical line assigns a value to a key: `KEY=value`, with blanks around the equals sign, or `KEY: value`.  The
word `export` may stand in front.  A value in quotes runs up to the last quote of its kind after which nothing
but blanks and a comment follows; any other value runs up to a comment.  Behind the colon as few blanks as
possible are skipped, so after more than one a quoted value is cut at a number sign like a plain one.
-/

namespace PayRun.Dotenv

def isKeyByte (b : UInt8) : Bool :=
  Text.isDigit b || ('A'.toUInt8 ≤ b && b ≤ 'Z'.toUInt8) || ('a'.toUInt8 ≤ b && b ≤ 'z'.toUInt8) ||
    b == '_'.toUInt8 || b == '.'.toUInt8

/-- May a line end like this: with blanks, and then a comment or nothing? -/
def isEnding (rest : Text) : Bool :=
  match rest.dropWhile Text.isBlank with
  | [] => true
  | b :: comment => b == '#'.toUInt8 && !comment.contains Text.newline

/-- The longest start of a text that closes with the quote and leaves an ending.  The start not yet given up is
`start`, its last byte first, and `rest` follows it. -/
def upToQuote? (q : UInt8) : (start rest : Text) → Option Text
  | [], _ => none
  | b :: start, rest =>
    if b == q && isEnding rest then some (b :: start).reverse else upToQuote? q start (b :: rest)

/-- The value without quotes that a text starts with, which may be empty. -/
def plainValue? (t : Text) : Option Text :=
  let isPlain := fun b => b != '#'.toUInt8 && b != Text.newline
  if isEnding (t.dropWhile isPlain) then some (t.takeWhile isPlain) else none

/-- The value that a text starts with, quotes included. -/
def value? (t : Text) : Option Text :=
  match t with
  | q :: rest =>
    if q == Text.singleQuote || q == Text.doubleQuote then
      match upToQuote? q rest.reverse [] with
      | some quoted => some (q :: quoted)
      | none => plainValue? t
    else plainValue? t
  | [] => some []

/-- The value after a colon and at least one blank. -/
def valueAfterColon? : Text → Option Text
  | [] => none
  | b :: rest =>
    if Text.isBlank b then
      match value? rest with
      | some v => some v
      | none => valueAfterColon? rest
    else none

/-- The key that a text starts with and the value assigned to it. -/
def keyAndValue? (t : Text) : Option (Text × Text) :=
  let key := t.takeWhile isKeyByte
  let rest := t.dropWhile isKeyByte
  if key = [] then none
  else
    match rest.dropWhile Text.isBlank, rest with
    | b :: afterSign, c :: afterColon =>
      if b = '='.toUInt8 then (value? (afterSign.dropWhile Text.isBlank)).map (key, ·)
      else if c = ':'.toUInt8 then (valueAfterColon? afterColon).map (key, ·)
      else none
    | _, _ => none

/-- What follows the word `export` and its blanks. -/
def afterExport? (t : Text) : Option Text :=
  let word := Text.ofString "export"
  let rest := t.drop word.length
  if word.isPrefixOf t && rest.head?.any Text.isBlank then some (rest.dropWhile Text.isBlank) else none

/-- The key and the value of a line, the value as it is written.  A line that cannot be read with `export` in
front may still assign to a key of that name. -/
def assignment? (line : Text) : Option (Text × Text) :=
  let t := line.dropWhile Text.isBlank
  match (afterExport? t).bind keyAndValue? with
  | some a => some a
  | none => keyAndValue? t

end PayRun.Dotenv
