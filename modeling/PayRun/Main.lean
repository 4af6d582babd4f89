import PayRun.Command
import Std.Time.DateTime.Timestamp

/-!
# Running the command

Reads the surroundings of the process, runs the command on them, and writes what it leaves behind: the lines of
standard output one by one, then the log.
-/

namespace PayRun.Main

def bytes (t : Text) : ByteArray := ⟨t.toArray⟩

def environment : IO Environment := do
  let block ← IO.FS.readBinFile "/proc/self/environ"
  return .ofBlock block.data.toList

/-- The files of the working folder that may hold settings. -/
def folder : IO Folder := do
  Settings.searched.filterMapM fun path => do
    match String.fromUTF8? (bytes path) with
    | none => return none
    | some name =>
      try
        let content ← IO.FS.readBinFile name
        return some (path, .file content.data.toList)
      catch _ => return none

def now : IO Moment := do
  let t ← Std.Time.Timestamp.now
  return .ofSeconds t.toSecondsSinceUnixEpoch.val.toNat

/-- What the system says of an error. -/
def details : IO.Error → String
  | .alreadyExists _ _ text | .otherError _ text | .resourceBusy _ text | .resourceVanished _ text
  | .unsupportedOperation _ text | .hardwareFault _ text | .unsatisfiedConstraints _ text
  | .illegalOperation _ text | .protocolError _ text | .timeExpired _ text | .interrupted _ _ text
  | .noFileOrDirectory _ _ text | .invalidArgument _ _ text | .permissionDenied _ _ text
  | .resourceExhausted _ _ text | .inappropriateType _ _ text | .noSuchThing _ _ text => text
  | .unexpectedEof => "unexpected end of file"
  | .userError text => text

/-- The error of a write, unless it is a broken pipe. -/
def writeError? (e : IO.Error) : Option Command.WriteError :=
  let reason := Text.ofString (details e).decapitalize
  if h : reason ≠ Sink.Failure.brokenPipe.message then some ⟨reason, h⟩ else none

def put (stream : IO.FS.Stream) (t : Text) : IO Unit := do
  stream.write (bytes t)
  stream.flush

/-- Writes lines one by one, up to the first error.  Gives the number of that line, counted from one. -/
def putLines (stream : IO.FS.Stream) (lines : List Text) : IO (Option (Nat × IO.Error)) := do
  let mut number := 1
  for line in lines do
    try
      put stream (line ++ [Text.newline])
    catch e =>
      return some (number, e)
    number := number + 1
  return none

/-- Runs the command.  If a line cannot be written, the outcome is that of a standard output where this write
fails. -/
def run : IO Command.Outcome := do
  let env ← environment
  let files ← folder
  let moment ← now
  let id := RunId.mark (← IO.getRandomBytes 16).data.toList
  let outcome := Command.run files env id moment {}
  match ← putLines (← IO.getStdout) (Text.readLines outcome.stdout) with
  | none => return outcome
  | some (number, e) =>
    match writeError? e with
    | none => throw e
    | some error =>
      return Command.run files env id moment { fails := fun n => if n = number then some error else none }

end PayRun.Main

/-- Settles the pay of the standard employee. -/
def main : IO UInt32 := do
  let outcome ← PayRun.Main.run
  PayRun.Main.put (← IO.getStderr) outcome.stderr
  return outcome.exitCode.toUInt32
