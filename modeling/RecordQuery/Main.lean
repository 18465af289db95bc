import RecordQuery.CommandLine

/-!
# The program

Reads standard input if the command asks for it, and writes what the command leaves behind.
-/

namespace RecordQuery

/-- Reads a stream to its end. -/
partial def readToEnd (stream : IO.FS.Stream) (read : ByteArray) : IO ByteArray := do
  let block ← stream.read 65536
  if block.isEmpty then return read else readToEnd stream (read ++ block)

/-- What standard input holds, if it is no terminal. -/
def readPiped : IO (Option ByteArray) := do
  let stream ← IO.getStdin
  if ← stream.isTty then return none else return some (← readToEnd stream .empty)

/-- The outcome of a command. -/
def outcome (command : Command) : IO Outcome := do
  if command.readsInput then
    match ← readPiped with
    | none => return command.run {} none
    | some bytes =>
      match String.fromUTF8? bytes with
      | some text => return command.run {} (some text)
      | none => return .unreadable
  else return command.run {} none

end RecordQuery

/-- Runs the command that the arguments ask for. -/
def main (args : List String) : IO UInt32 := do
  let result ←
    match RecordQuery.Command.parse args with
    | .error e => pure (RecordQuery.Outcome.ofUsageError e)
    | .ok command => RecordQuery.outcome command
  (← IO.getStdout).putStr result.output
  (← IO.getStderr).putStr result.complaint
  return result.code.toUInt32
