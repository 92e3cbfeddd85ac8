import CloudTemplate.CommandLine.Arguments
import CloudTemplate.CommandLine.Stamp
import Std.Time.DateTime.Timestamp

/-!
# The program

Reads the files that the command line names, makes a stamp, and writes the reply.  What is replied
is decided in `CommandLine/Invocation`.
-/

namespace CloudTemplate

/-- The content of a named file. -/
def readFile (path : String) : IO FileContent := do
  try
    let bytes ← IO.FS.readBinFile path
    return .ofBytes bytes.toList
  catch
    | .noFileOrDirectory .. => return .missing
    | e => return .unreadable (toString e)

/-- The content of the standard input. -/
def readInput : IO FileContent := do
  let bytes ← (← IO.getStdin).readBinToEnd
  return .ofBytes bytes.toList

/-- The command of a task, with its files read. -/
def readCommand : Task → IO Command
  | .catalog => return .catalog
  | .generate path => return .generate (← readFile path)
  | .validate path => return .validate (← if path = "-" then readInput else readFile path)
  | .compile path => return .compile (← readFile path)

/-- A stamp for this run. -/
def makeStamp : IO Stamp := do
  let bytes ← IO.getRandomBytes 16
  let now ← Std.Time.Timestamp.now
  return .make bytes.toList now.toNanosecondsSinceUnixEpoch.val.toNat

/-- Does what the arguments ask for. -/
def runArguments (arguments : Arguments) : IO UInt32 := do
  let policy ← arguments.policy.mapM readFile
  let command ← readCommand arguments.task
  let reply := Invocation.reply (← makeStamp) ⟨command, arguments.format, policy⟩
  IO.print reply.output
  return reply.exitCode.toUInt32

end CloudTemplate

/-- The command line: answers with the exit code of the reply, or with two if the words make no
sense. -/
def main (words : List String) : IO UInt32 := do
  match CloudTemplate.Arguments.parse? words with
  | some arguments => CloudTemplate.runArguments arguments
  | none =>
    IO.eprintln CloudTemplate.Arguments.usage
    return 2
