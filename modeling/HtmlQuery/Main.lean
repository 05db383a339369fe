import HtmlQuery.Report

/-!
# The command line

The first argument is an expression, and standard input is a page.  What `Report.command` makes of
them is written to standard output and standard error.
-/

namespace HtmlQuery.Report

/-- The rest of a stream, after the bytes that have been read. -/
partial def readAll (input : IO.FS.Stream) (bytes : ByteArray) : IO ByteArray := do
  let more ← input.read 65536
  if more.isEmpty then return bytes
  readAll input (bytes ++ more)

/-- The bytes of standard input, if they can be read. -/
def readSource : IO (Option (List UInt8)) := do
  match ← (readAll (← IO.getStdin) .empty).toBaseIO with
  | .ok bytes => return some bytes.toList
  | .error _ => return none

/-- Writes what a run wrote, and gives its code. -/
def Outcome.write (outcome : Outcome) : IO UInt32 := do
  (← IO.getStdout).putStr outcome.output
  (← IO.getStderr).putStr outcome.errors
  return outcome.code.toUInt32

end HtmlQuery.Report

/-- Runs the command.  Without arguments, standard input is left alone. -/
def main (args : List String) : IO UInt32 := do
  let source ← if args.isEmpty then pure none else HtmlQuery.Report.readSource
  (HtmlQuery.Report.command args source).write
