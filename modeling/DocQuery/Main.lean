import DocQuery.Command.Run

/-!
# The Program

Reads the command line and the input, and leaves all else to `DocQuery.Command`.
-/

namespace DocQuery.Command

/-- The reason for which something cannot be read. -/
def reason (e : IO.Error) : String :=
  match e with
  | .noFileOrDirectory .. => "No such file or directory (os error 2)"
  | .inappropriateType (some _) code details | .inappropriateType none code details
  | .permissionDenied (some _) code details | .permissionDenied none code details
  | .invalidArgument (some _) code details | .invalidArgument none code details =>
    details ++ " (os error " ++ toString code ++ ")"
  | e => toString e

/-- The text of bytes in UTF-8. -/
def decode (bytes : ByteArray) : Except CommandError (Option String) :=
  match String.fromUTF8? bytes with
  | some text => .ok (some text)
  | none => .error (.unreadable "stream did not contain valid UTF-8")

/-- Reads the input document. -/
def fetch : Source → IO (Except CommandError (Option String))
  | .given text => return .ok (some text)
  | .file path => do
    try
      return decode (← IO.FS.readBinFile path)
    catch e =>
      return .error (.unreadable (reason e))
  | .standard => do
    let stdin ← IO.getStdin
    if ← stdin.isTty then return .ok none
    try
      return decode (← stdin.readBinToEnd)
    catch e =>
      return .error (.unreadable (reason e))

/-- Carries out a command line. -/
def report (arguments : List String) : IO Report :=
  match Command.parse arguments with
  | .error stop => return stop.report
  | .ok command => do
    let input ← match command.source? with
      | some source => fetch source
      | none => pure (.ok none)
    return command.run input

end DocQuery.Command

/-- Runs the program. -/
def main (arguments : List String) : IO UInt32 := do
  let report ← DocQuery.Command.report arguments
  IO.print report.output
  IO.eprint report.errors
  return report.code.toUInt32
