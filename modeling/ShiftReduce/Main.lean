import ShiftReduce.Command.Run

/-!
# The command line

The program reads the files that its arguments name, runs the command on them, and writes what the
command reports. All that is decided is decided by `ShiftReduce.runArguments`.
-/

namespace ShiftReduce

/-- The number of an operating-system error. Some come with the opposite sign. -/
def errorNumber (code : UInt32) : Nat := code.toInt32.toInt.natAbs

/-- The failure that an operating-system error stands for. -/
def ReadFailure.ofError : IO.Error → ReadFailure
  | .noFileOrDirectory _ _ _ => .notFound
  | .inappropriateType _ code details =>
    match errorNumber code with
    | 20 => .notDirectory
    | 21 => .isDirectory
    | _ => .other details
  | .invalidArgument _ code details =>
    if errorNumber code = 36 then .nameTooLong else .other details
  | .permissionDenied _ _ _ => .other "Permission denied (os error 13)"
  | error => .other (toString error)

/-- Reads the file at a path as text. -/
def readText (path : String) : IO (Except ReadFailure String) := do
  try
    let bytes ← IO.FS.readBinFile path
    match String.fromUTF8? bytes with
    | some text => return .ok text
    | none => return .error .notText
  catch error => return .error (.ofError error)

end ShiftReduce

/-- Runs the program. Its exit code is the one that the command reports. -/
def main (arguments : List String) : IO UInt32 := do
  let readings ← (ShiftReduce.pathsOfArguments arguments).mapM fun path =>
    return (path, ← ShiftReduce.readText path)
  let report := ShiftReduce.runArguments (.ofReadings readings) arguments
  (← IO.getStdout).putStr report.output
  (← IO.getStderr).putStr report.errors
  return report.code.toUInt32
