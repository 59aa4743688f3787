import ShiftReduce.Command.Arguments
import ShiftReduce.Text.Measure

/-!
# Logs

What a command tells about its work, apart from its output.

## Main definitions

* `LogLevel`, `LogRecord` — how much a record matters, and a record
* `Verbosity.threshold` — the least level that is shown
* `LogRecord.line` — a record as text
-/

namespace ShiftReduce

/-- How much a record matters, the most important level first. -/
inductive LogLevel
  | error
  | warn
  | info
  | debug
  | trace
deriving DecidableEq, Repr

namespace LogLevel

/-- The place of a level among all of them. -/
def rank : LogLevel → Nat
  | .error => 0
  | .warn => 1
  | .info => 2
  | .debug => 3
  | .trace => 4

/-- The name of a level. -/
def name : LogLevel → String
  | .error => "ERROR"
  | .warn => "WARN"
  | .info => "INFO"
  | .debug => "DEBUG"
  | .trace => "TRACE"

end LogLevel

/-- The least important level that is shown. Asking for only errors wins over asking for more. -/
def Verbosity.threshold (verbosity : Verbosity) : LogLevel :=
  if verbosity.quiet then .error
  else match verbosity.more with
    | 0 => .warn
    | 1 => .info
    | 2 => .debug
    | _ => .trace

/-- A message of some level about some part of the work. -/
structure LogRecord where
  level : LogLevel
  target : String
  message : String
deriving DecidableEq, Repr

namespace LogRecord

/-- The message with its further lines indented. -/
def indented (message : String) : String :=
  String.ofList (message.toList.flatMap fun char =>
    if char == '\n' then ['\n', ' ', ' ', ' ', ' '] else [char])

/-- The record as a line. -/
def line (record : LogRecord) : String :=
  "[" ++ Text.padRight 5 record.level.name ++ " " ++ record.target ++ "] " ++
    indented record.message ++ "\n"

/-- The lines of the records that are shown. -/
def render (threshold : LogLevel) (records : List LogRecord) : String :=
  String.join ((records.filter fun record => record.level.rank ≤ threshold.rank).map line)

end LogRecord

end ShiftReduce
