import Replay.Dict
import Replay.Text.Lowercase

namespace Replay

inductive LogLevel
  | trace
  | debug
  | info
  | warn
  | error
  deriving DecidableEq, Repr

namespace LogLevel

def name : LogLevel → String
  | trace => "TRACE"
  | debug => "DEBUG"
  | info => "INFO"
  | warn => "WARN"
  | error => "ERROR"

def words : List (String × LogLevel) :=
  [("trace", .trace), ("debug", .debug), ("info", .info), ("warn", .warn), ("warning", .warn),
    ("error", .error)]

def parse? (word : String) : Option LogLevel :=
  Entries.lookup (String.ofList (Text.lowercase word.toList)) words

end LogLevel

end Replay
