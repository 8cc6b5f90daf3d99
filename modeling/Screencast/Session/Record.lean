/-!
Log records: how grave a message is, which part of the program wrote it, and its text.
-/

namespace Screencast

/-- The levels of a log record, the gravest first. -/
inductive LogLevel where
  | error
  | warn
  | info
  | debug
  | trace
deriving DecidableEq, Repr

namespace LogLevel

/-- The word for a level. -/
def name : LogLevel → String
  | error => "ERROR"
  | warn => "WARN"
  | info => "INFO"
  | debug => "DEBUG"
  | trace => "TRACE"

/-- The place of a level in the order from the gravest on. -/
def rank : LogLevel → Nat
  | error => 1
  | warn => 2
  | info => 3
  | debug => 4
  | trace => 5

end LogLevel

/-- The part of the program that wrote a record. -/
inductive LogSource where
  | devices
  | tools
  | cast
  | request
deriving DecidableEq, Repr

/-- The name under which a part of the program is shown and selected. -/
def LogSource.target : LogSource → String
  | devices => "scrcpy_launch::device::lister"
  | tools => "scrcpy_launch::utils::process"
  | cast => "scrcpy_launch::launcher"
  | request => "scrcpy_launch::commands::run"

/-- A log record. -/
structure LogRecord where
  level : LogLevel
  source : LogSource
  message : String
deriving DecidableEq, Repr

end Screencast
