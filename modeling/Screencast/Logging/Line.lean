import Screencast.Session.Record
import Screencast.Text.Pieces
import Screencast.Text.Terminal

/-!
A log record as a line of text: the time, the level and the target in brackets, then the message,
whose lines but the first are indented.
-/

namespace Screencast.Logging

/-- The word for a level, as wide as the longest of them. -/
def levelColumn (level : LogLevel) : String :=
  String.ofList ((level.name.toList ++ List.replicate 5 ' ').take 5)

/-- The message with its lines but the first indented. -/
def hangMessage (message : String) : String :=
  Text.joinStrings "\n    " (Text.cutString '\n' message)

/-- The line of a record; the time is left out where it is not known. -/
def line (time : Option String) (record : LogRecord) : String :=
  Text.stripControls
    ("[" ++ (time.map (· ++ " ")).getD "" ++ levelColumn record.level ++ " " ++
      record.source.target ++ "] " ++ hangMessage record.message ++ "\n")

end Screencast.Logging
