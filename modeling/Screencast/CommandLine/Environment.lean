/-!
The environment variables that the program reads.
-/

namespace Screencast.CommandLine

/-- The environment variables that the program reads, where they are set. -/
structure Environment where
  /-- Stands in for the path of the bridge. -/
  bridge : Option String := none
  /-- Stands in for the path of the casting tool. -/
  castTool : Option String := none
  /-- Selects the log records that are shown. -/
  logFilter : Option String := none
deriving DecidableEq, Repr

end Screencast.CommandLine
