import Screencast.Text.Numeral

/-!
What can go wrong with a tool: it is not found, it cannot be started, or it does not end well.
-/

namespace Screencast

/-- Why a tool, known by its label, did not do its work. -/
inductive ToolError where
  | notFound (tool : String)
  /-- The tool ended with a code other than zero, or by a signal. -/
  | failed (tool : String) (code : Option Int)
  /-- The tool was found but not started. -/
  | notStarted (tool : String) (reason : String)
deriving DecidableEq, Repr

namespace ToolError

/-- The code with which the tool ended, if it ended by itself. -/
def exitCode? : ToolError → Option Int
  | failed _ code => code
  | _ => none

/-- The label of the tool. -/
def tool : ToolError → String
  | notFound tool => tool
  | failed tool _ => tool
  | notStarted tool _ => tool

/-- What went wrong, in words. -/
def message : ToolError → String
  | notFound tool => tool ++ " not found. Make sure it's installed and in your PATH."
  | failed tool (some code) => tool ++ " exited with status " ++ Text.signedDecimal code
  | failed tool none => tool ++ " exited with no status (terminated by signal)"
  | notStarted tool reason => "Failed to run " ++ tool ++ ": " ++ reason

end ToolError

end Screencast
