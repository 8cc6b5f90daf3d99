import Screencast.Pattern.Machine
import Screencast.Pattern.Meaning

/-!
From a text to a pattern, or to what is wrong with it.
-/

namespace Screencast.Pattern

/-- Why a text is no pattern. -/
inductive ParseError where
  | fault (text : String) (fault : Fault)
  | tooLarge
deriving DecidableEq, Repr

/-- The reason in words. -/
def ParseError.message : ParseError → String
  | .fault text cause => cause.message text
  | .tooLarge => "Compiled regex exceeds size limit of " ++ Text.decimal sizeLimit ++ " bytes."

/-- The pattern that a text stands for. -/
def parse (text : String) : Except ParseError Pattern :=
  match ofText text with
  | .error cause => .error (.fault text cause)
  | .ok pattern => if pattern.keepsToLimit then .ok pattern else .error .tooLarge

end Screencast.Pattern
