import Screencast.CommandLine.Flag
import Screencast.Text.Numeral
import Screencast.Text.Terminal

/-!
What can be wrong with a command line, and the line that says so.
-/

namespace Screencast.CommandLine

/-- Why a value is no number of 32 bits. -/
inductive NumberError where
  | numeral (error : Text.NumeralError)
  | outOfRange (value : Int)
deriving DecidableEq, Repr

/-- The reason in words. -/
def NumberError.message : NumberError → String
  | numeral error => error.message
  | outOfRange value =>
    Text.signedDecimal value ++ " is not in 0..=" ++ Text.decimal (UInt32.size - 1)

/-- What is wrong with a command line. -/
inductive UsageError where
  /-- A word that no flag accounts for. -/
  | unexpectedWord (word : String)
  /-- A value for a flag that takes none. -/
  | unexpectedValue (flag : Flag) (value : String)
  | missingValue (setting : Setting)
  | repeated (flag : Flag)
  | unknownKeyboard (value : String)
  | invalidNumber (setting : Setting) (value : String) (error : NumberError)
deriving DecidableEq, Repr

namespace UsageError

/-- What is wrong, in words; what the command line itself holds is shown without the control
sequences in it. -/
def message : UsageError → String
  | unexpectedWord word => "unexpected argument '" ++ Text.stripControls word ++ "' found"
  | unexpectedValue flag value =>
    "unexpected value '" ++ Text.stripControls value ++ "' for '" ++ flag.label ++
      "' found; no more were expected"
  | missingValue setting =>
    "a value is required for '" ++ (Flag.setting setting).label ++ "' but none was supplied"
  | repeated flag => "the argument '" ++ flag.label ++ "' cannot be used multiple times"
  | unknownKeyboard value =>
    "invalid value '" ++ Text.stripControls value ++ "' for '" ++
      (Flag.setting .keyboard).label ++ "'"
  | invalidNumber setting value error =>
    "invalid value '" ++ Text.stripControls value ++ "' for '" ++
      (Flag.setting setting).label ++ "': " ++ error.message

end UsageError

end Screencast.CommandLine
