import Screencast.Text.Blank
import Screencast.Text.Numeral
import Screencast.Text.Quoted

/-!
The platform API level of a device: reading the answer to a property query, and whether a level
suffices to forward audio.
-/

namespace Screencast

/-- A platform API level. -/
abbrev ApiLevel := UInt32

/-- A property answer that is no API level, without the blanks around it. -/
inductive LevelError where
  | invalid (text : String)
deriving DecidableEq, Repr

/-- What is wrong with an answer, on one line: the answer itself stands in quotes. -/
def LevelError.message : LevelError → String
  | invalid text => "Invalid SDK level: " ++ Text.quote text

namespace ApiLevel

/-- The first level at which audio can be forwarded. -/
def firstWithAudio : ApiLevel := 30

/-- The system property that holds the level. -/
def property : String := "ro.build.version.sdk"

/-- Reads the answer to a property query: a number of 32 bits, blanks around it allowed. -/
def read (answer : String) : Except LevelError ApiLevel :=
  let text := Text.trim answer.toList
  match Text.readNatural (UInt32.size - 1) text with
  | .ok level => .ok (UInt32.ofNat level)
  | .error _ => .error (.invalid (String.ofList text))

/-- Audio can be forwarded from a device whose level is known and late enough. -/
def allowsAudio : Option ApiLevel → Bool
  | some level => firstWithAudio ≤ level
  | none => false

end ApiLevel

end Screencast
