import Screencast.Text.Numeral

/-!
The options of a cast and the arguments that state them. Options that are left out, and limits of
zero, leave the choice to the casting tool.
-/

namespace Screencast

/-- How key strokes reach the device. -/
inductive Keyboard where
  | default
  | uhid
deriving DecidableEq, Repr

namespace Keyboard

/-- The word for a keyboard mode. -/
def name : Keyboard → String
  | default => "default"
  | uhid => "uhid"

/-- What a keyboard mode does. -/
def about : Keyboard → String
  | default => "Let scrcpy pick its default keyboard mode"
  | uhid => "Simulate a physical HID keyboard through Android UHID"

/-- All keyboard modes. -/
def all : List Keyboard := [default, uhid]

/-- The keyboard mode of a word. -/
def ofName? (word : String) : Option Keyboard := all.find? (·.name = word)

/-- The keyboard mode of a word in letters of either case. -/
def ofNameAnyCase? (word : String) : Option Keyboard :=
  ofName? (String.ofList (word.toList.map Char.toLower))

end Keyboard

/-- The options of a cast. -/
structure CastOptions where
  serial : String
  videoCodec : Option String := none
  maxSize : Option UInt32 := none
  maxFps : Option UInt32 := none
  audio : Bool := true
  keyboard : Keyboard := .default
  /-- Arguments for the casting tool, passed on as they are. -/
  extra : List String := []
deriving DecidableEq, Repr

namespace CastOptions

/-- A flag and its value, unless the value is missing or empty. -/
def textArgs (flag : String) : Option String → List String
  | none => []
  | some value => if value = "" then [] else [flag, value]

/-- A flag and its number, unless the number is missing or zero. -/
def limitArgs (flag : String) : Option UInt32 → List String
  | none => []
  | some limit => if limit = 0 then [] else [flag, Text.decimal limit.toNat]

/-- The arguments that state the options: the device first, the extra arguments last. -/
def toArgs (options : CastOptions) : List String :=
  ["-s", options.serial] ++ textArgs "--video-codec" options.videoCodec ++
    limitArgs "-m" options.maxSize ++ limitArgs "--max-fps" options.maxFps ++
    (if options.audio then [] else ["--no-audio"]) ++
    (if options.keyboard = .uhid then ["--keyboard=uhid"] else []) ++ options.extra

end CastOptions

end Screencast
