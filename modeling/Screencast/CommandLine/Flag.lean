import Screencast.Cast.Options

/-!
The flags of the command line: those that take a value, those that are on or off, and the two that
ask about the program itself. Each has a long name, and most have a letter.
-/

namespace Screencast.CommandLine

/-- A flag that takes a value. -/
inductive Setting where
  | serial
  | videoCodec
  | maxSize
  | maxFps
  | keyboard
  | bridge
  | castTool
deriving DecidableEq, Repr

namespace Setting

/-- The long name. -/
def name : Setting → String
  | serial => "serial"
  | videoCodec => "video-codec"
  | maxSize => "max-size"
  | maxFps => "max-fps"
  | keyboard => "keyboard-mode"
  | bridge => "adb"
  | castTool => "scrcpy"

/-- The letter of the short form. -/
def letter? : Setting → Option Char
  | serial => some 's'
  | videoCodec => some 'v'
  | maxSize => some 'm'
  | maxFps => some 'f'
  | keyboard => some 'k'
  | bridge => none
  | castTool => none

/-- What the value is called. -/
def valueName : Setting → String
  | serial => "SERIAL"
  | videoCodec => "VIDEO_CODEC"
  | maxSize => "MAX_SIZE"
  | maxFps => "MAX_FPS"
  | keyboard => "KEYBOARD_MODE"
  | bridge => "ADB"
  | castTool => "SCRCPY"

/-- What the setting is for. -/
def about : Setting → String
  | serial => "Serial number of the target device"
  | videoCodec => "Video codec (e.g., h264, h265, av1)"
  | maxSize => "Maximum resolution"
  | maxFps => "Maximum frames per second"
  | keyboard => "Keyboard mode to use"
  | bridge => "adb executable name or path"
  | castTool => "scrcpy executable name or path"

end Setting

/-- A flag that is on or off. -/
inductive Switch where
  | noAudio
  | listDevices
  | json
  | verbose
deriving DecidableEq, Repr

namespace Switch

/-- The long name. -/
def name : Switch → String
  | noAudio => "no-audio"
  | listDevices => "list-devices"
  | json => "json"
  | verbose => "verbose"

/-- The letter of the short form. -/
def letter? : Switch → Option Char
  | noAudio => some 'n'
  | listDevices => some 'l'
  | json => none
  | verbose => none

/-- What the switch is for. -/
def about : Switch → String
  | noAudio => "Disable audio forwarding"
  | listDevices => "List connected devices and exit"
  | json => "Print the device list as JSON (with --list-devices)"
  | verbose => "Enable verbose output"

end Switch

/-- A flag of the command line. -/
inductive Flag where
  | setting (setting : Setting)
  | switch (switch : Switch)
  | help
  | version
deriving DecidableEq, Repr

namespace Flag

/-- All flags, in the order in which the help lists them. -/
def all : List Flag :=
  [setting .serial, setting .videoCodec, setting .maxSize, setting .maxFps, switch .noAudio,
   setting .keyboard, switch .listDevices, switch .json, switch .verbose, setting .bridge,
   setting .castTool, help, version]

/-- The long name. -/
def name : Flag → String
  | setting s => s.name
  | switch s => s.name
  | help => "help"
  | version => "version"

/-- The letter of the short form. -/
def letter? : Flag → Option Char
  | setting s => s.letter?
  | switch s => s.letter?
  | help => some 'h'
  | version => some 'V'

/-- The value as messages show it behind the name; nothing, for a flag without one. -/
def valueForm : Flag → String
  | setting s => " <" ++ s.valueName ++ ">"
  | _ => ""

/-- The flag as messages name it, with what its value is called. -/
def label (flag : Flag) : String := "--" ++ flag.name ++ flag.valueForm

/-- The flag of a long name. -/
def ofName? (name : String) : Option Flag := all.find? (·.name = name)

/-- The flag of a letter. -/
def ofLetter? (letter : Char) : Option Flag := all.find? (·.letter? = some letter)

theorem mem_all (flag : Flag) : flag ∈ all := by
  rcases flag with (_ | _) | (_ | _) | _ | _ <;> decide

/-- Every flag is found by its name. -/
theorem ofName?_name (flag : Flag) : ofName? flag.name = some flag := by
  rcases flag with (_ | _) | (_ | _) | _ | _ <;> decide +kernel

/-- Every letter belongs to the flag that is found by it. -/
theorem ofLetter?_letter {flag : Flag} {letter : Char} (h : flag.letter? = some letter) :
    ofLetter? letter = some flag := by
  rcases flag with (_ | _) | (_ | _) | _ | _ <;> cases h <;> decide +kernel

end Flag

end Screencast.CommandLine
