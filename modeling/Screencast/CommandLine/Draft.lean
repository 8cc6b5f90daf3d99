import Screencast.CommandLine.Error
import Screencast.Request.Basic

/-!
A draft of a request: what the words read so far have set. Every flag is set at most once, and a
value is checked when it is set.
-/

namespace Screencast.CommandLine

/-- The part of a request that the words read so far have set. -/
structure Draft where
  serial : Option String := none
  videoCodec : Option String := none
  maxSize : Option UInt32 := none
  maxFps : Option UInt32 := none
  keyboard : Option Keyboard := none
  bridge : Option ToolPath := none
  castTool : Option ToolPath := none
  noAudio : Bool := false
  listDevices : Bool := false
  json : Bool := false
  verbose : Bool := false
deriving DecidableEq, Repr

/-- The largest number that is read at all. -/
def largestNumber : Nat := 0x7FFF_FFFF_FFFF_FFFF

/-- Reads a number of 32 bits. It is read with a sign and 64 bits first, so that only a number
beyond those is told to be too large or too small. -/
def readLimit (text : String) : Except NumberError UInt32 :=
  match Text.readInteger largestNumber text.toList with
  | .error error => .error (.numeral error)
  | .ok value =>
    if 0 ≤ value ∧ value.toNat < UInt32.size then .ok (UInt32.ofNat value.toNat)
    else .error (.outOfRange value)

/-- Reads a keyboard mode. -/
def readKeyboard (text : String) : Except UsageError Keyboard :=
  if text = "" then .error (.missingValue .keyboard)
  else
    match Keyboard.ofName? text with
    | some keyboard => .ok keyboard
    | none => .error (.unknownKeyboard text)

/-- Reads the path of a tool; an empty one counts as missing. -/
def readPath (setting : Setting) (text : String) : Except UsageError ToolPath :=
  if text = "" then .error (.missingValue setting) else .ok ⟨text⟩

namespace Draft

/-- The setting has a value already. -/
def hasSetting (draft : Draft) : Setting → Bool
  | .serial => draft.serial.isSome
  | .videoCodec => draft.videoCodec.isSome
  | .maxSize => draft.maxSize.isSome
  | .maxFps => draft.maxFps.isSome
  | .keyboard => draft.keyboard.isSome
  | .bridge => draft.bridge.isSome
  | .castTool => draft.castTool.isSome

/-- The switch is on already. -/
def hasSwitch (draft : Draft) : Switch → Bool
  | .noAudio => draft.noAudio
  | .listDevices => draft.listDevices
  | .json => draft.json
  | .verbose => draft.verbose

/-- Gives a setting the value that a text stands for. -/
def assign (draft : Draft) (setting : Setting) (text : String) : Except UsageError Draft :=
  match setting with
  | .serial => .ok { draft with serial := some text }
  | .videoCodec => .ok { draft with videoCodec := some text }
  | .maxSize =>
    match readLimit text with
    | .ok limit => .ok { draft with maxSize := some limit }
    | .error error => .error (.invalidNumber .maxSize text error)
  | .maxFps =>
    match readLimit text with
    | .ok limit => .ok { draft with maxFps := some limit }
    | .error error => .error (.invalidNumber .maxFps text error)
  | .keyboard => (readKeyboard text).map fun mode => { draft with keyboard := some mode }
  | .bridge => (readPath .bridge text).map fun path => { draft with bridge := some path }
  | .castTool => (readPath .castTool text).map fun path => { draft with castTool := some path }

/-- Turns a switch on. -/
def turnOn (draft : Draft) : Switch → Draft
  | .noAudio => { draft with noAudio := true }
  | .listDevices => { draft with listDevices := true }
  | .json => { draft with json := true }
  | .verbose => { draft with verbose := true }

/-- Sets a setting that has no value yet. -/
def set (draft : Draft) (setting : Setting) (text : String) : Except UsageError Draft :=
  if draft.hasSetting setting then .error (.repeated (.setting setting))
  else draft.assign setting text

/-- Turns on a switch that is off. -/
def switch (draft : Draft) (switch : Switch) : Except UsageError Draft :=
  if draft.hasSwitch switch then .error (.repeated (.switch switch))
  else .ok (draft.turnOn switch)

end Draft

end Screencast.CommandLine
