import Screencast.Cast.Launch
import Screencast.Device.Bridge

/-!
A request: what is asked of one run of the program, the rules that a request must keep, and how
the work on it can end.
-/

namespace Screencast

/-- What is asked of one run. -/
structure Request where
  /-- The device to cast from. -/
  serial : Option String := none
  videoCodec : Option String := none
  maxSize : Option UInt32 := none
  maxFps : Option UInt32 := none
  noAudio : Bool := false
  keyboard : Keyboard := .default
  /-- List the devices instead of casting. -/
  listDevices : Bool := false
  /-- List the devices as a JSON document. -/
  json : Bool := false
  /-- Tell which devices are found before casting. -/
  verbose : Bool := false
  bridge : ToolPath := Bridge.defaultPath
  castTool : ToolPath := CastOptions.defaultTool
  /-- Arguments for the casting tool, passed on as they are. -/
  extra : List String := []
deriving DecidableEq, Repr

/-- A rule that a request breaks. -/
inductive RequestError where
  | emptySerial
  | blankInSerial
  | emptyCodec
  | jsonWithoutList
  | emptyBridge
  | emptyCastTool
deriving DecidableEq, Repr

/-- The broken rule in words. -/
def RequestError.message : RequestError → String
  | emptySerial => "Serial cannot be empty"
  | blankInSerial => "Serial cannot contain whitespace"
  | emptyCodec => "Video codec cannot be empty"
  | jsonWithoutList => "--json only applies to --list-devices"
  | emptyBridge => "adb path cannot be empty"
  | emptyCastTool => "scrcpy path cannot be empty"

/-- How the work on a request ended. -/
inductive Outcome where
  | listed
  | noDevices
  | missingSerial
  | launched
  | failed
deriving DecidableEq, Repr

/-- The code with which the program ends. -/
def Outcome.exitCode : Outcome → Nat
  | listed | launched => 0
  | noDevices | missingSerial | failed => 1

namespace Request

/-- The options of the cast from a device. -/
def castOptions (request : Request) (serial : String) : CastOptions where
  serial := serial
  videoCodec := request.videoCodec
  maxSize := request.maxSize
  maxFps := request.maxFps
  audio := !request.noAudio
  keyboard := request.keyboard
  extra := request.extra

/-- Nothing but blanks. -/
def isBlankText (s : String) : Bool := (Text.trim s.toList).isEmpty

/-- The rules in their order, each with whether the request breaks it. A serial is one word, and a
serial of nothing but blanks counts as empty. -/
def rules (request : Request) : List (Bool × RequestError) :=
  [(request.serial.any isBlankText, .emptySerial),
   (request.serial.any (·.toList.any Text.isBlank), .blankInSerial),
   (request.videoCodec.any isBlankText, .emptyCodec),
   (request.json && !request.listDevices, .jsonWithoutList),
   (request.bridge.text.isEmpty, .emptyBridge),
   (request.castTool.text.isEmpty, .emptyCastTool)]

/-- Checks the rules before any tool is touched; the first broken one counts. -/
def check (request : Request) : Except RequestError Unit :=
  match request.rules.find? (·.1) with
  | some (_, error) => .error error
  | none => .ok ()

/-- A request passes exactly where it breaks no rule. -/
theorem check_eq_ok_iff {request : Request} :
    request.check = .ok () ↔ ∀ rule ∈ request.rules, rule.1 = false := by
  unfold check
  split
  · next broken error found =>
    simp only [reduceCtorEq, false_iff]
    intro kept
    exact Bool.noConfusion
      ((List.find?_some found).symm.trans (kept _ (List.mem_of_find?_eq_some found)))
  · next found =>
    simpa using found

end Request

end Screencast
