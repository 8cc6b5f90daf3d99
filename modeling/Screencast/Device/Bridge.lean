import Screencast.Device.Basic
import Screencast.Tool.Invoke

/-!
The bridge to the devices: a tool that lists the attached devices and queries each of them. A
device whose level cannot be queried is listed all the same.
-/

namespace Screencast

/-- A bridge that was found. -/
structure Bridge where
  path : ToolPath
deriving DecidableEq, Repr

/-- Why the level of a device is not known. -/
inductive QueryError where
  | tool (error : ToolError)
  | level (error : LevelError)
deriving DecidableEq, Repr

/-- What went wrong, in words. -/
def QueryError.message : QueryError → String
  | tool error => error.message
  | level error => error.message

namespace Bridge

/-- The name of the bridge where none is given. -/
def defaultPath : ToolPath := ⟨"adb"⟩

/-- The arguments that ask for the listing. -/
def listArgs : List String := ["devices", "-l"]

/-- The arguments that query the level of a device. -/
def queryArgs (serial : String) : List String :=
  ["-s", serial, "shell", "getprop", ApiLevel.property]

/-- Finds the bridge. -/
def find (host : Host) (tool : ToolPath) : Session (Except ToolError Bridge) := do
  match host.find tool with
  | .error error => return .error error
  | .ok path =>
    Session.log .debug .devices ("Using adb at " ++ path.text)
    return .ok ⟨path⟩

/-- Queries the level of a device. -/
def queryLevel (host : Host) (bridge : Bridge) (serial : String) :
    Session (Except QueryError ApiLevel) := do
  match ← host.capture bridge.path (queryArgs serial) with
  | .error error => return .error (.tool error)
  | .ok answer => return (ApiLevel.read answer).mapError QueryError.level

/-- The device of an entry, with its level where the query succeeds. -/
def identify (host : Host) (bridge : Bridge) (entry : Listing.Entry) : Session Device := do
  match ← queryLevel host bridge entry.serial with
  | .ok level => return Device.ofEntry entry (some level)
  | .error error =>
    Session.log .debug .devices
      ("Error getting SDK version for " ++ entry.serial ++ ": " ++ error.message)
    return Device.ofEntry entry none

/-- The ready devices, in the order of the listing. -/
def devices (host : Host) (bridge : Bridge) : Session (Except ToolError (List Device)) := do
  match ← host.capture bridge.path listArgs with
  | .error error => return .error error
  | .ok listing =>
    let entries := Listing.entries listing
    Session.log .debug .devices ("Found " ++ Text.decimal entries.length ++ " ready device(s)")
    return .ok (← entries.mapM (identify host bridge))

/-- Finds the bridge and asks it for the ready devices. -/
def findDevices (host : Host) (tool : ToolPath) : Session (Except ToolError (List Device)) := do
  match ← find host tool with
  | .error error => return .error error
  | .ok bridge => devices host bridge

end Bridge

end Screencast
