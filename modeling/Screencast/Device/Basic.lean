import Screencast.Device.Level
import Screencast.Device.Listing
import Screencast.Json

/-!
Devices as they are reported: an entry of the listing together with what is known of its API
level, as a line of text and as a JSON document.
-/

namespace Screencast

/-- An attached device that is ready. -/
structure Device where
  serial : String
  /-- The API level, where it could be read. -/
  level : Option ApiLevel
  /-- Audio can be forwarded from the device. -/
  hasAudio : Bool
  model : Option String
  /-- The line of the listing. -/
  line : String
deriving DecidableEq, Repr

namespace Device

/-- The device of an entry whose level is known, or is not. -/
def ofEntry (entry : Listing.Entry) (level : Option ApiLevel) : Device where
  serial := entry.serial
  level := level
  hasAudio := ApiLevel.allowsAudio level
  model := entry.model
  line := entry.line

/-- The line of the listing, and whether audio can be forwarded. -/
def summary (device : Device) : String :=
  device.line ++ if device.hasAudio then " (Audio: Possible)" else " (Audio: Not Possible)"

/-- The device as a JSON object. -/
def toJson (device : Device) : Json :=
  .object
    [("serial", .string device.serial),
     ("sdk_level", (device.level.map fun level => Json.number level.toNat).getD .null),
     ("audio_capable", .bool device.hasAudio),
     ("model", (device.model.map Json.string).getD .null),
     ("full_info", .string device.line)]

/-- The devices as a JSON document, in their order. -/
def renderAll (devices : List Device) : String := (Json.array (devices.map toJson)).render

end Device

/-- What is told when no device is ready. -/
def noDevicesMessage : String := "No devices found."

end Screencast
