import Screencast.Request.Basic

/-!
The work on a request: the devices are listed first, then either they are printed, or the device
that was asked for is looked up among them and the cast is launched. What the listing says about
that device only leads to warnings.
-/

namespace Screencast.Request

/-- Prints the devices as text or as a JSON document. -/
def report (json : Bool) (devices : List Device) : Session Unit :=
  if json then Session.writeLine (Device.renderAll devices)
  else if devices.isEmpty then Session.writeLine noDevicesMessage
  else Session.writeLines (devices.map Device.summary)

/-- Warns of a device that the casting tool is likely to refuse. -/
def advise (devices : List Device) (serial : String) (audio : Bool) : Session Unit :=
  match devices.find? (·.serial = serial) with
  | none =>
    Session.log .warn .request ("Device " ++ serial ++ " is not in the list of ready devices")
  | some device =>
    if audio && !device.hasAudio then
      Session.log .warn .request
        ("Audio forwarding needs API level " ++ Text.decimal ApiLevel.firstWithAudio.toNat ++
          " or newer; " ++ serial ++ " reports " ++
          ((device.level.map fun level => Text.decimal level.toNat).getD "unknown"))
    else pure ()

/-- Tells which devices were found, if that is wanted. -/
def announce (verbose : Bool) (devices : List Device) : Session Unit :=
  if verbose then Session.writeLines (devices.map fun device => "Found device: " ++ device.summary)
  else pure ()

/-- Launches the cast from a device. -/
def launch (host : Host) (request : Request) (serial : String) : Session Outcome := do
  match ← (request.castOptions serial).launch host request.castTool with
  | .ok () => return .launched
  | .error error =>
    Session.log .error .request ("Error running scrcpy: " ++ error.message)
    return .failed

/-- Casts from a device, knowing which devices are ready; without any there is nothing to try. -/
def cast (host : Host) (request : Request) (serial : String) (devices : List Device) :
    Session Outcome :=
  if devices.isEmpty then do
    Session.complainLine noDevicesMessage
    return .noDevices
  else do
    announce request.verbose devices
    advise devices serial (!request.noAudio)
    launch host request serial

/-- Lists the devices, and goes on with them where that succeeds. -/
def withDevices (host : Host) (request : Request) (next : List Device → Session Outcome) :
    Session Outcome := do
  match ← Bridge.findDevices host request.bridge with
  | .ok devices => next devices
  | .error error =>
    Session.log .error .request ("Error communicating with adb: " ++ error.message)
    return .failed

/-- The work on a request that keeps the rules. -/
def perform (host : Host) (request : Request) : Session Outcome :=
  if request.listDevices then
    request.withDevices host fun devices => do
      report request.json devices
      return .listed
  else
    match request.serial with
    | none => return .missingSerial
    | some serial => request.withDevices host (request.cast host serial)

/-- Checks a request and does the work. -/
def run (host : Host) (request : Request) : Session (Except RequestError Outcome) := do
  match request.check with
  | .error error => return .error error
  | .ok () => return .ok (← request.perform host)

end Screencast.Request
