import Screencast.Program
import Screencast.Proofs.Json.RoundTrip
import Screencast.Proofs.Request.Outcome

/-!
The listing as a JSON document. A reader gets all parts of all devices back from it, whatever
characters stand in them, and a run that lists the devices in this form writes the document and
nothing else.
-/

namespace Screencast

open Session Text

/-! ### The document -/

namespace Device

/-- A device as a reader gets it: five members, of which the level and the model may be null. -/
def object (device : Device) : Json.Value :=
  .object
    [("serial", .string device.serial),
     ("sdk_level", match device.level with
      | some level => .number level.toNat 0
      | none => .null),
     ("audio_capable", .bool device.hasAudio),
     ("model", match device.model with
      | some model => .string model
      | none => .null),
     ("full_info", .string device.line)]

lemma toValue_toJson (device : Device) : device.toJson.toValue = device.object := by
  obtain ⟨serial, level, hasAudio, model, line⟩ := device
  cases level <;> cases model <;> rfl

lemma toValues_toJson (devices : List Device) :
    Json.toValues (devices.map toJson) = devices.map object := by
  induction devices with
  | nil => rfl
  | cons device devices ih =>
    show device.toJson.toValue :: Json.toValues (devices.map toJson) = _
    rw [ih, toValue_toJson, List.map_cons]

lemma read_renderAll (devices : List Device) :
    Json.read (renderAll devices) = some (.array (devices.map object)) := by
  unfold renderAll
  rw [Json.read_render]
  show some (Json.Value.array (Json.toValues (devices.map toJson))) = _
  rw [toValues_toJson]

/-- No part of a device is lost in its object. -/
lemma object_injective : Function.Injective object := by
  rintro ⟨serial, level, hasAudio, model, line⟩ ⟨serial', level', hasAudio', model', line'⟩ h
  have hmembers := Json.Value.object.inj h
  simp only [List.cons.injEq, Prod.mk.injEq, true_and, and_true, Json.Value.string.injEq,
    Json.Value.bool.injEq] at hmembers
  obtain ⟨rfl, hlevel, rfl, hmodel, rfl⟩ := hmembers
  obtain rfl : level = level' := by
    cases level <;> cases level' <;> simp_all [UInt32.toNat_inj]
  obtain rfl : model = model' := by
    cases model <;> cases model' <;> simp_all
  rfl

lemma renderAll_injective : Function.Injective renderAll := by
  intro devices devices' h
  have hread := congrArg Json.read h
  rw [read_renderAll, read_renderAll] at hread
  have hobjects : devices.map object = devices'.map object := by
    simpa using hread
  exact List.map_injective_iff.2 object_injective hobjects

end Device

/-! ### The run -/

namespace Request

variable {host : Host} {request : Request}

lemma stdout_report_json (devices : List Device) :
    (report true devices).stdout = utf8 (Device.renderAll devices ++ "\n") :=
  List.append_nil _

/-- A run for a list reports success where the rules are kept and the devices are found. -/
lemma exitCode_run_of_list (hlist : request.listDevices = true) :
    Program.exitCode (request.run host).value = 0 ↔
      request.check = .ok () ∧
        ∃ found, (Bridge.findDevices host request.bridge).value = .ok found := by
  rcases hcheck : request.check with error | ⟨⟩
  · rw [run_of_error hcheck]
    simp [Program.exitCode]
  rcases hvalue : (Bridge.findDevices host request.bridge).value with failure | found
  · rw [(run_of_bridgeFailed ⟨hcheck, .inl hlist⟩ hvalue).1]
    simp [Program.exitCode, Outcome.exitCode]
  · rw [(run_of_list hcheck hlist hvalue).1]
    simp [Program.exitCode, Outcome.exitCode]

end Request

/-- **The JSON listing is faithful.** A reader of JSON gets an object with the five members of each
device from it, in the order of the devices, so different lists have different documents. A command
line that lists the devices in this form succeeds where the devices are found, whatever filter the
log has, and then writes their document and a line break, and nothing else. -/
theorem json_listing_is_faithful :
    (∀ devices, Json.read (Device.renderAll devices) =
      some (.array (devices.map Device.object))) ∧
    (∀ devices devices', Device.renderAll devices = Device.renderAll devices' →
      devices = devices') ∧
    ∀ host env time words request, CommandLine.parse env words = .ok request →
      request.listDevices = true → request.json = true →
        ((Program.run host env time words).exitCode = 0 ↔
          request.check = .ok () ∧
            ∃ found, (Bridge.findDevices host request.bridge).value = .ok found) ∧
        ∀ found, (Bridge.findDevices host request.bridge).value = .ok found →
          (Program.run host env time words).exitCode = 0 →
            (Program.run host env time words).stdout =
              utf8 (Device.renderAll found ++ "\n") := by
  refine ⟨Device.read_renderAll, fun _ _ h => Device.renderAll_injective h, ?_⟩
  intro host env time words request hparse hlist hjson
  have hrun : Program.run host env time words = Program.performed host env time request := by
    unfold Program.run
    rw [hparse]
  have hexit : (Program.run host env time words).exitCode = 0 ↔
      request.check = .ok () ∧
        ∃ found, (Bridge.findDevices host request.bridge).value = .ok found := by
    rw [hrun]
    exact Request.exitCode_run_of_list hlist
  refine ⟨hexit, ?_⟩
  intro found hvalue hzero
  have hstdout := Request.stdout_run_of_list (hexit.1 hzero).1 hlist hvalue
  rw [hjson, Request.stdout_report_json] at hstdout
  rw [hrun]
  exact hstdout

/-- A device with a quote in its serial. -/
def quotedDevice : Device := ⟨"a\"b", some 34, true, none, "a\"b device"⟩

/-- A host with a bridge that lists this device. -/
def quotedHost : Host := Request.bridgeHost "\na\"b device"

lemma findDevices_quotedHost :
    (Bridge.findDevices quotedHost Bridge.defaultPath).value = .ok [quotedDevice] := by
  have hserial : Listing.IsSerial "a\"b" := ⟨by decide, by simp [isBlank]⟩
  have htext : "\na\"b device" = String.ofList (join ['\n'] [[], Listing.readyLineOf "a\"b"]) :=
    rfl
  have hentries : Listing.entries "\na\"b device" = [⟨"a\"b", none, "a\"b device"⟩] := by
    rw [htext, Listing.entries_readyLineOf hserial (by decide), Listing.trim_readyLineOf hserial]
    rfl
  have hlisting : quotedHost.Answers ⟨"/adb"⟩ Bridge.listArgs "\na\"b device" :=
    ⟨⟨"adb", ⟨utf8 "\na\"b device", [], .code 0⟩⟩, rfl, rfl, decodeUtf8_utf8 _⟩
  have hanswer : quotedHost.Answers ⟨"/adb"⟩ (Bridge.queryArgs "a\"b") "34\n" :=
    ⟨⟨"adb", ⟨utf8 "34\n", [], .code 0⟩⟩, rfl, rfl, decodeUtf8_utf8 _⟩
  have hlevel : (Bridge.queryLevel quotedHost ⟨⟨"/adb"⟩⟩ "a\"b").value = .ok 34 :=
    Bridge.value_queryLevel_eq_ok.2 ⟨_, hanswer, by cbv⟩
  have hfind : quotedHost.find Bridge.defaultPath = .ok ⟨"/adb"⟩ := Request.find_bridgeHost _
  rw [Bridge.findDevices_of_ok hfind, value_bind,
    Bridge.value_devices_of_answers hlisting, hentries, List.map_singleton, Bridge.value_identify,
    hlevel]
  rfl

/-- The document of this device is what a command line for it writes, and a reader gets the quote
back. -/
theorem json_listing_is_faithful_quoted :
    CommandLine.parse {} ["--list-devices", "--json"] =
      .ok { listDevices := true, json := true } ∧
    (Program.run quotedHost {} none ["--list-devices", "--json"]).exitCode = 0 ∧
    (Program.run quotedHost {} none ["--list-devices", "--json"]).stdout =
      utf8 (Device.renderAll [quotedDevice] ++ "\n") ∧
    Json.read (Device.renderAll [quotedDevice]) =
      some (.array [.object [("serial", .string "a\"b"), ("sdk_level", .number 34 0),
        ("audio_capable", .bool true), ("model", .null), ("full_info", .string "a\"b device")]]) := by
  have hparse : CommandLine.parse {} ["--list-devices", "--json"] =
      .ok { listDevices := true, json := true } := by
    decide +kernel
  have hcheck : Request.check { listDevices := true, json := true } = .ok () := by cbv
  obtain ⟨hread, -, hrun⟩ := json_listing_is_faithful
  obtain ⟨hexit, hstdout⟩ := hrun quotedHost {} none _ _ hparse rfl rfl
  have hzero := hexit.2 ⟨hcheck, _, findDevices_quotedHost⟩
  exact ⟨hparse, hzero, hstdout _ findDevices_quotedHost hzero, hread _⟩

end Screencast
