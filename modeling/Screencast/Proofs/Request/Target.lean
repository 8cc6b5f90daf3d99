import Screencast.Proofs.Request.Advisory
import Screencast.Proofs.Request.Rules

/-!
Asking for a device by its serial. The rule for the serial of a request and the reader of the
listing draw the line in one place, so whatever is listed can be asked for, and it is then cast
from by the same serial.
-/

namespace Screencast.Request

open Session Text

variable {host : Host} {request : Request} {serial : String}

/-! ### The rules for a serial -/

/-- The rules for a serial leave the rest of the request alone. -/
lemma check_of_serial (h : request.serial = some serial) :
    request.check = .ok () ↔
      Listing.IsSerial serial ∧ ({ request with serial := none } : Request).check = .ok () := by
  rw [check_eq_ok_iff_keeps, check_eq_ok_iff_keeps]
  constructor
  · intro hkeeps
    exact ⟨hkeeps.serial serial h, nofun, hkeeps.codec, hkeeps.json, hkeeps.bridge,
      hkeeps.castTool⟩
  · rintro ⟨hserial, hrest⟩
    refine ⟨?_, hrest.codec, hrest.json, hrest.bridge, hrest.castTool⟩
    intro serial' hserial'
    obtain rfl : serial = serial' := Option.some.inj (h.symm.trans hserial')
    exact hserial

lemma check_serial_iff : ({ serial := some serial } : Request).check = .ok () ↔
    Listing.IsSerial serial := by
  rw [check_of_serial rfl]
  refine and_iff_left ?_
  cbv

/-! ### A device of the listing -/

lemma isSerial_of_mem_found {tool : ToolPath} {found : List Device} {device : Device}
    (hvalue : (Bridge.findDevices host tool).value = .ok found) (hdevice : device ∈ found) :
    Listing.IsSerial device.serial := by
  obtain ⟨bridge, -, -, hentries⟩ := Bridge.lists_iff.2 ⟨found, hvalue, rfl⟩
  have hmem : device.entry ∈ found.map Device.entry := List.mem_map_of_mem hdevice
  rw [← hentries] at hmem
  exact Listing.isSerial_of_mem_entries hmem

/-- Advice on a device that is listed is about its level at most. -/
lemma message_ne_of_mem_advise {devices : List Device} {device : Device} {audio : Bool}
    (h : device ∈ devices) {record : LogRecord}
    (hrecord : record ∈ (advise devices device.serial audio).warnings) (name : String) :
    record.message ≠ "Device " ++ name ++ " is not in the list of ready devices" := by
  unfold advise at hrecord
  split at hrecord
  · next hnone =>
    have hother := List.find?_eq_none.1 hnone device h
    simp at hother
  · split at hrecord
    · obtain rfl := List.mem_singleton.1 hrecord
      -- the two texts begin with different letters
      intro hmessage
      have hhead := congrArg (fun text : String => text.toList.head?) hmessage
      simp [String.toList_append] at hhead
    · exact absurd hrecord List.not_mem_nil

/-- **Whatever is listed can be asked for.** A request for a device that the bridge lists passes
the rules if its other parts do, there is no warning that the device is not listed, and the casting
tool gets just this serial. The serials that the rules let through are those of the lines that
report a device; in a listing, they must not begin like a notice. -/
theorem listed_can_be_targeted :
    (∀ (host : Host) (request : Request) (found : List Device) (device : Device),
      (Bridge.findDevices host request.bridge).value = .ok found → device ∈ found →
      request.serial = some device.serial → request.listDevices = false →
      ({ request with serial := none } : Request).check = .ok () →
        request.check = .ok () ∧
        (∀ record ∈ (request.run host).warnings, ∀ name,
          record.message ≠ "Device " ++ name ++ " is not in the list of ready devices") ∧
        ∀ cast, host.Runs request.castTool (request.castOptions device.serial).toArgs cast →
          ∃ rest, (request.run host).calls.getLast? =
            some (cast.name, "-s" :: device.serial :: rest)) ∧
    (∀ serial, ({ serial := some serial } : Request).check = .ok () ↔
      ∃ line entry, Listing.Entry.ofLine? line = some entry ∧ entry.serial = serial) ∧
    ∀ serial, (∃ listing, ∃ entry ∈ Listing.entries listing, entry.serial = serial) ↔
      ({ serial := some serial } : Request).check = .ok () ∧ serial.toList.head? ≠ some '*' := by
  refine ⟨?_, ?_, ?_⟩
  · intro host request found device hvalue hdevice hserial hlist hrest
    have hcheck : request.check = .ok () :=
      (check_of_serial hserial).2 ⟨isSerial_of_mem_found hvalue hdevice, hrest⟩
    have hreaches : Reaches host request device.serial :=
      reaches_of_found hcheck hlist hserial hvalue (List.ne_nil_of_mem hdevice)
    refine ⟨hcheck, ?_, ?_⟩
    · intro record hrecord name
      rw [hreaches.warnings_run hvalue] at hrecord
      exact message_ne_of_mem_advise hdevice hrecord name
    · intro cast hcast
      exact ⟨_, getLast?_calls_run hreaches hcast⟩
  · intro serial
    rw [check_serial_iff]
    exact Listing.isSerial_iff
  · intro serial
    rw [check_serial_iff]
    exact Listing.exists_mem_entries_iff

/-- The device that is too old for audio is listed, and it can be asked for. -/
theorem listed_can_be_targeted_old :
    ∃ found device, (Bridge.findDevices oldHost castRequest.bridge).value = .ok found ∧
      device ∈ found ∧ castRequest.serial = some device.serial ∧ castRequest.check = .ok () ∧
      ∃ rest, (castRequest.run oldHost).calls.getLast? =
        some ("scrcpy", "-s" :: device.serial :: rest) := by
  have ha : Listing.IsSerial (String.ofList ['a']) :=
    Listing.isSerial_singleton (by decide)
  have hentries := Listing.entries_readyLineOf ha (by decide)
  have hlists : Bridge.Lists oldHost castRequest.bridge _ :=
    ⟨_, runs_bridge_castHost _ _, rfl, (congrArg Listing.entries (decodeUtf8_utf8 _)).trans hentries⟩
  obtain ⟨found, hvalue, hfound⟩ := Bridge.lists_iff.1 hlists
  obtain ⟨device, rfl, hentry⟩ := List.map_eq_singleton_iff.1 hfound
  have hserial : device.serial = "a" := congrArg Listing.Entry.serial hentry
  have htarget : castRequest.serial = some device.serial := by
    rw [hserial]
    rfl
  obtain ⟨hcheck, -, hcast⟩ := listed_can_be_targeted.1 oldHost castRequest [device] device hvalue
    (List.mem_singleton.2 rfl) htarget rfl (by cbv)
  have hruns : oldHost.Runs castRequest.castTool (castRequest.castOptions device.serial).toArgs
      ⟨"scrcpy", ⟨utf8 "INFO: casting\n", [], .code 0⟩⟩ := by
    rw [hserial]
    exact ⟨⟨"/scrcpy"⟩, find_castTool_castHost _ _, rfl⟩
  obtain ⟨rest, hrest⟩ := hcast _ hruns
  exact ⟨[device], device, hvalue, List.mem_singleton.2 rfl, htarget, hcheck, rest, hrest⟩

end Screencast.Request
