import Mathlib.Data.List.Forall2
import Screencast.Device.Bridge
import Screencast.Proofs.Tool.Invoke

/-!
The ready devices of a bridge. A listing that fails is the failure of the whole, but a query that
fails only leaves the level of its own device unknown: the devices go along with the entries of the
listing one by one.
-/

namespace Screencast

/-- What a device was reported by: the device without its level. -/
def Device.entry (device : Device) : Listing.Entry := ⟨device.serial, device.model, device.line⟩

namespace Bridge

open Session

variable {host : Host} {bridge : Bridge}

/-! ### One device -/

lemma value_queryLevel (host : Host) (bridge : Bridge) (serial : String) :
    (queryLevel host bridge serial).value =
      match (host.capture bridge.path (queryArgs serial)).value with
      | .error error => .error (.tool error)
      | .ok answer => (ApiLevel.read answer).mapError QueryError.level := by
  unfold queryLevel
  rw [value_bind]
  cases (host.capture bridge.path (queryArgs serial)).value <;> rfl

/-- A query finds the level that the bridge answers. -/
theorem value_queryLevel_eq_ok {serial : String} {level : ApiLevel} :
    (queryLevel host bridge serial).value = .ok level ↔
      ∃ answer, host.Answers bridge.path (queryArgs serial) answer ∧
        ApiLevel.read answer = .ok level := by
  simp only [← Host.value_capture_eq_ok, value_queryLevel]
  rcases (host.capture bridge.path (queryArgs serial)).value with error | answer
  · simp
  · rcases hread : ApiLevel.read answer with error | level' <;> simp [Except.mapError, hread]

/-- A query fails where the bridge refuses it, or where its answer is no level. -/
theorem exists_queryLevel_eq_error {serial : String} :
    (∃ error, (queryLevel host bridge serial).value = .error error) ↔
      (∃ failure, host.Refuses bridge.path (queryArgs serial) failure) ∨
        ∃ answer invalid, host.Answers bridge.path (queryArgs serial) answer ∧
          ApiLevel.read answer = .error invalid := by
  simp only [← Host.value_capture_eq_ok, ← Host.value_capture_eq_error, value_queryLevel]
  rcases (host.capture bridge.path (queryArgs serial)).value with failure | answer
  · simp
  · rcases hread : ApiLevel.read answer with invalid | level <;> simp [Except.mapError, hread]

/-- A device is identified by its entry and by the level that a query finds, if it finds one. -/
lemma value_identify (host : Host) (bridge : Bridge) (entry : Listing.Entry) :
    (identify host bridge entry).value =
      Device.ofEntry entry (queryLevel host bridge entry.serial).value.toOption := by
  unfold identify
  rw [value_bind]
  rcases (queryLevel host bridge entry.serial).value with error | level <;> rfl

/-- A device is what its entry says and what a query of its own finds out. -/
structure Describes (host : Host) (bridge : Bridge) (entry : Listing.Entry) (device : Device) :
    Prop where
  serial : device.serial = entry.serial
  model : device.model = entry.model
  line : device.line = entry.line
  level : ∀ level, device.level = some level ↔
    (queryLevel host bridge entry.serial).value = .ok level
  /-- The level is unknown where the bridge refuses the query, or answers with something else. -/
  unknown : device.level = none ↔
    (∃ failure, host.Refuses bridge.path (queryArgs entry.serial) failure) ∨
      ∃ answer invalid, host.Answers bridge.path (queryArgs entry.serial) answer ∧
        ApiLevel.read answer = .error invalid
  audio : device.hasAudio = true ↔ ∃ level, device.level = some level ∧ 30 ≤ level

lemma describes_identify (host : Host) (bridge : Bridge) (entry : Listing.Entry) :
    Describes host bridge entry (identify host bridge entry).value := by
  rw [value_identify]
  refine ⟨rfl, rfl, rfl, fun level => ?_, ?_, ?_⟩
  · rcases (queryLevel host bridge entry.serial).value with error | level' <;>
      simp [Device.ofEntry, Except.toOption]
  · rw [← exists_queryLevel_eq_error]
    rcases (queryLevel host bridge entry.serial).value with error | level <;>
      simp [Device.ofEntry, Except.toOption]
  · rcases (queryLevel host bridge entry.serial).value with error | level
    · simp [Device.ofEntry, Except.toOption, ApiLevel.allowsAudio]
    · refine decide_eq_true_iff.trans ⟨fun h => ⟨level, rfl, h⟩, ?_⟩
      rintro ⟨found, hfound, h⟩
      obtain rfl : level = found := Option.some.inj hfound
      exact h

/-- Entry and query leave nothing open. -/
lemma describes_iff {entry : Listing.Entry} {device : Device} :
    Describes host bridge entry device ↔ (identify host bridge entry).value = device := by
  have hi := describes_identify host bridge entry
  constructor
  · intro h
    have hlevel : (identify host bridge entry).value.level = device.level :=
      Option.ext fun level => (hi.level level).trans (h.level level).symm
    have haudio : (identify host bridge entry).value.hasAudio = device.hasAudio := by
      rw [Bool.eq_iff_iff, hi.audio, h.audio, hlevel]
    rw [Device.mk.injEq]
    exact ⟨hi.serial.trans h.serial.symm, hlevel, haudio, hi.model.trans h.model.symm,
      hi.line.trans h.line.symm⟩
  · rintro rfl
    exact hi

/-! ### All devices -/

lemma value_devices (host : Host) (bridge : Bridge) :
    (devices host bridge).value =
      (host.capture bridge.path listArgs).value.map fun listing =>
        (Listing.entries listing).map fun entry => (identify host bridge entry).value := by
  unfold devices
  rw [value_bind]
  rcases (host.capture bridge.path listArgs).value with error | listing
  · rfl
  · change Except.ok ((Listing.entries listing).mapM (identify host bridge)).value = _
    rw [value_mapM]
    rfl

lemma value_devices_of_answers {listing : String}
    (h : host.Answers bridge.path listArgs listing) :
    (devices host bridge).value =
      .ok ((Listing.entries listing).map fun entry => (identify host bridge entry).value) := by
  rw [value_devices, Host.value_capture_eq_ok.2 h]
  rfl

/-- The devices of some entries were reported by these entries. -/
lemma entries_identify (host : Host) (bridge : Bridge) (entries : List Listing.Entry) :
    (entries.map fun entry => (identify host bridge entry).value).map Device.entry = entries := by
  rw [List.map_map]
  conv_rhs => rw [← List.map_id entries]
  refine List.map_congr_left fun entry _ => ?_
  rw [Function.comp_apply, value_identify]
  rfl

lemma value_devices_eq_error {failure : ToolError} :
    (devices host bridge).value = .error failure ↔
      host.Refuses bridge.path listArgs failure := by
  rw [← Host.value_capture_eq_error, value_devices]
  rcases (host.capture bridge.path listArgs).value with error | listing <;> simp [Except.map]

lemma value_devices_eq_ok {devices : List Device} :
    (Bridge.devices host bridge).value = .ok devices ↔
      ∃ listing, host.Answers bridge.path listArgs listing ∧
        List.Forall₂ (Describes host bridge) (Listing.entries listing) devices := by
  have hall : ∀ entries : List Listing.Entry, List.Forall₂ (Describes host bridge) entries devices ↔
      entries.map (fun entry => (identify host bridge entry).value) = devices := by
    intro entries
    have hrel : Describes host bridge =
        fun entry device => (identify host bridge entry).value = device := by
      funext entry device
      exact propext describes_iff
    rw [hrel, ← List.forall₂_map_left_iff (R := Eq), List.forall₂_eq_eq_eq]
  simp only [← Host.value_capture_eq_ok, value_devices, hall]
  rcases (host.capture bridge.path listArgs).value with error | listing <;> simp [Except.map]

/-- The bridge is started for the listing, and once more for each entry that it answers. -/
lemma calls_devices (host : Host) (bridge : Bridge) :
    (devices host bridge).calls =
      (host.capture bridge.path listArgs).calls ++
        match (host.capture bridge.path listArgs).value with
        | .error _ => []
        | .ok listing =>
          (Listing.entries listing).flatMap fun entry => (identify host bridge entry).calls := by
  unfold devices
  rw [calls_bind]
  rcases (host.capture bridge.path listArgs).value with error | listing
  · rfl
  · dsimp only
    rw [calls_bind, calls_log, calls_bind, calls_mapM, calls_pure, List.nil_append, List.append_nil]

/-- Where a bridge refuses to list, it is asked for nothing else. -/
lemma calls_devices_of_refuses {failure : ToolError}
    (h : host.Refuses bridge.path listArgs failure) :
    ∀ call ∈ (devices host bridge).calls, call.2 = listArgs := by
  intro call hcall
  rw [calls_devices, Host.value_capture_eq_error.2 h, List.append_nil, Host.calls_capture] at hcall
  obtain ⟨started, -, rfl⟩ := Option.map_eq_some_iff.1 (Option.mem_toList.1 hcall)
  rfl

/-- A device depends on no query but its own. -/
lemma getElem?_devices {other : Host} {listing : String} {found found' : List Device}
    (hlisting : host.Answers bridge.path listArgs listing)
    (hother : other.Answers bridge.path listArgs listing)
    (hfound : (devices host bridge).value = .ok found)
    (hfound' : (devices other bridge).value = .ok found') {i : Nat} {entry : Listing.Entry}
    (hentry : (Listing.entries listing)[i]? = some entry)
    (hquery : (queryLevel host bridge entry.serial).value =
      (queryLevel other bridge entry.serial).value) : found[i]? = found'[i]? := by
  rw [value_devices_of_answers hlisting] at hfound
  rw [value_devices_of_answers hother] at hfound'
  obtain rfl := Except.ok.inj hfound
  obtain rfl := Except.ok.inj hfound'
  rw [List.getElem?_map, List.getElem?_map, hentry, Option.map_some, Option.map_some,
    value_identify, value_identify, hquery]

/-- Devices with one serial have one level. -/
lemma level_eq_of_serial_eq {found : List Device} (hfound : (devices host bridge).value = .ok found)
    {device device' : Device} (hdevice : device ∈ found) (hdevice' : device' ∈ found)
    (hserial : device.serial = device'.serial) :
    device.level = device'.level ∧ device.hasAudio = device'.hasAudio := by
  obtain ⟨listing, hlisting, -⟩ := value_devices_eq_ok.1 hfound
  rw [value_devices_of_answers hlisting] at hfound
  obtain rfl := Except.ok.inj hfound
  obtain ⟨entry, -, rfl⟩ := List.mem_map.1 hdevice
  obtain ⟨entry', -, rfl⟩ := List.mem_map.1 hdevice'
  rw [value_identify, value_identify] at hserial ⊢
  have hentry : entry.serial = entry'.serial := hserial
  rw [hentry]
  exact ⟨rfl, rfl⟩

/-- **The ready devices of a bridge.** Where the bridge refuses to list, that is the error, and it
is asked for nothing else. Otherwise there is one device for each entry of the listing, in the order
of the entries, each with the level that a query of its own finds; a query has no influence on
another device, and the same query finds the same level. -/
theorem devices_one_by_one (host : Host) (bridge : Bridge) :
    (∀ failure, (devices host bridge).value = .error failure ↔
      host.Refuses bridge.path listArgs failure ∧
        ∀ call ∈ (devices host bridge).calls, call.2 = listArgs) ∧
    (∀ found, (devices host bridge).value = .ok found ↔
      ∃ listing, host.Answers bridge.path listArgs listing ∧
        List.Forall₂ (Describes host bridge) (Listing.entries listing) found) ∧
    (∀ (other : Host) (listing : String) (found found' : List Device),
      host.Answers bridge.path listArgs listing → other.Answers bridge.path listArgs listing →
      (devices host bridge).value = .ok found → (devices other bridge).value = .ok found' →
      ∀ (i : Nat) (entry : Listing.Entry), (Listing.entries listing)[i]? = some entry →
        (queryLevel host bridge entry.serial).value =
          (queryLevel other bridge entry.serial).value → found[i]? = found'[i]?) ∧
    ∀ found, (devices host bridge).value = .ok found →
      ∀ device ∈ found, ∀ device' ∈ found, device.serial = device'.serial →
        device.level = device'.level ∧ device.hasAudio = device'.hasAudio := by
  refine ⟨fun failure => ?_, fun found => value_devices_eq_ok, ?_, ?_⟩
  · rw [value_devices_eq_error]
    exact ⟨fun h => ⟨h, calls_devices_of_refuses h⟩, fun h => h.1⟩
  · intro other listing found found' hlisting hother hfound hfound' i entry hentry hquery
    exact getElem?_devices hlisting hother hfound hfound' hentry hquery
  · intro found hfound device hdevice device' hdevice' hserial
    exact level_eq_of_serial_eq hfound hdevice hdevice' hserial

/-! ### What else can be seen -/

lemma quiet_queryLevel (host : Host) (bridge : Bridge) (serial : String) :
    (queryLevel host bridge serial).Quiet := by
  unfold queryLevel
  refine (Host.quiet_capture ..).bind ?_
  split
  · exact Quiet.pure _
  · exact Quiet.pure _

lemma quiet_identify (host : Host) (bridge : Bridge) (entry : Listing.Entry) :
    (identify host bridge entry).Quiet := by
  unfold identify
  refine (quiet_queryLevel ..).bind ?_
  split
  · exact Quiet.pure _
  · exact (Quiet.log ..).bind (Quiet.pure _)

/-- Listing the devices writes nothing, whether or not it succeeds. -/
lemma quiet_devices (host : Host) (bridge : Bridge) : (devices host bridge).Quiet := by
  unfold devices
  refine (Host.quiet_capture ..).bind ?_
  split
  · exact Quiet.pure _
  · exact (Quiet.log ..).bind ((Quiet.mapM fun entry _ => quiet_identify ..).bind (Quiet.pure _))

section Logged

variable {kind : LogRecord → Prop} (htools : ∀ message, kind ⟨.debug, .tools, message⟩)

include htools

lemma logs_queryLevel (host : Host) (bridge : Bridge) (serial : String) :
    (queryLevel host bridge serial).Logs kind := by
  unfold queryLevel
  refine (Host.logs_capture htools ..).bind ?_
  split
  · exact Logs.pure _
  · exact Logs.pure _

variable (hdevices : ∀ message, kind ⟨.debug, .devices, message⟩)

include hdevices

lemma logs_identify (host : Host) (bridge : Bridge) (entry : Listing.Entry) :
    (identify host bridge entry).Logs kind := by
  unfold identify
  refine (logs_queryLevel htools ..).bind ?_
  split
  · exact Logs.pure _
  · exact (Logs.log (hdevices _)).bind (Logs.pure _)

/-- Listing the devices is logged for debugging only, even where a level is not known. -/
lemma logs_devices (host : Host) (bridge : Bridge) : (devices host bridge).Logs kind := by
  unfold devices
  refine (Host.logs_capture htools ..).bind ?_
  split
  · exact Logs.pure _
  · exact (Logs.log (hdevices _)).bind
      ((Logs.mapM fun entry _ => logs_identify htools hdevices ..).bind (Logs.pure _))

end Logged

/-- A device is identified by one query and nothing else. -/
lemma calls_identify (host : Host) (bridge : Bridge) (entry : Listing.Entry) :
    (identify host bridge entry).calls =
      (host.capture bridge.path (queryArgs entry.serial)).calls := by
  have hquery : (queryLevel host bridge entry.serial).calls =
      (host.capture bridge.path (queryArgs entry.serial)).calls := by
    unfold queryLevel
    rw [calls_bind]
    cases (host.capture bridge.path (queryArgs entry.serial)).value <;>
      rw [calls_pure, List.append_nil]
  unfold identify
  rw [calls_bind, hquery]
  cases (queryLevel host bridge entry.serial).value with
  | ok level => rw [calls_pure, List.append_nil]
  | error error => rw [calls_bind, calls_log, calls_pure, List.append_nil, List.append_nil]

/-! ### Finding the bridge -/

section Find

variable {tool : ToolPath}

/-- The bridge that is found for a tool lists entries. -/
def Lists (host : Host) (tool : ToolPath) (entries : List Listing.Entry) : Prop :=
  ∃ started, host.Runs tool listArgs started ∧ started.response.exit = .code 0 ∧
    Listing.entries (Text.decodeUtf8 started.response.stdout) = entries

lemma findDevices_of_error {error : ToolError} (h : host.find tool = .error error) :
    findDevices host tool = pure (.error error) := by
  unfold findDevices find
  rw [h]
  rfl

lemma findDevices_of_ok {path : ToolPath} (h : host.find tool = .ok path) :
    findDevices host tool =
      Session.log .debug .devices ("Using adb at " ++ path.text) >>= fun _ =>
        devices host ⟨path⟩ := by
  unfold findDevices find
  rw [h]
  rfl

lemma quiet_findDevices (host : Host) (tool : ToolPath) : (findDevices host tool).Quiet := by
  rcases h : host.find tool with error | path
  · rw [findDevices_of_error h]
    exact Quiet.pure _
  · rw [findDevices_of_ok h]
    exact (Quiet.log ..).bind (quiet_devices ..)

lemma logs_findDevices {kind : LogRecord → Prop} (htools : ∀ message, kind ⟨.debug, .tools, message⟩)
    (hdevices : ∀ message, kind ⟨.debug, .devices, message⟩) (host : Host) (tool : ToolPath) :
    (findDevices host tool).Logs kind := by
  rcases h : host.find tool with error | path
  · rw [findDevices_of_error h]
    exact Logs.pure _
  · rw [findDevices_of_ok h]
    exact (Logs.log (hdevices _)).bind (logs_devices htools hdevices ..)

lemma calls_findDevices_of_ok {path : ToolPath} (h : host.find tool = .ok path) :
    (findDevices host tool).calls = (devices host ⟨path⟩).calls := by
  rw [findDevices_of_ok h, calls_bind, calls_log, List.nil_append]

theorem value_findDevices_eq_error {failure : ToolError} :
    (findDevices host tool).value = .error failure ↔ host.Fails tool listArgs failure := by
  constructor
  · intro hvalue
    rcases h : host.find tool with error | path
    · rw [findDevices_of_error h] at hvalue
      obtain rfl := Except.error.inj hvalue
      exact .notFound h
    · rw [findDevices_of_ok h, value_bind] at hvalue
      exact .refused h (value_devices_eq_error.1 hvalue)
  · rintro (h | ⟨h, hrefuses⟩)
    · rw [findDevices_of_error h, value_pure]
    · rw [findDevices_of_ok h, value_bind]
      exact value_devices_eq_error.2 hrefuses

/-- The devices found are those of the entries that the bridge lists. -/
theorem lists_iff {entries : List Listing.Entry} :
    Lists host tool entries ↔
      ∃ found, (findDevices host tool).value = .ok found ∧ found.map Device.entry = entries := by
  constructor
  · rintro ⟨started, ⟨path, hfind, hstart⟩, hexit, rfl⟩
    refine ⟨_, ?_, entries_identify host ⟨path⟩ _⟩
    rw [findDevices_of_ok hfind, value_bind,
      value_devices_of_answers ⟨started, hstart, hexit, rfl⟩]
  · rintro ⟨found, hvalue, rfl⟩
    rcases hfind : host.find tool with error | path
    · rw [findDevices_of_error hfind] at hvalue
      cases hvalue
    · rw [findDevices_of_ok hfind, value_bind] at hvalue
      obtain ⟨listing, hlisting, -⟩ := value_devices_eq_ok.1 hvalue
      rw [value_devices_of_answers hlisting] at hvalue
      obtain rfl := Except.ok.inj hvalue
      obtain ⟨started, hstart, hexit, rfl⟩ := hlisting
      exact ⟨started, ⟨path, hfind, hstart⟩, hexit, (entries_identify ..).symm⟩

/-- A device that is found is described by its entry and by the query of its own. -/
lemma describes_of_mem_found {found : List Device} {device : Device}
    (hvalue : (findDevices host tool).value = .ok found) (hdevice : device ∈ found) :
    ∃ bridge, Describes host bridge device.entry device := by
  rcases hfind : host.find tool with error | path
  · rw [findDevices_of_error hfind] at hvalue
    cases hvalue
  · rw [findDevices_of_ok hfind, value_bind] at hvalue
    obtain ⟨listing, hlisting, -⟩ := value_devices_eq_ok.1 hvalue
    rw [value_devices_of_answers hlisting] at hvalue
    obtain rfl := Except.ok.inj hvalue
    obtain ⟨entry, -, rfl⟩ := List.mem_map.1 hdevice
    have hdescribes := describes_identify host ⟨path⟩ entry
    have hentry : (identify host ⟨path⟩ entry).value.entry = entry := by
      rw [value_identify]
      rfl
    exact ⟨⟨path⟩, hentry.symm ▸ hdescribes⟩

end Find

end Bridge

end Screencast
