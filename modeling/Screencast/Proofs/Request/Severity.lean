import Screencast.Proofs.Device.Note
import Screencast.Proofs.Request.Advisory

/-!
How grave the log records of a run are. What the listing and the launch log is for debugging, advice
is a warning between the two, and an error stands at the end of the log of a run that fails and
nowhere else. A level that cannot be queried is no error: each device without a level has one record
for debugging that says why.
-/

namespace Screencast

open Session Text

namespace Request

/-! ### The log of a run, stage by stage -/

/-- What is said of a failure, by the tool that failed. -/
inductive Failure (host : Host) (request : Request) : String → Prop
  | bridge {failure : ToolError} (asks : request.Asks)
    (fails : host.Fails request.bridge Bridge.listArgs failure) :
    Failure host request ("Error communicating with adb: " ++ failure.message)
  | cast {serial : String} {failure : ToolError} (reaches : Reaches host request serial)
    (fails : host.Fails request.castTool (request.castOptions serial).toArgs failure) :
    Failure host request ("Error running scrcpy: " ++ failure.message)

/-- The log of a run is that of the listing, then advice, then that of the launch, and at last the
failure of the run. -/
structure Staged (host : Host) (request : Request)
    (listing advice launch failure : List LogRecord) : Prop where
  records : (request.run host).records = listing ++ (advice ++ (launch ++ failure))
  of_listing : request.Asks → listing = (Bridge.findDevices host request.bridge).records
  of_launch : ∀ serial, Reaches host request serial →
    launch = ((request.castOptions serial).launch host request.castTool).records
  idle : ¬ request.Asks → (request.run host).records = []
  /-- Advice and a launch need a device that is ready. -/
  ready : advice ++ launch ≠ [] → ∃ serial, Reaches host request serial
  debug : ∀ record ∈ listing ++ launch, record.level = .debug
  warn : ∀ record ∈ advice, record.level = .warn ∧ record.source = .request
  once : advice.length ≤ 1
  error : (request.run host).value = .ok .failed →
    ∃ message, Failure host request message ∧ failure = [⟨.error, .request, message⟩]
  noError : (request.run host).value ≠ .ok .failed → failure = []

variable {host : Host} {request : Request}

/-- At most one thing is advised. -/
lemma records_advise (devices : List Device) (serial : String) (audio : Bool) :
    (advise devices serial audio).records = [] ∨
      ∃ message, (advise devices serial audio).records = [⟨.warn, .request, message⟩] := by
  unfold advise
  split
  · exact .inr ⟨_, rfl⟩
  · split
    · exact .inr ⟨_, rfl⟩
    · exact .inl rfl

lemma warn_of_mem_advise {devices : List Device} {serial : String} {audio : Bool}
    {record : LogRecord} (h : record ∈ (advise devices serial audio).records) :
    record.level = .warn := by
  rcases records_advise devices serial audio with hnil | ⟨message, hone⟩
  · rw [hnil] at h
    cases h
  · rw [hone] at h
    obtain rfl := List.mem_singleton.1 h
    rfl

/-- All that is logged of advice are warnings. -/
lemma warnings_advise (devices : List Device) (serial : String) (audio : Bool) :
    (advise devices serial audio).warnings = (advise devices serial audio).records :=
  List.filter_eq_self.2 fun _ hrecord => decide_eq_true (warn_of_mem_advise hrecord)

lemma records_run_of_list {found : List Device} (hcheck : request.check = .ok ())
    (hlist : request.listDevices = true)
    (hvalue : (Bridge.findDevices host request.bridge).value = .ok found) :
    (request.run host).records = (Bridge.findDevices host request.bridge).records := by
  rw [records_run_of_ok hcheck, perform_of_list hlist, withDevices_of_ok hvalue, records_bind,
    records_bind, records_report, records_pure, List.append_nil, List.append_nil]

lemma records_run_of_noDevices {serial : String} (hcheck : request.check = .ok ())
    (hlist : request.listDevices = false) (hserial : request.serial = some serial)
    (hvalue : (Bridge.findDevices host request.bridge).value = .ok []) :
    (request.run host).records = (Bridge.findDevices host request.bridge).records := by
  rw [records_run_of_ok hcheck, perform_of_some hlist hserial, withDevices_of_ok hvalue, cast_nil,
    records_bind, records_bind, records_complainLine, records_pure, List.append_nil, List.append_nil]

lemma records_run_of_bridgeFailed (hasks : request.Asks) {failure : ToolError}
    (hvalue : (Bridge.findDevices host request.bridge).value = .error failure) :
    (request.run host).records = (Bridge.findDevices host request.bridge).records ++
      [⟨.error, .request, "Error communicating with adb: " ++ failure.message⟩] := by
  obtain ⟨next, hnext⟩ := hasks.exists_perform host
  rw [records_run_of_ok hasks.1, hnext, withDevices_of_error hvalue, records_bind, records_bind,
    records_log, records_pure, List.append_nil]

lemma debug_findDevices (host : Host) (tool : ToolPath) :
    ∀ record ∈ (Bridge.findDevices host tool).records, record.level = .debug :=
  (Bridge.logs_findDevices (fun _ => rfl) (fun _ => rfl) host tool :
    Session.Logs (fun record => record.level = .debug) _).of_mem

/-- Without a cast, there is the log of the listing and what is said of its failure. -/
lemma staged_of_not_reaches (hasks : request.Asks) (hnot : ∀ serial, ¬ Reaches host request serial)
    {failure : List LogRecord}
    (hrecords : (request.run host).records =
      (Bridge.findDevices host request.bridge).records ++ failure)
    (herror : (request.run host).value = .ok .failed →
      ∃ message, Failure host request message ∧ failure = [⟨.error, .request, message⟩])
    (hnoError : (request.run host).value ≠ .ok .failed → failure = []) :
    Staged host request (Bridge.findDevices host request.bridge).records [] [] failure where
  records := hrecords
  of_listing _ := rfl
  of_launch serial h := absurd h (hnot serial)
  idle h := absurd hasks h
  ready h := absurd rfl h
  debug := by
    rw [List.append_nil]
    exact debug_findDevices host request.bridge
  warn := List.forall_mem_nil _
  once := Nat.zero_le 1
  error := herror
  noError := hnoError

/-- With a cast, there is advice and the log of the launch behind that of the listing. -/
lemma Reaches.staged {serial : String} {found : List Device} (h : Reaches host request serial)
    (hvalue : (Bridge.findDevices host request.bridge).value = .ok found) :
    ∃ failure, Staged host request (Bridge.findDevices host request.bridge).records
      (advise found serial (!request.noAudio)).records
      ((request.castOptions serial).launch host request.castTool).records failure := by
  have hrecords := h.records_run hvalue
  rw [records_launch] at hrecords
  have hrun := h.value_run hvalue
  rw [value_launch] at hrun
  refine ⟨_, hrecords, fun _ => rfl, ?_, fun hnot => absurd h.asks hnot, fun _ => ⟨serial, h⟩, ?_,
    ?_, ?_, ?_, ?_⟩
  · intro serial' h'
    obtain rfl : serial' = serial := Option.some.inj (h'.targets.symm.trans h.targets)
    rfl
  · intro record hrecord
    rcases List.mem_append.1 hrecord with hrecord | hrecord
    · exact debug_findDevices host request.bridge record hrecord
    · exact (CastOptions.logs_launch (fun _ => rfl) .. :
        Session.Logs (fun record => record.level = .debug) _).of_mem record hrecord
  · intro record hrecord
    rcases records_advise found serial (!request.noAudio) with hnil | ⟨message, hone⟩
    · rw [hnil] at hrecord
      cases hrecord
    · rw [hone] at hrecord
      obtain rfl := List.mem_singleton.1 hrecord
      exact ⟨rfl, rfl⟩
  · rcases records_advise found serial (!request.noAudio) with hnil | ⟨message, hone⟩
    · rw [hnil]
      exact Nat.zero_le 1
    · rw [hone]
      exact Nat.le_refl 1
  · intro hfailed
    rw [hrun] at hfailed
    rcases hlaunch : ((request.castOptions serial).launch host request.castTool).value with
      failure | ⟨⟩
    · exact ⟨_, .cast h (CastOptions.value_launch_eq_error.1 hlaunch), rfl⟩
    · rw [hlaunch] at hfailed
      cases hfailed
  · intro hnot
    rw [hrun] at hnot
    rcases hlaunch : ((request.castOptions serial).launch host request.castTool).value with
      failure | ⟨⟩
    · rw [hlaunch] at hnot
      exact absurd rfl hnot
    · rfl

/-- A list, and a cast that finds no device, log nothing behind the listing and do not fail. -/
lemma run_of_not_reaches {found : List Device} (hasks : request.Asks)
    (hnot : ∀ serial, ¬ Reaches host request serial)
    (hvalue : (Bridge.findDevices host request.bridge).value = .ok found) :
    (request.run host).records = (Bridge.findDevices host request.bridge).records ∧
      (request.run host).value ≠ .ok .failed := by
  cases hlist : request.listDevices with
  | true =>
    refine ⟨records_run_of_list hasks.1 hlist hvalue, ?_⟩
    rw [(run_of_list hasks.1 hlist hvalue).1]
    exact nofun
  | false =>
    obtain ⟨serial, hserial⟩ := hasks.exists_serial hlist
    obtain rfl : found = [] := by
      by_contra hne
      exact hnot serial (reaches_of_found hasks.1 hlist hserial hvalue hne)
    refine ⟨records_run_of_noDevices hasks.1 hlist hserial hvalue, ?_⟩
    rw [(run_of_noDevices hasks.1 hlist hserial hvalue).1]
    exact nofun

lemma exists_staged (host : Host) (request : Request) :
    ∃ listing advice launch failure, Staged host request listing advice launch failure := by
  by_cases hasks : request.Asks
  · rcases hvalue : (Bridge.findDevices host request.bridge).value with failure | found
    · have hnot : ∀ serial, ¬ Reaches host request serial := by
        intro serial h
        obtain ⟨found, hfound, -⟩ := h.exists_found
        rw [hvalue] at hfound
        cases hfound
      exact ⟨_, _, _, _, staged_of_not_reaches hasks hnot
        (records_run_of_bridgeFailed hasks hvalue)
        (fun _ => ⟨_, .bridge hasks (Bridge.value_findDevices_eq_error.1 hvalue), rfl⟩)
        (fun h => absurd (run_of_bridgeFailed hasks hvalue).1 h)⟩
    by_cases hreaches : ∃ serial, Reaches host request serial
    · obtain ⟨serial, h⟩ := hreaches
      exact ⟨_, _, _, h.staged hvalue⟩
    · have hnot : ∀ serial, ¬ Reaches host request serial := fun serial h => hreaches ⟨serial, h⟩
      obtain ⟨hrecords, hdone⟩ := run_of_not_reaches hasks hnot hvalue
      exact ⟨_, _, _, [], staged_of_not_reaches hasks hnot
        (hrecords.trans (List.append_nil _).symm) (fun h => absurd h hdone) (fun _ => rfl)⟩
  · have hrun := run_of_not_asks host hasks
    have hrecords : (request.run host).records = [] := by
      rw [hrun, records_pure]
    have hvalue : (request.run host).value ≠ .ok .failed := by
      rw [hrun]
      rcases request.check with error | ⟨⟩ <;> exact nofun
    exact ⟨[], [], [], [], hrecords, fun h => absurd h hasks, fun serial h => absurd h.asks hasks,
      fun _ => hrecords, fun h => absurd rfl h, List.forall_mem_nil _, List.forall_mem_nil _,
      Nat.zero_le 1, fun h => absurd h hvalue, fun _ => rfl⟩

/-- The notes on levels of a run are those of its listing. -/
lemma Staged.filter_records {listing advice launch failure : List LogRecord}
    (h : Staged host request listing advice launch failure) :
    (request.run host).records.filter LogRecord.isLevelNote =
      listing.filter LogRecord.isLevelNote := by
  -- behind the listing, no record is from the part for devices
  have hadvice : advice.filter LogRecord.isLevelNote = [] := by
    refine List.filter_eq_nil_iff.2 fun record hrecord => ?_
    rw [LogRecord.isLevelNote_of_source (by rw [(h.warn record hrecord).2]; decide)]
    exact Bool.false_ne_true
  have hlaunch : launch.filter LogRecord.isLevelNote = [] := by
    by_cases hnil : launch = []
    · rw [hnil]
      rfl
    · obtain ⟨serial, hreaches⟩ := h.ready (List.append_ne_nil_of_right_ne_nil _ hnil)
      rw [h.of_launch serial hreaches]
      exact Logs.filter_eq_nil (CastOptions.logs_launch (fun _ => rfl) ..)
  have hfailure : failure.filter LogRecord.isLevelNote = [] := by
    by_cases hfailed : (request.run host).value = .ok .failed
    · obtain ⟨message, -, rfl⟩ := h.error hfailed
      rfl
    · rw [h.noError hfailed]
      rfl
  rw [h.records, List.filter_append, List.filter_append, List.filter_append, hadvice, hlaunch,
    hfailure, List.append_nil, List.append_nil, List.append_nil]

/-- **The log goes by the outcome.** The records of a run are those of the listing, at most one
warning, those of the launch, and at last the one error of a run that failed, by the tool that
failed. All others are for debugging, and advice and a launch are only there where a cast finds a
device. However its queries fail, a listing that succeeds has one note for each device without a
level, in the order of the devices, which tells why. -/
theorem log_goes_by_outcome (host : Host) (request : Request) :
    (∃ listing advice launch failure, Staged host request listing advice launch failure) ∧
    ∀ found, request.Asks → (Bridge.findDevices host request.bridge).value = .ok found →
      ∃ path, host.find request.bridge = .ok path ∧
        List.Forall₂ (Bridge.Explains host ⟨path⟩) (found.filter (·.level.isNone))
          ((request.run host).records.filter LogRecord.isLevelNote) := by
  refine ⟨exists_staged host request, ?_⟩
  intro found hasks hvalue
  obtain ⟨listing, advice, launch, failure, hstaged⟩ := exists_staged host request
  rw [hstaged.filter_records, hstaged.of_listing hasks]
  rcases hfind : host.find request.bridge with error | path
  · rw [Bridge.findDevices_of_error hfind] at hvalue
    cases hvalue
  · exact ⟨path, rfl, Bridge.forall₂_explains_findDevices hfind hvalue⟩

/-! ### A device whose level is not known -/

/-- No query is answered on this host. -/
lemma refuses_absentHost :
    absentHost.Refuses ⟨"/adb"⟩ (Bridge.queryArgs "b") (.failed "adb" none) := by
  have hstart : absentHost.start ⟨"/adb"⟩ (Bridge.queryArgs "b") =
      .ok ⟨"adb", ⟨[], utf8 "error: closed\n", .signal 9⟩⟩ := rfl
  exact .notSuccessful hstart nofun

lemma exists_found_absentHost :
    ∃ device, (Bridge.findDevices absentHost castRequest.bridge).value = .ok [device] ∧
      device.level = none := by
  have hb : Listing.IsSerial (String.ofList ['b']) := Listing.isSerial_singleton (by decide)
  have hentries := Listing.entries_readyLineOf hb (by decide)
  have hfind : absentHost.find castRequest.bridge = .ok ⟨"/adb"⟩ := find_bridge_castHost _ _
  have hanswers : absentHost.Answers ⟨"/adb"⟩ Bridge.listArgs
      (String.ofList (join ['\n'] [[], Listing.readyLineOf "b"])) :=
    ⟨_, rfl, rfl, decodeUtf8_utf8 _⟩
  have hdescribes := Bridge.describes_identify absentHost ⟨⟨"/adb"⟩⟩ ⟨"b", none, "b device"⟩
  refine ⟨_, ?_, hdescribes.unknown.2 (.inl ⟨_, refuses_absentHost⟩)⟩
  rw [Bridge.findDevices_of_ok hfind, value_bind, Bridge.value_devices_of_answers hanswers]
  exact congrArg (fun entries : List Listing.Entry => Except.ok
    (entries.map fun entry => (Bridge.identify absentHost ⟨⟨"/adb"⟩⟩ entry).value)) hentries

/-- The one device of this host cannot be queried, and the log says why. -/
theorem log_goes_by_outcome_absent :
    castRequest.Asks ∧ ∃ device note,
      (Bridge.findDevices absentHost castRequest.bridge).value = .ok [device] ∧
      Bridge.Explains absentHost ⟨⟨"/adb"⟩⟩ device note ∧
      (castRequest.run absentHost).records.filter LogRecord.isLevelNote = [note] := by
  have hasks : castRequest.Asks := reaches_oldHost.asks
  obtain ⟨device, hvalue, hlevel⟩ := exists_found_absentHost
  obtain ⟨path, hfind, hnotes⟩ := (log_goes_by_outcome absentHost castRequest).2 _ hasks hvalue
  have hpath : path = ⟨"/adb"⟩ :=
    Except.ok.inj (hfind.symm.trans (find_bridge_castHost _ _))
  subst hpath
  have hunknown : [device].filter (·.level.isNone) = [device] :=
    List.filter_cons_of_pos (by rw [hlevel]; rfl)
  rw [hunknown] at hnotes
  obtain ⟨note, rest, hexplains, hrest, hrecords⟩ := List.forall₂_cons_left_iff.1 hnotes
  obtain rfl := List.forall₂_nil_left_iff.1 hrest
  exact ⟨hasks, device, note, hvalue, hexplains, hrecords⟩

end Request

end Screencast
