import Mathlib.Data.List.Basic
import Screencast.Proofs.Device.Devices
import Screencast.Proofs.Listing.Serial
import Screencast.Proofs.Logging.Line
import Screencast.Proofs.Text.Quoted

/-!
What the log notes of devices whose level is not known. There is one note for each of them, and it
says why. Where a device answers with something else, its answer stands in quotes, so that the log
keeps its lines, and whoever reads the note can tell what the answer was.
-/

namespace Screencast

open Session Text

/-! ### Notes on levels that are not known -/

/-- The note on a device whose level is not known. -/
def QueryError.note (error : QueryError) (serial : String) : LogRecord :=
  ⟨.debug, .devices, "Error getting SDK version for " ++ serial ++ ": " ++ error.message⟩

/-- The record is a note of this kind. -/
def LogRecord.isLevelNote (record : LogRecord) : Bool :=
  record.source = .devices &&
    "Error getting SDK version for ".toList.isPrefixOf record.message.toList

lemma QueryError.isLevelNote_note (error : QueryError) (serial : String) :
    (error.note serial).isLevelNote = true := by
  have hprefix : "Error getting SDK version for ".toList <+: (error.note serial).message.toList := by
    unfold note
    rw [String.append_assoc, String.append_assoc, String.toList_append]
    exact List.prefix_append ..
  exact Bool.and_eq_true_iff.2 ⟨rfl, List.isPrefixOf_iff_prefix.2 hprefix⟩

/-- Only the part for devices writes notes on levels. -/
lemma LogRecord.isLevelNote_of_source {record : LogRecord} (h : record.source ≠ .devices) :
    record.isLevelNote = false := by
  unfold isLevelNote
  simp [h]

namespace Bridge

variable {host : Host} {bridge : Bridge}

/-- A record says why the level of a device is not known. -/
def Explains (host : Host) (bridge : Bridge) (device : Device) (record : LogRecord) : Prop :=
  ∃ error, (queryLevel host bridge device.serial).value = .error error ∧
    record = error.note device.serial

/-- A device is noted where its query fails. -/
lemma records_identify (host : Host) (bridge : Bridge) (entry : Listing.Entry) :
    (identify host bridge entry).records =
      (queryLevel host bridge entry.serial).records ++
        match (queryLevel host bridge entry.serial).value with
        | .ok _ => []
        | .error error => [error.note entry.serial] := by
  unfold identify
  rw [records_bind]
  rcases (queryLevel host bridge entry.serial).value with error | level <;> rfl

lemma filter_records_identify (host : Host) (bridge : Bridge) (entry : Listing.Entry) :
    (identify host bridge entry).records.filter LogRecord.isLevelNote =
      match (queryLevel host bridge entry.serial).value with
      | .ok _ => []
      | .error error => [error.note entry.serial] := by
  have hquery : (queryLevel host bridge entry.serial).records.filter LogRecord.isLevelNote = [] :=
    Logs.filter_eq_nil (logs_queryLevel (fun _ => rfl) ..)
  rw [records_identify, List.filter_append, hquery, List.nil_append]
  rcases (queryLevel host bridge entry.serial).value with error | level
  · exact List.filter_cons_of_pos (error.isLevelNote_note _)
  · rfl

/-- The devices of some entries are noted one by one. -/
lemma forall₂_explains (host : Host) (bridge : Bridge) (entries : List Listing.Entry) :
    List.Forall₂ (Explains host bridge)
      ((entries.map fun entry => (identify host bridge entry).value).filter (·.level.isNone))
      ((entries.flatMap fun entry => (identify host bridge entry).records).filter
        LogRecord.isLevelNote) := by
  induction entries with
  | nil => exact .nil
  | cons entry entries ih =>
    rw [List.map_cons, List.flatMap_cons, List.filter_append, filter_records_identify,
      value_identify]
    -- a query that fails leaves the device without a level and writes the note, both at once
    rcases hquery : (queryLevel host bridge entry.serial).value with error | level
    · rw [List.filter_cons_of_pos rfl]
      exact .cons ⟨error, hquery, rfl⟩ ih
    · rw [List.filter_cons_of_neg (by exact Bool.false_ne_true)]
      exact ih

/-- The bridge is asked for the listing, the entries are counted, and each is looked at. -/
lemma records_devices_of_answers {listing : String}
    (h : host.Answers bridge.path listArgs listing) :
    (devices host bridge).records =
      (host.capture bridge.path listArgs).records ++
        ⟨.debug, .devices, "Found " ++ decimal (Listing.entries listing).length ++
            " ready device(s)"⟩ ::
          (Listing.entries listing).flatMap fun entry => (identify host bridge entry).records := by
  unfold devices
  rw [records_bind, Host.value_capture_eq_ok.2 h]
  dsimp only
  rw [records_bind, records_log, records_bind, records_mapM, records_pure, List.append_nil,
    List.singleton_append]

/-- Each device without a level has one note, in the order of the devices. -/
lemma forall₂_explains_devices {found : List Device}
    (hvalue : (devices host bridge).value = .ok found) :
    List.Forall₂ (Explains host bridge) (found.filter (·.level.isNone))
      ((devices host bridge).records.filter LogRecord.isLevelNote) := by
  obtain ⟨listing, hlisting, -⟩ := value_devices_eq_ok.1 hvalue
  rw [value_devices_of_answers hlisting] at hvalue
  obtain rfl := Except.ok.inj hvalue
  have hcapture : (host.capture bridge.path listArgs).records.filter LogRecord.isLevelNote = [] :=
    Logs.filter_eq_nil (Host.logs_capture (fun _ => rfl) ..)
  have hcount : ∀ n, LogRecord.isLevelNote
      ⟨.debug, .devices, "Found " ++ decimal n ++ " ready device(s)"⟩ = false := by
    intro n
    unfold LogRecord.isLevelNote
    rw [String.append_assoc, String.toList_append]
    rfl
  rw [records_devices_of_answers hlisting, List.filter_append, hcapture, List.nil_append,
    List.filter_cons_of_neg (by simp [hcount])]
  exact forall₂_explains host bridge _

lemma forall₂_explains_findDevices {tool path : ToolPath} {found : List Device}
    (hfind : host.find tool = .ok path) (hvalue : (findDevices host tool).value = .ok found) :
    List.Forall₂ (Explains host ⟨path⟩) (found.filter (·.level.isNone))
      ((findDevices host tool).records.filter LogRecord.isLevelNote) := by
  have hpath : LogRecord.isLevelNote ⟨.debug, .devices, "Using adb at " ++ path.text⟩ = false := by
    unfold LogRecord.isLevelNote
    rw [String.toList_append]
    rfl
  rw [findDevices_of_ok hfind] at hvalue ⊢
  rw [records_bind, records_log, List.singleton_append, List.filter_cons_of_neg (by simp [hpath])]
  exact forall₂_explains_devices hvalue

end Bridge

/-! ### Answers that are no level -/

namespace LevelError

/-- What stands before the answer in a message. -/
def opening : String := "Invalid SDK level: "

/-- The error that a message is of. -/
def ofMessage? (message : String) : Option LevelError :=
  (message.toList.dropPrefix? opening.toList).bind fun quoted =>
    (unquote (String.ofList quoted)).map invalid

/-- **A message is read back**, whatever the answer in it. -/
lemma ofMessage?_message (error : LevelError) : ofMessage? error.message = some error := by
  obtain ⟨text⟩ := error
  have hrest : (message (invalid text)).toList.dropPrefix? opening.toList =
      some (quote text).toList := by
    rw [List.dropPrefix?_eq_some_iff]
    exact ⟨opening.toList, String.toList_append, beq_self_eq_true _⟩
  unfold ofMessage?
  rw [hrest, Option.bind_some, String.ofList_toList, unquote_quote]
  rfl

lemma message_injective {error error' : LevelError} (h : error.message = error'.message) :
    error = error' := by
  have hread : ofMessage? error.message = ofMessage? error'.message := congrArg ofMessage? h
  rw [ofMessage?_message, ofMessage?_message] at hread
  exact Option.some.inj hread

lemma singleLine_message (error : LevelError) : SingleLine error.message := by
  obtain ⟨text⟩ := error
  have hopening : SingleLine opening := .of_printable (by simp [opening])
  exact hopening.append (singleLine_quote text)

end LevelError

/-- The error of an answer holds the answer without the blanks around it. -/
lemma ApiLevel.eq_invalid_of_read {answer : String} {error : LevelError}
    (h : ApiLevel.read answer = .error error) : error = .invalid (trimString answer) := by
  unfold ApiLevel.read at h
  dsimp only at h
  split at h
  · cases h
  · exact (Except.error.inj h).symm

/-! ### Notes on such answers -/

namespace Bridge

variable {host : Host} {bridge : Bridge} {entry : Listing.Entry} {answer listing : String}
  {error : LevelError}

lemma queryLevel_of_invalid {serial : String}
    (h : host.Answers bridge.path (queryArgs serial) answer)
    (hread : ApiLevel.read answer = .error error) :
    (queryLevel host bridge serial).value = .error (.level error) ∧
      (queryLevel host bridge serial).records =
        [⟨.debug, .tools, "Running: " ++ showCommand bridge.path (queryArgs serial)⟩] := by
  obtain ⟨started, hstart, hexit, rfl⟩ := h
  constructor
  · rw [value_queryLevel, Host.capture_of_success hstart hexit]
    dsimp only
    rw [hread]
    rfl
  · unfold queryLevel
    rw [Host.capture_of_success hstart hexit]
    rfl

/-- An answer that is no level is noted once, after the query. -/
lemma records_identify_of_invalid (h : host.Answers bridge.path (queryArgs entry.serial) answer)
    (hread : ApiLevel.read answer = .error error) :
    (identify host bridge entry).records =
      [⟨.debug, .tools, "Running: " ++ showCommand bridge.path (queryArgs entry.serial)⟩,
        (QueryError.level error).note entry.serial] := by
  obtain ⟨hvalue, hrecords⟩ := queryLevel_of_invalid h hread
  rw [records_identify, hvalue, hrecords]
  rfl

/-- A device that answers has a serial without a NUL, since its serial was an argument. -/
lemma singleLine_serial (hentry : entry ∈ Listing.entries listing)
    (h : host.Answers bridge.path (queryArgs entry.serial) answer) :
    SingleLine entry.serial where
  blank c hc hblank := by
    rw [(Listing.isSerial_of_mem_entries hentry).blankless c hc] at hblank
    cases hblank
  nul := by
    obtain ⟨started, hstart, -⟩ := h
    have harg : Host.isArgument entry.serial = true :=
      (Host.exists_start_iff.1 ⟨started.response, hstart⟩).1 _
        (List.mem_cons_of_mem _ List.mem_cons_self)
    unfold Host.isArgument at harg
    intro hmem
    simp [hmem] at harg

lemma singleLine_note {serial : String} (h : SingleLine serial) (error : LevelError) :
    SingleLine ((QueryError.level error).note serial).message := by
  have hbefore : SingleLine "Error getting SDK version for " := .of_printable (by simp)
  have hbetween : SingleLine ": " := .of_printable (by simp)
  exact ((hbefore.append h).append hbetween).append error.singleLine_message

/-- **An answer forges no line of the log.** The message of an answer that is no level holds neither
a break of a line nor a tab nor a NUL, and the answer without the blanks around it can be read from
the message, so that different answers have different messages. The note on a device of a listing
whose answer is no level is one line, and is shown as one line. -/
theorem answer_forges_no_line :
    (∀ answer error, ApiLevel.read answer = .error error →
      (∀ c ∈ ['\n', '\r', '\t', '\x00'], c ∉ error.message.toList) ∧
      LevelError.ofMessage? error.message = some (.invalid (trimString answer))) ∧
    (∀ answer other error error', ApiLevel.read answer = .error error →
      ApiLevel.read other = .error error' → trimString answer ≠ trimString other →
      error.message ≠ error'.message) ∧
    ∀ (host : Host) (bridge : Bridge) (listing : String), ∀ entry ∈ Listing.entries listing,
      ∀ answer error, host.Answers bridge.path (queryArgs entry.serial) answer →
        ApiLevel.read answer = .error error →
        (identify host bridge entry).records =
          [⟨.debug, .tools, "Running: " ++ showCommand bridge.path (queryArgs entry.serial)⟩,
            (QueryError.level error).note entry.serial] ∧
        SingleLine ((QueryError.level error).note entry.serial).message ∧
        ∀ time : Option String, (∀ stamp, time = some stamp → '\n' ∉ stamp.toList) →
          '\n' ∉ (Logging.line time ((QueryError.level error).note entry.serial)).toList.dropLast := by
  refine ⟨?_, ?_, ?_⟩
  · intro answer error hread
    obtain rfl := ApiLevel.eq_invalid_of_read hread
    exact ⟨(LevelError.singleLine_message _).notMem, LevelError.ofMessage?_message _⟩
  · intro answer other error error' hread hother hne hmessage
    obtain rfl := ApiLevel.eq_invalid_of_read hread
    obtain rfl := ApiLevel.eq_invalid_of_read hother
    exact hne (LevelError.invalid.inj (LevelError.message_injective hmessage))
  · intro host bridge listing entry hentry answer error hanswer hread
    have hline : SingleLine ((QueryError.level error).note entry.serial).message :=
      singleLine_note (singleLine_serial hentry hanswer) error
    refine ⟨records_identify_of_invalid hanswer hread, hline, ?_⟩
    intro time htime
    exact Logging.newline_notMem_line htime (hline.notMem _ List.mem_cons_self)

/-- A host with nothing but a bridge, whose devices all give one answer. -/
def answeringHost (answer : String) : Host where
  workingPlace := []
  home := ⟨"/"⟩
  searchPath := "/"
  node? place :=
    if place = ["adb"] then some (.file true (.answering fun _ => ⟨utf8 answer, [], .code 0⟩))
    else none

/-- The second line of an answer stays within the quotes, where it is no tab. -/
theorem answer_forges_no_line_broken :
    ApiLevel.read "no\nDEBUG\u2028" = .error (.invalid "no\nDEBUG") ∧
    ApiLevel.read "no\tDEBUG" = .error (.invalid "no\tDEBUG") ∧
    LevelError.ofMessage? (LevelError.invalid "no\nDEBUG").message = some (.invalid "no\nDEBUG") ∧
    (LevelError.invalid "no\nDEBUG").message ≠ (LevelError.invalid "no\tDEBUG").message ∧
    ∃ entry ∈ Listing.entries "\na device",
      (answeringHost "no\nDEBUG\u2028").Answers ⟨"/adb"⟩ (queryArgs entry.serial)
        "no\nDEBUG\u2028" ∧
      ((QueryError.level (.invalid "no\nDEBUG")).note entry.serial).message =
        "Error getting SDK version for a: Invalid SDK level: \"no\\nDEBUG\"" ∧
      SingleLine ((QueryError.level (.invalid "no\nDEBUG")).note entry.serial).message := by
  have hserial : Listing.IsSerial "a" := Listing.isSerial_singleton (by decide)
  have hentries := Listing.entries_readyLineOf hserial (by decide)
  have hentry : (⟨"a", none, _⟩ : Listing.Entry) ∈ Listing.entries "\na device" :=
    hentries ▸ List.mem_singleton.2 rfl
  have hanswers : (answeringHost "no\nDEBUG\u2028").Answers ⟨"/adb"⟩ (queryArgs "a")
      "no\nDEBUG\u2028" :=
    ⟨⟨"adb", ⟨utf8 "no\nDEBUG\u2028", [], .code 0⟩⟩, rfl, rfl, decodeUtf8_utf8 _⟩
  have hread : ApiLevel.read "no\nDEBUG\u2028" = .error (.invalid "no\nDEBUG") := by cbv
  have hother : ApiLevel.read "no\tDEBUG" = .error (.invalid "no\tDEBUG") := by cbv
  refine ⟨hread, hother, (answer_forges_no_line.1 _ _ hread).2, ?_, _, hentry, hanswers, rfl, ?_⟩
  · exact answer_forges_no_line.2.1 _ _ _ _ hread hother (by decide +kernel)
  · exact (answer_forges_no_line.2.2 _ ⟨⟨"/adb"⟩⟩ _ _ hentry _ _ hanswers hread).2.1

end Bridge

end Screencast
