import Screencast.Proofs.Listing.Serial
import Screencast.Proofs.Request.Run

/-!
What a request is refused for. The rules say it in terms of the characters of a request, the first
broken one in their order counts, and a run that is refused does nothing else. Nothing that is asked
for later on, neither a document of the devices nor a serial to cast from, can be missing then.
-/

namespace Screencast

open Session Text

/-! ### The rules -/

/-- The rules in the order in which they are looked at. -/
def RequestError.order : List RequestError :=
  [.emptySerial, .blankInSerial, .emptyCodec, .jsonWithoutList, .emptyBridge, .emptyCastTool]

namespace Request

/-- A request breaks a rule. -/
def Breaks (request : Request) : RequestError → Prop
  | .emptySerial => ∃ serial, request.serial = some serial ∧ ∀ c ∈ serial.toList, isBlank c = true
  | .blankInSerial => ∃ serial, request.serial = some serial ∧ ∃ c ∈ serial.toList, isBlank c = true
  | .emptyCodec => ∃ codec, request.videoCodec = some codec ∧ ∀ c ∈ codec.toList, isBlank c = true
  | .jsonWithoutList => request.json = true ∧ request.listDevices = false
  | .emptyBridge => request.bridge.text = ""
  | .emptyCastTool => request.castTool.text = ""

/-- A request breaks a rule and none of those before it. -/
def FirstBroken (request : Request) (error : RequestError) : Prop :=
  request.Breaks error ∧ ∃ before after, RequestError.order = before ++ error :: after ∧
    ∀ earlier ∈ before, ¬ request.Breaks earlier

/-- A request keeps all rules. -/
structure Keeps (request : Request) : Prop where
  /-- A serial is one word. -/
  serial : ∀ serial, request.serial = some serial → Listing.IsSerial serial
  /-- A codec is more than blanks. -/
  codec : ∀ codec, request.videoCodec = some codec → ∃ c ∈ codec.toList, isBlank c = false
  /-- Only a list can be a document. -/
  json : request.json = true → request.listDevices = true
  bridge : request.bridge.text ≠ ""
  castTool : request.castTool.text ≠ ""

variable {host : Host} {request : Request}

lemma isBlankText_iff {s : String} : isBlankText s = true ↔ ∀ c ∈ s.toList, isBlank c = true := by
  unfold isBlankText
  rw [List.isEmpty_iff, trim_eq_nil_iff]

/-- The checks are the rules. -/
lemma broken_iff : ∀ rule ∈ request.rules, rule.1 = true ↔ request.Breaks rule.2 := by
  intro rule hrule
  simp only [rules, List.mem_cons, List.not_mem_nil, or_false] at hrule
  rcases hrule with rfl | rfl | rfl | rfl | rfl | rfl
  · simp [Breaks, Option.any_eq_true, isBlankText_iff]
  · simp [Breaks, Option.any_eq_true]
  · simp [Breaks, Option.any_eq_true, isBlankText_iff]
  · simp [Breaks]
  · simp [Breaks]
  · simp [Breaks]

lemma map_rules (request : Request) : request.rules.map Prod.snd = RequestError.order := rfl

lemma check_eq_error_iff_find? {error : RequestError} :
    request.check = .error error ↔
      ∃ broken, request.rules.find? (·.1) = some (broken, error) := by
  unfold check
  split
  · next broken first found =>
    simp [found]
  · next found =>
    simp [found]

lemma check_eq_error_iff {error : RequestError} :
    request.check = .error error ↔ request.FirstBroken error := by
  rw [check_eq_error_iff_find?]
  constructor
  · rintro ⟨broken, hfind⟩
    obtain ⟨hbroken, before, after, hrules, hbefore⟩ := List.find?_eq_some_iff_append.1 hfind
    have hmem : (broken, error) ∈ request.rules := List.mem_of_find?_eq_some hfind
    refine ⟨(broken_iff _ hmem).1 hbroken, before.map Prod.snd, after.map Prod.snd, ?_, ?_⟩
    · rw [← map_rules request, hrules, List.map_append, List.map_cons]
    · intro earlier hearlier
      obtain ⟨rule, hrule, rfl⟩ := List.mem_map.1 hearlier
      have hkept : rule ∈ request.rules := by
        rw [hrules]
        exact List.mem_append_left _ hrule
      rw [← broken_iff rule hkept]
      simpa using hbefore rule hrule
  · rintro ⟨hbreaks, before, after, horder, hbefore⟩
    -- the order of the rules is cut where the checks themselves can be cut
    rw [← map_rules request] at horder
    obtain ⟨earlier, rest, hrules, rfl, hrest⟩ := List.map_eq_append_iff.1 horder
    obtain ⟨⟨broken, error⟩, later, rfl, rfl, rfl⟩ := List.map_eq_cons_iff.1 hrest
    have hmem : (broken, error) ∈ request.rules := by
      rw [hrules]
      exact List.mem_append_right _ (List.mem_cons_self ..)
    refine ⟨broken, List.find?_eq_some_iff_append.2
      ⟨(broken_iff _ hmem).2 hbreaks, earlier, later, hrules, ?_⟩⟩
    intro rule hrule
    have hkept : rule ∈ request.rules := by
      rw [hrules]
      exact List.mem_append_left _ hrule
    have hnot := hbefore rule.2 (List.mem_map_of_mem hrule)
    rw [← broken_iff rule hkept] at hnot
    simpa using hnot

lemma mem_order (error : RequestError) : error ∈ RequestError.order := by
  cases error <;> decide

lemma check_eq_ok_iff_breaks : request.check = .ok () ↔ ∀ error, ¬ request.Breaks error := by
  rw [check_eq_ok_iff]
  constructor
  · intro h error hbreaks
    have hmem := mem_order error
    rw [← map_rules request] at hmem
    obtain ⟨rule, hrule, rfl⟩ := List.mem_map.1 hmem
    have hbroken := (broken_iff rule hrule).2 hbreaks
    rw [h rule hrule] at hbroken
    cases hbroken
  · intro h rule hrule
    rw [← Bool.not_eq_true, broken_iff rule hrule]
    exact h rule.2

lemma Keeps.not_breaks (h : request.Keeps) (error : RequestError) : ¬ request.Breaks error := by
  cases error with
  | emptySerial =>
    rintro ⟨serial, hserial, hblank⟩
    obtain ⟨hne, hblankless⟩ := h.serial serial hserial
    obtain ⟨c, hc⟩ := List.exists_mem_of_ne_nil _ hne
    have hvisible := hblankless c hc
    rw [hblank c hc] at hvisible
    cases hvisible
  | blankInSerial =>
    rintro ⟨serial, hserial, c, hc, hblank⟩
    rw [(h.serial serial hserial).blankless c hc] at hblank
    cases hblank
  | emptyCodec =>
    rintro ⟨codec, hcodec, hblank⟩
    obtain ⟨c, hc, hvisible⟩ := h.codec codec hcodec
    rw [hblank c hc] at hvisible
    cases hvisible
  | jsonWithoutList =>
    rintro ⟨hjson, hlist⟩
    rw [h.json hjson] at hlist
    cases hlist
  | emptyBridge => exact h.bridge
  | emptyCastTool => exact h.castTool

lemma check_eq_ok_iff_keeps : request.check = .ok () ↔ request.Keeps := by
  rw [check_eq_ok_iff_breaks]
  refine ⟨fun h => ⟨?_, ?_, ?_, h .emptyBridge, h .emptyCastTool⟩, Keeps.not_breaks⟩
  · intro serial hserial
    refine ⟨?_, ?_⟩
    · intro hnil
      exact h .emptySerial ⟨serial, hserial, by simp [hnil]⟩
    · intro c hc
      rw [← Bool.not_eq_true]
      exact fun hblank => h .blankInSerial ⟨serial, hserial, c, hc, hblank⟩
  · intro codec hcodec
    by_contra hnone
    push Not at hnone
    exact h .emptyCodec ⟨codec, hcodec, fun c hc => by simpa using hnone c hc⟩
  · intro hjson
    rw [← Bool.not_eq_false]
    exact fun hlist => h .jsonWithoutList ⟨hjson, hlist⟩

/-! ### What else could stop a run -/

end Request

/-- Why a run stops without an outcome. -/
inductive RunError where
  | rule (error : RequestError)
  /-- The devices cannot be written as a document. -/
  | noDocument
  /-- A cast is due, and there is no serial to cast from. -/
  | noSerial
deriving DecidableEq, Repr

namespace Request

/-- Reports the devices, with a document from a writer that may fail. -/
def reportCautious (write? : List Device → Option String) (request : Request)
    (devices : List Device) : Session (Except RunError Outcome) :=
  if request.json then
    match write? devices with
    | none => return .error .noDocument
    | some document => do
      Session.writeLine document
      return .ok .listed
  else do
    report false devices
    return .ok .listed

/-- Casts from the device that is asked for, whose serial is looked up only now. -/
def castCautious (host : Host) (request : Request) (devices : List Device) :
    Session (Except RunError Outcome) :=
  if devices.isEmpty then do
    Session.complainLine noDevicesMessage
    return .ok .noDevices
  else do
    announce request.verbose devices
    match request.serial with
    | none => return .error .noSerial
    | some serial =>
      advise devices serial (!request.noAudio)
      return .ok (← launch host request serial)

/-- The work on a request that takes nothing for granted: each stage fails where it lacks something,
even if the stages before should have seen to it. -/
def runCautious (write? : List Device → Option String) (host : Host) (request : Request) :
    Session (Except RunError Outcome) :=
  match request.check with
  | .error error => return .error (.rule error)
  | .ok () =>
    if !request.listDevices && request.serial.isNone then return .ok .missingSerial
    else do
      match ← Bridge.findDevices host request.bridge with
      | .error error =>
        Session.log .error .request ("Error communicating with adb: " ++ error.message)
        return .ok .failed
      | .ok devices =>
        if request.listDevices then reportCautious write? request devices
        else castCautious host request devices

variable {host : Host} {request : Request} {write? : List Device → Option String}

lemma reportCautious_eq (devices : List Device) :
    reportCautious (some ∘ Device.renderAll) request devices =
      Except.ok <$> (report request.json devices >>= fun _ => pure .listed) := by
  unfold reportCautious
  split
  · next hjson =>
    rw [hjson]
    rfl
  · next hjson =>
    rw [Bool.not_eq_true] at hjson
    rw [hjson, map_bind]
    rfl

lemma castCautious_eq {serial : String} (hserial : request.serial = some serial)
    (devices : List Device) :
    castCautious host request devices = Except.ok <$> cast host request serial devices := by
  unfold castCautious cast
  rw [hserial]
  split
  · rfl
  · simp only [map_eq_pure_bind, bind_assoc]

lemma map_withDevices (next : List Device → Session Outcome) :
    (Except.ok <$> request.withDevices host next : Session (Except RunError Outcome)) =
      Bridge.findDevices host request.bridge >>= fun found =>
        match found with
        | .error error =>
          Session.log .error .request ("Error communicating with adb: " ++ error.message) >>=
            fun _ => pure (.ok .failed)
        | .ok devices => Except.ok <$> next devices := by
  unfold withDevices
  rw [map_bind]
  congr 1
  funext found
  rcases found with error | devices
  · rfl
  · rfl

/-- A request for a cast that asks for something has a serial, so the late look-up finds it. -/
lemma exists_serial_of_not (hlist : request.listDevices = false)
    (hasks : ¬ (!request.listDevices && request.serial.isNone) = true) :
    ∃ serial, request.serial = some serial := by
  rw [← Option.ne_none_iff_exists']
  simpa [hlist] using hasks

/-- A cautious run with a writer that never fails is the run itself. -/
lemma runCautious_eq (host : Host) (request : Request) :
    runCautious (some ∘ Device.renderAll) host request =
      Except.mapError RunError.rule <$> request.run host := by
  unfold runCautious
  rcases hcheck : request.check with error | ⟨⟩
  · rw [run_of_error hcheck]
    rfl
  have hrun : Except.mapError RunError.rule <$> request.run host =
      Except.ok <$> request.perform host := by
    rw [run_of_ok hcheck]
    rfl
  rw [hrun]
  dsimp only
  split
  · next hmissing =>
    simp only [Bool.and_eq_true, Bool.not_eq_true', Option.isNone_iff_eq_none] at hmissing
    rw [perform_of_none hmissing.1 hmissing.2]
    rfl
  · next hasks =>
    cases hlist : request.listDevices with
    | true =>
      rw [perform_of_list hlist, map_withDevices]
      simp only [reportCautious_eq, if_true]
    | false =>
      obtain ⟨serial, hserial⟩ := exists_serial_of_not hlist hasks
      rw [perform_of_some hlist hserial, map_withDevices]
      simp only [castCautious_eq hserial, Bool.false_eq_true, if_false]

lemma value_reportCautious_eq_error {devices : List Device} {error : RunError} :
    (reportCautious write? request devices).value = .error error ↔
      error = .noDocument ∧ request.json = true ∧ write? devices = none := by
  unfold reportCautious
  cases request.json with
  | true =>
    rcases hdocument : write? devices with _ | document
    · constructor
      · intro h
        obtain rfl := Except.error.inj h
        exact ⟨rfl, rfl, rfl⟩
      · rintro ⟨rfl, -, -⟩
        rfl
    · simp
  | false => simp

/-- Whatever the writer does, a cautious run fails for a broken rule, or because the writer cannot
write the devices that were found. -/
lemma value_runCautious_eq_error {error : RunError} :
    (runCautious write? host request).value = .error error ↔
      (∃ rule, request.check = .error rule ∧ error = .rule rule) ∨
        error = .noDocument ∧ request.check = .ok () ∧ request.listDevices = true ∧
          request.json = true ∧ ∃ found,
            (Bridge.findDevices host request.bridge).value = .ok found ∧ write? found = none := by
  unfold runCautious
  rcases hcheck : request.check with rule | ⟨⟩
  · simpa using eq_comm
  dsimp only
  split
  · next hmissing =>
    simp only [Bool.and_eq_true, Bool.not_eq_true'] at hmissing
    simp [hmissing.1]
  · next hasks =>
    rw [value_bind]
    rcases hvalue : (Bridge.findDevices host request.bridge).value with failure | found
    · simp
    cases hlist : request.listDevices with
    | true => simp [value_reportCautious_eq_error]
    | false =>
      obtain ⟨serial, hserial⟩ := exists_serial_of_not hlist hasks
      simp [castCautious_eq hserial]

/-! ### A run that is refused -/

lemma value_run_eq_error {error : RequestError} :
    (request.run host).value = .error error ↔ request.check = .error error := by
  rcases hcheck : request.check with broken | ⟨⟩
  · simp [run_of_error hcheck]
  · simp [value_run_of_ok hcheck]

/-- **A run is refused by the rules and by nothing else.** The run of a request ends with an error
exactly where the check of the rules does, and with the same one; then nothing is looked for,
started, written or logged. The check passes a request that keeps all rules, and otherwise tells the
first broken one. Asking for a document and for a serial where they are needed changes nothing: both
are always there, so a cautious run is the run itself, and with any other writer of documents it
fails only where that writer does. -/
theorem refused_by_rules_alone (host : Host) (request : Request) :
    (∀ error, (request.run host).value = .error error ↔ request.check = .error error) ∧
    (∀ error, request.check = .error error → request.run host = ⟨.error error, []⟩) ∧
    (request.check = .ok () ↔ request.Keeps) ∧
    (∀ error, request.check = .error error ↔ request.FirstBroken error) ∧
    runCautious (some ∘ Device.renderAll) host request =
      Except.mapError RunError.rule <$> request.run host ∧
    ∀ (write? : List Device → Option String) (error : RunError),
      (runCautious write? host request).value = .error error ↔
        (∃ rule, request.check = .error rule ∧ error = .rule rule) ∨
          error = .noDocument ∧ request.check = .ok () ∧ request.listDevices = true ∧
            request.json = true ∧ ∃ found,
              (Bridge.findDevices host request.bridge).value = .ok found ∧
                write? found = none := by
  refine ⟨fun error => value_run_eq_error, ?_, check_eq_ok_iff_keeps,
    fun error => check_eq_error_iff, runCautious_eq host request, ?_⟩
  · intro error hcheck
    rw [run_of_error hcheck]
    rfl
  · intro write? error
    exact value_runCautious_eq_error

/-- A serial of blanks only is refused as empty, before the document that is not wanted. -/
example : ({ serial := some " ", json := true } : Request).check = .error .emptySerial := by cbv

end Request

end Screencast
