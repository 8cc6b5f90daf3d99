import Screencast.Proofs.Request.Trace

/-!
How the work on a request ends. Each outcome stands for one situation: a bridge that fails is never
taken for one that lists no device, and nothing is written that does not go with the outcome.
-/

namespace Screencast.Request

open Session Text

/-- The request is for a cast from a device, and the bridge lists at least one. -/
structure Reaches (host : Host) (request : Request) (serial : String) : Prop where
  check : request.check = .ok ()
  launches : request.listDevices = false
  targets : request.serial = some serial
  ready : ∃ entries, Bridge.Lists host request.bridge entries ∧ entries ≠ []

/-- The situations in which the work on a request ends with an outcome. -/
inductive Ends (host : Host) (request : Request) : Outcome → Prop
  | missingSerial (check : request.check = .ok ()) (launches : request.listDevices = false)
    (serial : request.serial = none) : Ends host request .missingSerial
  | listed {entries : List Listing.Entry} (check : request.check = .ok ())
    (lists : request.listDevices = true)
    (ready : Bridge.Lists host request.bridge entries) : Ends host request .listed
  | noDevices {serial : String} (check : request.check = .ok ())
    (launches : request.listDevices = false) (serial : request.serial = some serial)
    (ready : Bridge.Lists host request.bridge []) : Ends host request .noDevices
  | launched {serial : String} {cast : Started} (reaches : Reaches host request serial)
    (runs : host.Runs request.castTool (request.castOptions serial).toArgs cast)
    (exit : cast.response.exit = .code 0) : Ends host request .launched
  /-- The bridge is not found, does not start, or does not report success. -/
  | bridgeFailed {failure : ToolError} (asks : request.Asks)
    (fails : host.Fails request.bridge Bridge.listArgs failure) : Ends host request .failed
  /-- The casting tool is not found, does not start, or does not report success. -/
  | castFailed {serial : String} {failure : ToolError} (reaches : Reaches host request serial)
    (fails : host.Fails request.castTool (request.castOptions serial).toArgs failure) :
    Ends host request .failed

variable {host : Host} {request : Request}

lemma Reaches.asks {serial : String} (h : Reaches host request serial) : request.Asks :=
  ⟨h.check, .inr (by rw [h.targets]; exact Option.some_ne_none _)⟩

lemma Reaches.exists_found {serial : String} (h : Reaches host request serial) :
    ∃ found, (Bridge.findDevices host request.bridge).value = .ok found ∧ found ≠ [] := by
  obtain ⟨entries, hlists, hne⟩ := h.ready
  obtain ⟨found, hvalue, rfl⟩ := Bridge.lists_iff.1 hlists
  exact ⟨found, hvalue, fun hnil => hne (by rw [hnil]; rfl)⟩

lemma reaches_of_found {serial : String} {found : List Device} (hcheck : request.check = .ok ())
    (hlist : request.listDevices = false) (hserial : request.serial = some serial)
    (hvalue : (Bridge.findDevices host request.bridge).value = .ok found) (hne : found ≠ []) :
    Reaches host request serial where
  check := hcheck
  launches := hlist
  targets := hserial
  ready := ⟨_, Bridge.lists_iff.2 ⟨found, hvalue, rfl⟩, fun hnil => hne (List.map_eq_nil_iff.1 hnil)⟩

/-! ### The situations one by one -/

lemma run_of_missingSerial (hcheck : request.check = .ok ()) (hlist : request.listDevices = false)
    (hserial : request.serial = none) : request.run host = ⟨.ok .missingSerial, []⟩ := by
  rw [run_of_ok hcheck, perform_of_none hlist hserial]
  rfl

section Found

variable {found : List Device}

/-- A list is not accompanied by complaints. -/
lemma run_of_list (hcheck : request.check = .ok ()) (hlist : request.listDevices = true)
    (hvalue : (Bridge.findDevices host request.bridge).value = .ok found) :
    (request.run host).value = .ok .listed ∧ (request.run host).stderr = [] := by
  rw [value_run_of_ok hcheck, stderr_run_of_ok hcheck, perform_of_list hlist,
    withDevices_of_ok hvalue]
  refine ⟨rfl, ?_⟩
  rw [(Bridge.quiet_findDevices ..).stderr_bind_eq, stderr_bind, stderr_report]
  rfl

/-- A list goes to the standard output as a whole, and nothing else does. -/
lemma stdout_run_of_list (hcheck : request.check = .ok ())
    (hlist : request.listDevices = true)
    (hvalue : (Bridge.findDevices host request.bridge).value = .ok found) :
    (request.run host).stdout = (report request.json found).stdout := by
  rw [stdout_run_of_ok hcheck, perform_of_list hlist, withDevices_of_ok hvalue,
    (Bridge.quiet_findDevices ..).stdout_bind_eq, stdout_bind]
  exact List.append_nil _

/-- Without devices nothing is written but the one line that says so. -/
lemma run_of_noDevices {serial : String} (hcheck : request.check = .ok ())
    (hlist : request.listDevices = false) (hserial : request.serial = some serial)
    (hvalue : (Bridge.findDevices host request.bridge).value = .ok []) :
    (request.run host).value = .ok .noDevices ∧ (request.run host).stdout = [] ∧
      (request.run host).stderr = utf8 "No devices found.\n" := by
  rw [value_run_of_ok hcheck, stdout_run_of_ok hcheck, stderr_run_of_ok hcheck,
    perform_of_some hlist hserial, withDevices_of_ok hvalue, cast_nil]
  refine ⟨rfl, ?_, ?_⟩
  · rw [(Bridge.quiet_findDevices ..).stdout_bind_eq]
    rfl
  · rw [(Bridge.quiet_findDevices ..).stderr_bind_eq]
    rfl

/-- A device is cast from where the casting tool runs. -/
lemma value_run_of_ne_nil {serial : String} (hcheck : request.check = .ok ())
    (hlist : request.listDevices = false) (hserial : request.serial = some serial)
    (hvalue : (Bridge.findDevices host request.bridge).value = .ok found) (hne : found ≠ []) :
    (request.run host).value = .ok (launch host request serial).value := by
  rw [value_run_of_ok hcheck, perform_of_some hlist hserial, withDevices_of_ok hvalue,
    value_bind, cast_of_ne_nil hne]
  rfl

end Found

/-- A bridge that fails writes nothing, and there is no more to it. -/
lemma run_of_bridgeFailed (hasks : request.Asks) {failure : ToolError}
    (hvalue : (Bridge.findDevices host request.bridge).value = .error failure) :
    (request.run host).value = .ok .failed ∧ (request.run host).Quiet := by
  obtain ⟨next, hnext⟩ := hasks.exists_perform host
  have hquiet : (request.perform host).Quiet := by
    rw [hnext, withDevices_of_error hvalue]
    exact (Bridge.quiet_findDevices ..).bind ((Quiet.log ..).bind (Quiet.pure _))
  refine ⟨?_, (stdout_run_of_ok hasks.1).trans hquiet.stdout,
    (stderr_run_of_ok hasks.1).trans hquiet.stderr⟩
  rw [value_run_of_ok hasks.1, hnext, withDevices_of_error hvalue]
  rfl

/-! ### What a cast adds to the listing -/

section Reached

variable {serial : String} {found : List Device} (h : Reaches host request serial)
  (hvalue : (Bridge.findDevices host request.bridge).value = .ok found)

include h hvalue

lemma Reaches.found_ne_nil : found ≠ [] := by
  obtain ⟨found', hvalue', hne⟩ := h.exists_found
  rw [hvalue] at hvalue'
  obtain rfl := Except.ok.inj hvalue'
  exact hne

/-- The stages of a cast: the devices are found, told of and looked at, and then it is launched. -/
lemma Reaches.perform_eq :
    request.perform host =
      Bridge.findDevices host request.bridge >>= fun _ =>
        (announce request.verbose found >>= fun _ => advise found serial (!request.noAudio)) >>=
          fun _ => launch host request serial := by
  rw [perform_of_some h.launches h.targets, withDevices_of_ok hvalue,
    cast_of_ne_nil (h.found_ne_nil hvalue)]

lemma Reaches.value_run :
    (request.run host).value = .ok (launch host request serial).value :=
  value_run_of_ne_nil h.check h.launches h.targets hvalue (h.found_ne_nil hvalue)

/-- Nothing but the launch writes to the standard error. -/
lemma Reaches.stderr_run : (request.run host).stderr = (launch host request serial).stderr := by
  rw [stderr_run_of_ok h.check, h.perform_eq hvalue, (Bridge.quiet_findDevices ..).stderr_bind_eq,
    stderr_bind, stderr_bind, stderr_announce, (quiet_advise ..).stderr]
  rfl

/-- Before the launch, only what is told of the devices goes to the standard output. -/
lemma Reaches.stdout_run :
    (request.run host).stdout =
      (announce request.verbose found).stdout ++ (launch host request serial).stdout := by
  rw [stdout_run_of_ok h.check, h.perform_eq hvalue, (Bridge.quiet_findDevices ..).stdout_bind_eq,
    stdout_bind, stdout_bind, (quiet_advise ..).stdout, List.append_nil]

/-- The records of a cast: those of the listing, the advice, and those of the launch. -/
lemma Reaches.records_run :
    (request.run host).records =
      (Bridge.findDevices host request.bridge).records ++
        ((advise found serial (!request.noAudio)).records ++
          (launch host request serial).records) := by
  rw [records_run_of_ok h.check, h.perform_eq hvalue, records_bind, records_bind, records_bind,
    records_announce, List.nil_append]

/-- The warnings are the advice. -/
lemma Reaches.warnings_run :
    (request.run host).warnings = (advise found serial (!request.noAudio)).warnings := by
  have hlisting : (Bridge.findDevices host request.bridge).records.filter (·.level = .warn) = [] :=
    Logs.filter_eq_nil (Bridge.logs_findDevices (fun _ => rfl) (fun _ => rfl) ..)
  have hcast : ((request.castOptions serial).launch host request.castTool).records.filter
      (·.level = .warn) = [] :=
    Logs.filter_eq_nil (CastOptions.logs_launch (fun _ => rfl) ..)
  have hlaunch : (launch host request serial).records.filter (·.level = .warn) = [] := by
    rw [records_launch, List.filter_append, hcast]
    split <;> rfl
  unfold warnings
  rw [h.records_run hvalue, List.filter_append, List.filter_append, hlisting, hlaunch,
    List.append_nil, List.nil_append]

end Reached

/-- The programs started for a cast: those for the listing, and then the casting tool. -/
lemma Reaches.calls_run {serial : String} (h : Reaches host request serial) {bridge : Started}
    (hruns : host.Runs request.bridge Bridge.listArgs bridge) :
    (request.run host).calls =
      listingCalls Host.isArgument bridge.name
          (Listing.entries (decodeUtf8 bridge.response.stdout)) ++
        ((request.castOptions serial).launch host request.castTool).calls := by
  obtain ⟨entries, ⟨started, hstarted, hexit, -⟩, -⟩ := h.ready
  obtain rfl := hruns.unique hstarted
  obtain ⟨found, hvalue, hne⟩ := h.exists_found
  rw [calls_run_of_some h.asks h.launches h.targets hvalue, if_neg hne,
    calls_findDevices_of_lists hruns hexit]

/-! ### The outcome -/

/-- Each situation has its outcome. -/
lemma value_run_of_ends {outcome : Outcome} (h : Ends host request outcome) :
    (request.run host).value = .ok outcome := by
  cases h with
  | missingSerial check launches serial => rw [run_of_missingSerial check launches serial]
  | listed check lists ready =>
    obtain ⟨found, hvalue, -⟩ := Bridge.lists_iff.1 ready
    exact (run_of_list check lists hvalue).1
  | noDevices check launches serial ready =>
    obtain ⟨found, hvalue, hnil⟩ := Bridge.lists_iff.1 ready
    obtain rfl := List.map_eq_nil_iff.1 hnil
    exact (run_of_noDevices check launches serial hvalue).1
  | @launched serial cast reaches runs exit =>
    obtain ⟨found, hvalue, hne⟩ := reaches.exists_found
    rw [value_run_of_ne_nil reaches.check reaches.launches reaches.targets hvalue hne, value_launch,
      CastOptions.value_launch_eq_ok.2 ⟨cast, runs, exit⟩]
  | bridgeFailed asks fails =>
    exact (run_of_bridgeFailed asks (Bridge.value_findDevices_eq_error.2 fails)).1
  | castFailed reaches fails =>
    obtain ⟨found, hvalue, hne⟩ := reaches.exists_found
    rw [value_run_of_ne_nil reaches.check reaches.launches reaches.targets hvalue hne, value_launch,
      CastOptions.value_launch_eq_error.2 fails]

/-- A request that keeps the rules is in one of the situations. -/
lemma exists_ends (host : Host) (hcheck : request.check = .ok ()) :
    ∃ outcome, Ends host request outcome := by
  cases hlist : request.listDevices with
  | true =>
    rcases hvalue : (Bridge.findDevices host request.bridge).value with failure | found
    · exact ⟨_, .bridgeFailed ⟨hcheck, .inl hlist⟩ (Bridge.value_findDevices_eq_error.1 hvalue)⟩
    · exact ⟨_, .listed hcheck hlist (Bridge.lists_iff.2 ⟨found, hvalue, rfl⟩)⟩
  | false =>
    cases hserial : request.serial with
    | none => exact ⟨_, .missingSerial hcheck hlist hserial⟩
    | some serial =>
      rcases hvalue : (Bridge.findDevices host request.bridge).value with failure | found
      · have hasks : request.Asks := ⟨hcheck, .inr (by rw [hserial]; exact Option.some_ne_none _)⟩
        exact ⟨_, .bridgeFailed hasks (Bridge.value_findDevices_eq_error.1 hvalue)⟩
      by_cases hnil : found = []
      · subst hnil
        exact ⟨_, .noDevices hcheck hlist hserial (Bridge.lists_iff.2 ⟨[], hvalue, rfl⟩)⟩
      have hreaches := reaches_of_found hcheck hlist hserial hvalue hnil
      rcases hlaunch : ((request.castOptions serial).launch host request.castTool).value with
        failure | ⟨⟩
      · exact ⟨_, .castFailed hreaches (CastOptions.value_launch_eq_error.1 hlaunch)⟩
      · obtain ⟨cast, hruns, hexit⟩ := CastOptions.value_launch_eq_ok.1 hlaunch
        exact ⟨_, .launched hreaches hruns hexit⟩

lemma value_run_eq_ok {outcome : Outcome} :
    (request.run host).value = .ok outcome ↔ Ends host request outcome := by
  constructor
  · intro hvalue
    have hcheck : request.check = .ok () := by
      rcases hcheck : request.check with error | ⟨⟩
      · rw [run_of_error hcheck] at hvalue
        cases hvalue
      · rfl
    obtain ⟨outcome', h⟩ := exists_ends host hcheck
    rw [value_run_of_ends h] at hvalue
    obtain rfl := Except.ok.inj hvalue
    exact h
  · exact value_run_of_ends

/-- Where a cast is reached, starting it is the last thing that is done. -/
lemma getLast?_calls_run {serial : String} {cast : Started} (h : Reaches host request serial)
    (hruns : host.Runs request.castTool (request.castOptions serial).toArgs cast) :
    (request.run host).calls.getLast? = some (cast.name, (request.castOptions serial).toArgs) := by
  obtain ⟨found, hvalue, hne⟩ := h.exists_found
  rw [calls_run_of_some h.asks h.launches h.targets hvalue, if_neg hne,
    CastOptions.calls_launch_of_runs hruns, List.getLast?_concat]

/-- **The outcome tells what happened.** Each outcome stands for its situations, and what is
written goes with it: without devices there is one complaint and nothing else, a list comes without
complaints, a missing serial and a bridge that fails leave both outputs empty. Where a cast is
reached and its tool runs, this is the last call. -/
theorem outcome_iff_ends (host : Host) (request : Request) :
    (∀ outcome, (request.run host).value = .ok outcome ↔ Ends host request outcome) ∧
    ((request.run host).value = .ok .noDevices →
      (request.run host).stdout = [] ∧
        (request.run host).stderr = utf8 "No devices found.\n") ∧
    ((request.run host).value = .ok .listed → (request.run host).stderr = []) ∧
    ((request.run host).value = .ok .missingSerial →
      (request.run host).stdout = [] ∧ (request.run host).stderr = [] ∧
        (request.run host).records = [] ∧ (request.run host).calls = []) ∧
    (∀ failure, request.Asks → host.Fails request.bridge Bridge.listArgs failure →
      (request.run host).stdout = [] ∧ (request.run host).stderr = []) ∧
    ∀ serial cast, Reaches host request serial →
      host.Runs request.castTool (request.castOptions serial).toArgs cast →
      (request.run host).calls.getLast? =
        some (cast.name, (request.castOptions serial).toArgs) := by
  refine ⟨fun outcome => value_run_eq_ok, ?_, ?_, ?_, ?_, ?_⟩
  · intro h
    cases value_run_eq_ok.1 h with
    | noDevices check launches serial ready =>
      obtain ⟨found, hvalue, hnil⟩ := Bridge.lists_iff.1 ready
      obtain rfl := List.map_eq_nil_iff.1 hnil
      exact (run_of_noDevices check launches serial hvalue).2
  · intro h
    cases value_run_eq_ok.1 h with
    | listed check lists ready =>
      obtain ⟨found, hvalue, -⟩ := Bridge.lists_iff.1 ready
      exact (run_of_list check lists hvalue).2
  · intro h
    cases value_run_eq_ok.1 h with
    | missingSerial check launches serial =>
      rw [run_of_missingSerial check launches serial]
      exact ⟨rfl, rfl, rfl, rfl⟩
  · intro failure hasks hfails
    have hquiet := (run_of_bridgeFailed hasks (Bridge.value_findDevices_eq_error.2 hfails)).2
    exact ⟨hquiet.stdout, hquiet.stderr⟩
  · intro serial cast hreaches hruns
    exact getLast?_calls_run hreaches hruns

end Screencast.Request
