import Screencast.Proofs.Request.Advisory
import Screencast.Proofs.Request.Rules
import Screencast.Proofs.Request.TextListing

/-!
Telling what is found. A cast that is asked to tell of the devices that it finds is the same as one
that is not, but for the lines that it writes first: those of the list, with a mark in front of
each. What the casting tool writes stands behind them as it is.
-/

namespace Screencast.Request

open Session Text

/-- The same cast, with the devices told of that are found. -/
def outspoken (request : Request) : Request := { request with verbose := true }

/-- The list of the devices in place of the cast. -/
def asList (request : Request) : Request := { request with listDevices := true }

/-- No device is found for a cast. -/
inductive FindsNothing (host : Host) (request : Request) : Prop
  | refused {error : RequestError} (check : request.check = .error error)
  | nameless (serial : request.serial = none)
  | failed {failure : ToolError} (fails : host.Fails request.bridge Bridge.listArgs failure)
  | empty (lists : Bridge.Lists host request.bridge [])

variable {host : Host} {request : Request}

/-! ### Devices to tell of -/

lemma FindsNothing.not_reaches (h : FindsNothing host request) (serial : String) :
    ¬ Reaches host request serial := by
  intro hreaches
  obtain ⟨found, hvalue, hne⟩ := hreaches.exists_found
  cases h with
  | refused check =>
    rw [hreaches.check] at check
    cases check
  | nameless none =>
    rw [hreaches.targets] at none
    cases none
  | failed fails =>
    rw [Bridge.value_findDevices_eq_error.2 fails] at hvalue
    cases hvalue
  | empty lists =>
    obtain ⟨found', hvalue', hnil⟩ := Bridge.lists_iff.1 lists
    obtain rfl : found = found' := Except.ok.inj (hvalue.symm.trans hvalue')
    exact hne (List.map_eq_nil_iff.1 hnil)

/-- Where devices are found, the cast is reached. -/
lemma exists_reaches (hlist : request.listDevices = false) (h : ¬ FindsNothing host request) :
    ∃ serial, Reaches host request serial := by
  rcases hcheck : request.check with error | ⟨⟩
  · exact absurd (.refused hcheck) h
  rcases hserial : request.serial with _ | serial
  · exact absurd (.nameless hserial) h
  rcases hvalue : (Bridge.findDevices host request.bridge).value with failure | found
  · exact absurd (.failed (Bridge.value_findDevices_eq_error.1 hvalue)) h
  refine ⟨serial, reaches_of_found hcheck hlist hserial hvalue fun hnil => h (.empty ?_)⟩
  exact Bridge.lists_iff.2 ⟨found, hvalue, by rw [hnil]; rfl⟩

/-- Without a device there is nothing to tell. -/
lemma run_outspoken_of_findsNothing (hlist : request.listDevices = false)
    (h : FindsNothing host request) : request.outspoken.run host = request.run host := by
  have hcheck' : request.outspoken.check = request.check := rfl
  have hlist' : request.outspoken.listDevices = false := hlist
  rcases hcheck : request.check with error | ⟨⟩
  · rw [run_of_error hcheck, run_of_error (hcheck'.trans hcheck)]
  have hperform : request.outspoken.perform host = request.perform host := by
    rcases hserial : request.serial with _ | serial
    · have hserial' : request.outspoken.serial = none := hserial
      rw [perform_of_none hlist hserial, perform_of_none hlist' hserial']
    have hserial' : request.outspoken.serial = some serial := hserial
    rw [perform_of_some hlist hserial, perform_of_some hlist' hserial']
    rcases hvalue : (Bridge.findDevices host request.bridge).value with failure | found
    · rw [withDevices_of_error hvalue]
      exact withDevices_of_error hvalue _
    · obtain rfl : found = [] := by
        by_contra hne
        exact h.not_reaches serial (reaches_of_found hcheck hlist hserial hvalue hne)
      rw [withDevices_of_ok hvalue]
      exact withDevices_of_ok hvalue _
  rw [run_of_ok hcheck, run_of_ok (hcheck'.trans hcheck), hperform]

/-! ### The list in place of the cast -/

lemma Reaches.outspoken {serial : String} (h : Reaches host request serial) :
    Reaches host request.outspoken serial :=
  ⟨h.check, h.launches, h.targets, h.ready⟩

/-- What may be cast from may be listed as text. -/
lemma Reaches.asList {serial : String} (h : Reaches host request serial) :
    request.asList.check = .ok () ∧ request.json = false := by
  have hkeeps := check_eq_ok_iff_keeps.1 h.check
  refine ⟨check_eq_ok_iff_keeps.2 ⟨hkeeps.serial, hkeeps.codec, fun _ => rfl, hkeeps.bridge,
    hkeeps.castTool⟩, ?_⟩
  rw [← Bool.not_eq_true]
  intro hjson
  have hlist := hkeeps.json hjson
  rw [h.launches] at hlist
  cases hlist

/-- The lines of a list and those of what is told are about the same devices. -/
lemma Reaches.exists_lines {serial : String} {found : List Device}
    (h : Reaches host request serial)
    (hvalue : (Bridge.findDevices host request.bridge).value = .ok found) :
    (request.asList.run host).value = .ok .listed ∧
      ∃ lines : List String, lines ≠ [] ∧ (∀ line ∈ lines, '\n' ∉ line.toList) ∧
        (request.asList.run host).stdout =
          utf8 (String.ofList (unlines '\n' (lines.map String.toList))) ∧
        (announce true found).stdout =
          utf8 (String.ofList
            (unlines '\n' (lines.map fun line => ("Found device: " ++ line).toList))) := by
  obtain ⟨hcheck, hjson⟩ := h.asList
  have hne := h.found_ne_nil hvalue
  refine ⟨(run_of_list hcheck rfl hvalue).1, found.map Device.summary,
    fun hnil => hne (List.map_eq_nil_iff.1 hnil), ?_, ?_, ?_⟩
  · intro line hline
    obtain ⟨device, hdevice, rfl⟩ := List.mem_map.1 hline
    exact newline_notMem_summary (faithful_of_mem_found hvalue) hdevice
  · have hjson' : request.asList.json = false := hjson
    rw [stdout_run_of_list hcheck rfl hvalue, hjson', stdout_report_text hne, List.map_map]
    rfl
  · have hannounce : announce true found =
        Session.writeLines (found.map fun device => "Found device: " ++ device.summary) := rfl
    rw [hannounce, stdout_writeLines, List.map_map, List.map_map]
    rfl

/-! ### Two runs -/

/-- **Telling what is found only adds lines.** A cast that tells of the devices has the result, the
complaints, the log records and the calls of one that does not, and its output behind what is told.
Where no device is found, nothing is told; otherwise, what is told are the lines of the list that
the same request would print, in their order and each with a mark in front of it, and behind them
stands what the casting tool writes. -/
theorem verbose_only_adds_lines (hlist : request.listDevices = false)
    (hquiet : request.verbose = false) (host : Host) :
    (request.outspoken.run host).value = (request.run host).value ∧
    (request.outspoken.run host).stderr = (request.run host).stderr ∧
    (request.outspoken.run host).records = (request.run host).records ∧
    (request.outspoken.run host).calls = (request.run host).calls ∧
    ∃ told, (request.outspoken.run host).stdout = told ++ (request.run host).stdout ∧
      (FindsNothing host request → told = []) ∧
      (¬ FindsNothing host request →
        (request.asList.run host).value = .ok .listed ∧
        ∃ lines : List String, lines ≠ [] ∧ (∀ line ∈ lines, '\n' ∉ line.toList) ∧
          (request.asList.run host).stdout =
            utf8 (String.ofList (unlines '\n' (lines.map String.toList))) ∧
          told = utf8 (String.ofList
            (unlines '\n' (lines.map fun line => ("Found device: " ++ line).toList)))) ∧
      ∀ serial cast, Reaches host request serial →
        host.Runs request.castTool (request.castOptions serial).toArgs cast →
        (request.outspoken.run host).stdout = told ++ cast.response.stdout := by
  by_cases hnothing : FindsNothing host request
  · rw [run_outspoken_of_findsNothing hlist hnothing]
    exact ⟨rfl, rfl, rfl, rfl, [], rfl, fun _ => rfl, fun h => absurd hnothing h,
      fun serial cast h => absurd h (hnothing.not_reaches serial)⟩
  -- both requests reach the same cast, and their stages differ in what is told only
  obtain ⟨serial, hreaches⟩ := exists_reaches hlist hnothing
  obtain ⟨found, hvalue, -⟩ := hreaches.exists_found
  have houtspoken := hreaches.outspoken
  have hstdout : (request.run host).stdout = (launch host request serial).stdout := by
    rw [hreaches.stdout_run hvalue, hquiet]
    rfl
  refine ⟨?_, ?_, ?_, ?_, (announce true found).stdout, ?_, ?_, ?_, ?_⟩
  · rw [houtspoken.value_run hvalue, hreaches.value_run hvalue]
    rfl
  · rw [houtspoken.stderr_run hvalue, hreaches.stderr_run hvalue]
    rfl
  · rw [houtspoken.records_run hvalue, hreaches.records_run hvalue]
    rfl
  · rw [calls_run_of_some houtspoken.asks hlist houtspoken.targets hvalue,
      calls_run_of_some hreaches.asks hlist hreaches.targets hvalue]
    rfl
  · rw [houtspoken.stdout_run hvalue, hstdout]
    rfl
  · exact fun h => absurd h hnothing
  · exact fun _ => hreaches.exists_lines hvalue
  · intro serial' cast hreaches' hruns
    obtain rfl : serial = serial' :=
      Option.some.inj (hreaches.targets.symm.trans hreaches'.targets)
    have hlaunch : (launch host request serial).stdout = cast.response.stdout := by
      rw [stdout_launch, CastOptions.stdout_launch_of_runs hruns]
    rw [houtspoken.stdout_run hvalue, ← hlaunch]
    rfl

/-- A cast that tells of a device, and then what the casting tool writes. -/
theorem verbose_only_adds_lines_old :
    castRequest.listDevices = false ∧ castRequest.verbose = false ∧
    ∃ lines : List String, lines ≠ [] ∧
      (castRequest.outspoken.run oldHost).stdout =
        utf8 (String.ofList
          (unlines '\n' (lines.map fun line => ("Found device: " ++ line).toList))) ++
          utf8 "INFO: casting\n" := by
  have hreaches : Reaches oldHost castRequest "a" := reaches_oldHost
  have hruns : oldHost.Runs castRequest.castTool (castRequest.castOptions "a").toArgs
      ⟨"scrcpy", ⟨utf8 "INFO: casting\n", [], .code 0⟩⟩ :=
    ⟨⟨"/scrcpy"⟩, find_castTool_castHost _ _, rfl⟩
  have hlist : castRequest.listDevices = false := rfl
  obtain ⟨-, -, -, -, told, -, -, hlines, hcast⟩ := verbose_only_adds_lines hlist rfl oldHost
  obtain ⟨-, lines, hne, -, -, htold⟩ := hlines fun h => h.not_reaches "a" hreaches
  refine ⟨hlist, rfl, lines, hne, ?_⟩
  rw [hcast "a" _ hreaches hruns, htold]

end Screencast.Request
