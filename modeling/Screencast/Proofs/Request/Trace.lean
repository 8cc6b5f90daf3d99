import Screencast.Proofs.Listing.Serial
import Screencast.Proofs.Request.Run
import Screencast.Proofs.Text.Utf8

/-!
Which programs the work on a request starts, in which order and with which arguments. The bridge is
asked for its listing and then for the level of each device on it; a cast comes after all of that,
and at most once.
-/

namespace Screencast.Request

open Session Text

/-- The request keeps the rules, and either wants a list of the devices or names one of them. -/
def Asks (request : Request) : Prop :=
  request.check = .ok () ∧ (request.listDevices = true ∨ request.serial ≠ none)

/-- The calls of a bridge, by its name, for a listing and for the level of each entry whose serial
fits as an argument. -/
def listingCalls (fits : String → Bool) (name : String) (entries : List Listing.Entry) :
    List (String × List String) :=
  (name, Bridge.listArgs) ::
    (entries.filter fun entry => fits entry.serial).map fun entry =>
      (name, Bridge.queryArgs entry.serial)

/-- A request for a cast with at least one ready device, with a casting tool that can be started
and arguments that all fit. -/
structure Casts (fits : String → Bool) (host : Host) (request : Request)
    (entries : List Listing.Entry) (serial : String) (cast : Started) : Prop where
  launches : request.listDevices = false
  targets : request.serial = some serial
  ready : entries ≠ []
  runs : host.Runs request.castTool [] cast
  fits : ∀ arg ∈ (request.castOptions serial).toArgs, fits arg = true

/-- The calls that a request leads to on a host, given which texts fit as arguments. -/
inductive Traced (fits : String → Bool) (host : Host) (request : Request) :
    List (String × List String) → Prop
  /-- There is nothing to ask for, or no bridge that can be asked. -/
  | idle (h : ¬ request.Asks ∨ ∀ bridge, ¬ host.Runs request.bridge Bridge.listArgs bridge) :
    Traced fits host request []
  /-- The bridge does not report success. -/
  | refused {bridge : Started} (asks : request.Asks)
    (runs : host.Runs request.bridge Bridge.listArgs bridge)
    (exit : bridge.response.exit ≠ .code 0) :
    Traced fits host request [(bridge.name, Bridge.listArgs)]
  /-- The devices are listed, and there is no cast. -/
  | listed {bridge : Started} {entries : List Listing.Entry} (asks : request.Asks)
    (runs : host.Runs request.bridge Bridge.listArgs bridge)
    (exit : bridge.response.exit = .code 0)
    (listing : Listing.entries (Text.decodeUtf8 bridge.response.stdout) = entries)
    (h : ∀ serial cast, ¬ Casts fits host request entries serial cast) :
    Traced fits host request (listingCalls fits bridge.name entries)
  /-- The devices are listed, and the cast is the last call. -/
  | cast {bridge : Started} {entries : List Listing.Entry} {serial : String} {cast : Started}
    (asks : request.Asks) (runs : host.Runs request.bridge Bridge.listArgs bridge)
    (exit : bridge.response.exit = .code 0)
    (listing : Listing.entries (Text.decodeUtf8 bridge.response.stdout) = entries)
    (h : Casts fits host request entries serial cast) :
    Traced fits host request
      (listingCalls fits bridge.name entries ++
        [(cast.name, (request.castOptions serial).toArgs)])

variable {host : Host} {request : Request}

/-- A request that wants no list names a device. -/
lemma Asks.exists_serial (h : request.Asks) (hlist : request.listDevices = false) :
    ∃ serial, request.serial = some serial :=
  Option.ne_none_iff_exists'.1 (h.2.resolve_left (by simp [hlist]))

/-- The work on such a request begins with the devices. -/
lemma Asks.exists_perform (h : request.Asks) (host : Host) :
    ∃ next, request.perform host = request.withDevices host next := by
  cases hlist : request.listDevices with
  | true => exact ⟨_, perform_of_list hlist⟩
  | false =>
    obtain ⟨serial, hserial⟩ := h.exists_serial hlist
    exact ⟨_, perform_of_some hlist hserial⟩

/-! ### The calls for a listing -/

/-- The arguments of a query fit if the serial does. -/
lemma isArgument_of_mem_queryArgs_iff {serial : String} :
    (∀ arg ∈ Bridge.queryArgs serial, Host.isArgument arg = true) ↔
      Host.isArgument serial = true := by
  have hwords : ∀ arg ∈ ["-s", "shell", "getprop", ApiLevel.property],
      Host.isArgument arg = true := by decide
  constructor
  · intro h
    exact h serial (by simp [Bridge.queryArgs])
  · intro h arg harg
    by_cases hserial : arg = serial
    · rw [hserial]
      exact h
    · refine hwords arg ?_
      simpa [Bridge.queryArgs, hserial] using harg

/-- The queries of a bridge that was started once. -/
lemma calls_identify_of_start {path : ToolPath} {bridge : Started}
    (h : host.start path Bridge.listArgs = .ok bridge) (entries : List Listing.Entry) :
    (entries.flatMap fun entry => (Bridge.identify host ⟨path⟩ entry).calls) =
      (entries.filter fun entry => Host.isArgument entry.serial).map fun entry =>
        (bridge.name, Bridge.queryArgs entry.serial) := by
  induction entries with
  | nil => rfl
  | cons entry entries ih =>
    rw [List.flatMap_cons, ih, Bridge.calls_identify, Host.calls_capture_of_start h]
    simp only [isArgument_of_mem_queryArgs_iff]
    cases hserial : Host.isArgument entry.serial <;> simp [hserial]

lemma calls_findDevices_of_lists {bridge : Started}
    (h : host.Runs request.bridge Bridge.listArgs bridge)
    (hexit : bridge.response.exit = .code 0) :
    (Bridge.findDevices host request.bridge).calls =
      listingCalls Host.isArgument bridge.name
        (Listing.entries (Text.decodeUtf8 bridge.response.stdout)) := by
  obtain ⟨path, hfind, hstart⟩ := h
  rw [Bridge.calls_findDevices_of_ok hfind, Bridge.calls_devices, Host.calls_capture, hstart,
    Host.value_capture_eq_ok.2 ⟨bridge, hstart, hexit, rfl⟩]
  dsimp only
  rw [calls_identify_of_start hstart]
  rfl

lemma calls_findDevices_of_refuses {bridge : Started}
    (h : host.Runs request.bridge Bridge.listArgs bridge)
    (hexit : bridge.response.exit ≠ .code 0) :
    (Bridge.findDevices host request.bridge).calls = [(bridge.name, Bridge.listArgs)] := by
  obtain ⟨path, hfind, hstart⟩ := h
  rw [Bridge.calls_findDevices_of_ok hfind, Bridge.calls_devices, Host.calls_capture, hstart,
    Host.value_capture_eq_error.2 (.notSuccessful hstart hexit)]
  rfl

lemma calls_findDevices_of_not_runs
    (h : ∀ bridge, ¬ host.Runs request.bridge Bridge.listArgs bridge) :
    (Bridge.findDevices host request.bridge).calls = [] := by
  rcases hfind : host.find request.bridge with error | path
  · rw [Bridge.findDevices_of_error hfind, calls_pure]
  · rcases hstart : host.start path Bridge.listArgs with error | bridge
    · rw [Bridge.calls_findDevices_of_ok hfind, Bridge.calls_devices, Host.calls_capture, hstart,
        Host.value_capture_eq_error.2 (.notStarted hstart)]
      rfl
    · exact absurd ⟨path, hfind, hstart⟩ (h bridge)

/-! ### The calls of the whole -/

lemma run_of_not_asks (host : Host) (h : ¬ request.Asks) :
    request.run host = pure (request.check.map fun _ => .missingSerial) := by
  rcases hcheck : request.check with error | ⟨⟩
  · exact run_of_error hcheck
  · have hnot : request.listDevices = false ∧ request.serial = none := by
      simpa [Asks, hcheck] using h
    rw [run_of_ok hcheck, perform_of_none hnot.1 hnot.2]
    rfl

lemma calls_run_of_not_asks (h : ¬ request.Asks) : (request.run host).calls = [] := by
  rw [run_of_not_asks host h, calls_pure]

/-- Where the devices cannot be listed, nothing else is started. -/
lemma calls_run_of_error (h : request.Asks) {failure : ToolError}
    (hvalue : (Bridge.findDevices host request.bridge).value = .error failure) :
    (request.run host).calls = (Bridge.findDevices host request.bridge).calls := by
  obtain ⟨next, hnext⟩ := h.exists_perform host
  rw [calls_run_of_ok h.1, hnext, withDevices_of_error hvalue, calls_bind, calls_bind, calls_log,
    calls_pure, List.append_nil, List.append_nil]

/-- Listing the devices starts nothing else either. -/
lemma calls_run_of_list (h : request.Asks) (hlist : request.listDevices = true)
    {found : List Device}
    (hvalue : (Bridge.findDevices host request.bridge).value = .ok found) :
    (request.run host).calls = (Bridge.findDevices host request.bridge).calls := by
  rw [calls_run_of_ok h.1, perform_of_list hlist, withDevices_of_ok hvalue, calls_bind, calls_bind,
    calls_report, calls_pure, List.append_nil, List.append_nil]

/-- A cast is launched behind the listing, if there is a device. -/
lemma calls_run_of_some (h : request.Asks) (hlist : request.listDevices = false) {serial : String}
    (hserial : request.serial = some serial) {found : List Device}
    (hvalue : (Bridge.findDevices host request.bridge).value = .ok found) :
    (request.run host).calls =
      (Bridge.findDevices host request.bridge).calls ++
        if found = [] then []
        else ((request.castOptions serial).launch host request.castTool).calls := by
  rw [calls_run_of_ok h.1, perform_of_some hlist hserial, withDevices_of_ok hvalue, calls_bind]
  congr 1
  split
  · next hnil =>
    rw [hnil, cast_nil, calls_bind, calls_complainLine, calls_pure, List.append_nil]
  · next hne => exact calls_cast_of_ne_nil hne serial

lemma exists_traced (fits : String → Bool) (host : Host) (request : Request) :
    ∃ calls, Traced fits host request calls := by
  by_cases hasks : request.Asks
  · by_cases hruns : ∃ bridge, host.Runs request.bridge Bridge.listArgs bridge
    · obtain ⟨bridge, hruns⟩ := hruns
      by_cases hexit : bridge.response.exit = .code 0
      · by_cases hcasts : ∃ serial cast, Casts fits host request
            (Listing.entries (Text.decodeUtf8 bridge.response.stdout)) serial cast
        · obtain ⟨serial, cast, hcasts⟩ := hcasts
          exact ⟨_, .cast hasks hruns hexit rfl hcasts⟩
        · exact ⟨_, .listed hasks hruns hexit rfl fun serial cast h => hcasts ⟨serial, cast, h⟩⟩
      · exact ⟨_, .refused hasks hruns hexit⟩
    · exact ⟨_, .idle (.inr fun bridge h => hruns ⟨bridge, h⟩)⟩
  · exact ⟨_, .idle (.inl hasks)⟩

/-- Devices are found exactly where entries are listed. -/
lemma exists_found {bridge : Started} (h : host.Runs request.bridge Bridge.listArgs bridge)
    (hexit : bridge.response.exit = .code 0) :
    ∃ found, (Bridge.findDevices host request.bridge).value = .ok found ∧
      (found = [] ↔ Listing.entries (Text.decodeUtf8 bridge.response.stdout) = []) := by
  obtain ⟨found, hvalue, hentries⟩ := Bridge.lists_iff.1 ⟨bridge, h, hexit, rfl⟩
  exact ⟨found, hvalue, by rw [← hentries, List.map_eq_nil_iff]⟩

/-- The casting tool is started where a cast is due. -/
lemma calls_launch_of_casts {entries : List Listing.Entry} {serial : String} {cast : Started}
    (h : Casts Host.isArgument host request entries serial cast) :
    ((request.castOptions serial).launch host request.castTool).calls =
      [(cast.name, (request.castOptions serial).toArgs)] := by
  obtain ⟨response, hruns⟩ := Host.exists_runs_iff.2 ⟨h.fits, cast.response, h.runs⟩
  have hcalls := CastOptions.calls_launch_of_runs hruns
  exact hcalls

lemma calls_launch_of_not_casts {entries : List Listing.Entry} {serial : String}
    (hlist : request.listDevices = false) (hserial : request.serial = some serial)
    (hready : entries ≠ [])
    (h : ∀ serial cast, ¬ Casts Host.isArgument host request entries serial cast) :
    ((request.castOptions serial).launch host request.castTool).calls = [] := by
  refine CastOptions.calls_launch_of_not_runs fun started hruns => ?_
  obtain ⟨hfits, response, hnone⟩ := Host.exists_runs_iff.1 ⟨started.response, hruns⟩
  exact h serial ⟨started.name, response⟩ ⟨hlist, hserial, hready, hnone, hfits⟩

lemma calls_run_of_traced {calls : List (String × List String)}
    (h : Traced Host.isArgument host request calls) : (request.run host).calls = calls := by
  have hfailure : ∀ found, (Bridge.findDevices host request.bridge).value = .ok found →
      ∃ bridge, host.Runs request.bridge Bridge.listArgs bridge ∧
        bridge.response.exit = .code 0 := by
    intro found hvalue
    obtain ⟨bridge, hruns, hexit, -⟩ := Bridge.lists_iff.2 ⟨found, hvalue, rfl⟩
    exact ⟨bridge, hruns, hexit⟩
  cases h with
  | idle h =>
    by_cases hasks : request.Asks
    · have hruns := h.resolve_left (not_not_intro hasks)
      rcases hvalue : (Bridge.findDevices host request.bridge).value with failure | found
      · rw [calls_run_of_error hasks hvalue, calls_findDevices_of_not_runs hruns]
      · obtain ⟨bridge, h, -⟩ := hfailure found hvalue
        exact absurd h (hruns bridge)
    · exact calls_run_of_not_asks hasks
  | @refused bridge asks runs exit =>
    rcases hvalue : (Bridge.findDevices host request.bridge).value with failure | found
    · rw [calls_run_of_error asks hvalue, calls_findDevices_of_refuses runs exit]
    · obtain ⟨bridge', h, hexit⟩ := hfailure found hvalue
      rw [h.unique runs] at hexit
      exact absurd hexit exit
  | listed asks runs exit listing hcasts =>
    subst listing
    obtain ⟨found, hvalue, hnil⟩ := exists_found runs exit
    rw [← calls_findDevices_of_lists runs exit]
    cases hlist : request.listDevices with
    | true => exact calls_run_of_list asks hlist hvalue
    | false =>
      obtain ⟨serial, hserial⟩ := asks.exists_serial hlist
      rw [calls_run_of_some asks hlist hserial hvalue]
      split
      · exact List.append_nil _
      · next hne =>
        rw [calls_launch_of_not_casts hlist hserial (fun h => hne (hnil.2 h)) hcasts]
        exact List.append_nil _
  | cast asks runs exit listing hcasts =>
    subst listing
    obtain ⟨found, hvalue, hnil⟩ := exists_found runs exit
    rw [calls_run_of_some asks hcasts.launches hcasts.targets hvalue,
      if_neg fun h => hcasts.ready (hnil.1 h), calls_launch_of_casts hcasts,
      calls_findDevices_of_lists runs exit]

/-- **The calls of a run.** The programs that the work on a request starts are those of the trace,
in its order and with its arguments. -/
theorem traced_iff_calls_run (host : Host) (request : Request)
    (calls : List (String × List String)) :
    Traced Host.isArgument host request calls ↔ (request.run host).calls = calls := by
  refine ⟨calls_run_of_traced, ?_⟩
  rintro rfl
  obtain ⟨calls, h⟩ := exists_traced Host.isArgument host request
  rw [calls_run_of_traced h]
  exact h

/-! ### A serial that is too long -/

/-- A host with nothing but a bridge, which lists what it is told to and answers each query. -/
def bridgeHost (listing : String) : Host where
  workingPlace := []
  home := ⟨"/"⟩
  searchPath := "/"
  node? place :=
    if place = ["adb"] then
      some (.file true (.answering fun args =>
        if args = Bridge.listArgs then ⟨utf8 listing, [], .code 0⟩
        else ⟨utf8 "34\n", [], .code 0⟩))
    else none

lemma find_bridgeHost (listing : String) :
    (bridgeHost listing).find Bridge.defaultPath = .ok ⟨"/adb"⟩ := by
  cbv

lemma runs_bridgeHost (listing : String) :
    (bridgeHost listing).Runs Bridge.defaultPath Bridge.listArgs
      ⟨"adb", ⟨utf8 listing, [], .code 0⟩⟩ :=
  ⟨⟨"/adb"⟩, find_bridgeHost listing, rfl⟩

/-- A listing with one ready device, whose serial has so many characters. -/
def longListing (n : Nat) : String :=
  String.ofList (join ['\n'] [[], List.replicate n 'a' ++ ' ' :: Listing.ready])

lemma entries_longListing {n : Nat} (h : 0 < n) :
    ∃ line, Listing.entries (longListing n) =
      [⟨String.ofList (List.replicate n 'a'), none, line⟩] := by
  have hserial : Listing.IsSerial (String.ofList (List.replicate n 'a')) := by
    refine Listing.isSerial_ofList ?_ ?_
    · simpa using h.ne'
    · intro c hc
      rw [List.eq_of_mem_replicate hc]
      decide
  have hstar : (String.ofList (List.replicate n 'a')).toList.head? ≠ some '*' := by
    rw [String.toList_ofList, List.head?_replicate, if_neg h.ne']
    decide
  have hentries := Listing.entries_readyLineOf hserial hstar
  unfold Listing.readyLineOf at hentries
  rw [String.toList_ofList] at hentries
  exact ⟨_, hentries⟩

/-- A request for a list of the devices. -/
def listRequest : Request := { listDevices := true }

lemma asks_listRequest : listRequest.Asks := ⟨by cbv, .inl rfl⟩

/-- A device whose serial is too long is not queried. -/
lemma calls_run_bridgeHost {n : Nat} (h : Host.longestArgument < n) :
    (listRequest.run (bridgeHost (longListing n))).calls = [("adb", Bridge.listArgs)] := by
  obtain ⟨line, hentries⟩ := entries_longListing (Nat.zero_lt_of_lt h)
  have hruns : (bridgeHost (longListing n)).Runs listRequest.bridge Bridge.listArgs
      ⟨"adb", ⟨utf8 (longListing n), [], .code 0⟩⟩ := runs_bridgeHost (longListing n)
  obtain ⟨found, hvalue, -⟩ := exists_found hruns rfl
  rw [calls_run_of_list asks_listRequest rfl hvalue, calls_findDevices_of_lists hruns rfl,
    decodeUtf8_utf8, hentries]
  have hlong : Host.isArgument (String.ofList (List.replicate n 'a')) = false := by
    rw [Host.isArgument_replicate]
    simpa using h
  simp [listingCalls, hlong]

lemma not_traced_bridgeHost {n : Nat} (h : Host.longestArgument < n) :
    ¬ Traced (fun arg => !arg.toList.contains '\x00') (bridgeHost (longListing n)) listRequest
      (listRequest.run (bridgeHost (longListing n))).calls := by
  have hruns := runs_bridgeHost (longListing n)
  rw [calls_run_bridgeHost h]
  generalize hcalls : [("adb", Bridge.listArgs)] = calls
  intro htraced
  cases htraced with
  | idle => cases hcalls
  | refused asks runs exit =>
    rw [runs.unique hruns] at exit
    exact exit rfl
  | listed asks runs exit listing hcasts =>
    obtain ⟨line, hentries⟩ := entries_longListing (Nat.zero_lt_of_lt h)
    rw [runs.unique hruns, decodeUtf8_utf8, hentries] at listing
    subst listing
    simp [listingCalls] at hcalls
  | cast asks runs exit listing hcasts => exact absurd hcasts.launches (by decide)

/-- The calls are not those of the trace in which all texts without a NUL fit as arguments. -/
theorem not_traced_of_long_serial :
    ¬ Traced (fun arg => !arg.toList.contains '\x00') (bridgeHost (longListing 131072)) listRequest
      (listRequest.run (bridgeHost (longListing 131072))).calls :=
  not_traced_bridgeHost (by decide)

end Screencast.Request
