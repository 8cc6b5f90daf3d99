import Screencast.Proofs.Request.Outcome

/-!
What a cast makes of the listing. At least one device must be listed, but which devices these are
and which levels they report only leads to advice: two hosts on which the casting tool is the same
tell the same of one request, save for the queries and the log records.
-/

namespace Screencast

open Session Text

/-! ### One casting tool on two hosts -/

namespace Host

/-- A tool is the same on two hosts, as far as these arguments go: it is found on neither of them,
or in one place on both, and what is started there answers alike. -/
structure SameTool (host other : Host) (tool : ToolPath) (args : List String) : Prop where
  find : host.find tool = other.find tool
  start : ∀ path, host.find tool = .ok path → host.start path args = other.start path args

lemma passThrough_congr {host other : Host} {path : ToolPath} {args : List String}
    (h : host.start path args = other.start path args) :
    host.passThrough path args = other.passThrough path args := by
  unfold passThrough
  rw [h]

end Host

lemma CastOptions.launch_congr {host other : Host} {tool : ToolPath} {options : CastOptions}
    (h : Host.SameTool host other tool options.toArgs) :
    options.launch host tool = options.launch other tool := by
  unfold launch
  rw [← h.find]
  rcases hfind : host.find tool with error | path
  · rfl
  · dsimp only
    rw [Host.passThrough_congr (h.start path hfind)]

namespace Request

variable {host other : Host} {request : Request} {serial : String}

lemma launch_congr
    (h : Host.SameTool host other request.castTool (request.castOptions serial).toArgs) :
    launch host request serial = launch other request serial := by
  unfold launch
  rw [CastOptions.launch_congr h]

/-! ### Two hosts -/

/-- **The listing is advice.** A cast that is reached on two hosts with the same casting tool has
the same outcome, complaints and calls behind those for the listing, and, unless it tells which
devices are found, the same output. It is launched where the casting tool runs and reports success,
whatever the listing says of the device. -/
theorem listing_is_advice (hhost : Reaches host request serial)
    (hother : Reaches other request serial)
    (htool : Host.SameTool host other request.castTool (request.castOptions serial).toArgs) :
    (request.run host).value = (request.run other).value ∧
    (request.run host).stderr = (request.run other).stderr ∧
    (request.verbose = false → (request.run host).stdout = (request.run other).stdout) ∧
    (∃ casts,
      (∀ cast, host.Runs request.castTool (request.castOptions serial).toArgs cast →
        casts = [(cast.name, (request.castOptions serial).toArgs)]) ∧
      ((∀ cast, ¬ host.Runs request.castTool (request.castOptions serial).toArgs cast) →
        casts = []) ∧
      ∀ world ∈ [host, other], ∀ bridge, world.Runs request.bridge Bridge.listArgs bridge →
        (request.run world).calls =
          listingCalls Host.isArgument bridge.name
            (Listing.entries (decodeUtf8 bridge.response.stdout)) ++ casts) ∧
    ∀ world ∈ [host, other],
      (request.run world).value = .ok .launched ↔
        ∃ cast, host.Runs request.castTool (request.castOptions serial).toArgs cast ∧
          cast.response.exit = .code 0 := by
  obtain ⟨found, hfound, -⟩ := hhost.exists_found
  obtain ⟨found', hfound', -⟩ := hother.exists_found
  have hvalue : (request.run host).value = (request.run other).value := by
    rw [hhost.value_run hfound, hother.value_run hfound', launch_congr htool]
  refine ⟨hvalue, ?_, ?_, ?_, ?_⟩
  · rw [hhost.stderr_run hfound, hother.stderr_run hfound', launch_congr htool]
  · intro hverbose
    rw [hhost.stdout_run hfound, hother.stdout_run hfound', launch_congr htool, hverbose]
    rfl
  · refine ⟨((request.castOptions serial).launch host request.castTool).calls, ?_, ?_, ?_⟩
    · intro cast hcast
      exact CastOptions.calls_launch_of_runs hcast
    · exact CastOptions.calls_launch_of_not_runs
    · intro world hworld bridge hbridge
      rcases List.mem_pair.1 hworld with rfl | rfl
      · exact hhost.calls_run hbridge
      · rw [CastOptions.launch_congr htool]
        exact hother.calls_run hbridge
  · have hlaunched : (request.run host).value = .ok .launched ↔
        ∃ cast, host.Runs request.castTool (request.castOptions serial).toArgs cast ∧
          cast.response.exit = .code 0 := by
      rw [hhost.value_run hfound, Except.ok.injEq, ← CastOptions.value_launch_eq_ok, value_launch]
      rcases ((request.castOptions serial).launch host request.castTool).value with error | ⟨⟩ <;>
        simp
    intro world hworld
    rcases List.mem_pair.1 hworld with rfl | rfl
    · exact hlaunched
    · rw [← hvalue]
      exact hlaunched

/-! ### A device that is absent, and one that is too old -/

/-- A host with a bridge that answers all queries in one way, and with a casting tool. -/
def castHost (listing : String) (level : Response) : Host where
  workingPlace := []
  home := ⟨"/"⟩
  searchPath := "/"
  node? place :=
    if place = ["adb"] then
      some (.file true (.answering fun args =>
        if args = Bridge.listArgs then ⟨utf8 listing, [], .code 0⟩ else level))
    else if place = ["scrcpy"] then
      some (.file true (.answering fun _ => ⟨utf8 "INFO: casting\n", [], .code 0⟩))
    else none

/-- A request for a cast from one device. -/
def castRequest : Request := { serial := some "a" }

lemma find_bridge_castHost (listing : String) (level : Response) :
    (castHost listing level).find Bridge.defaultPath = .ok ⟨"/adb"⟩ := by
  cbv

lemma runs_bridge_castHost (listing : String) (level : Response) :
    (castHost listing level).Runs castRequest.bridge Bridge.listArgs
      ⟨"adb", ⟨utf8 listing, [], .code 0⟩⟩ :=
  ⟨⟨"/adb"⟩, find_bridge_castHost listing level, rfl⟩

lemma find_castTool_castHost (listing : String) (level : Response) :
    (castHost listing level).find castRequest.castTool = .ok ⟨"/scrcpy"⟩ := by
  have hparts : ToolPath.parts ⟨"scrcpy"⟩ = [.name "scrcpy"] := rfl
  have hcandidates : (castHost listing level).candidates ⟨"scrcpy"⟩ = [⟨"/scrcpy"⟩] := by
    unfold Host.candidates
    rw [hparts, if_neg (by decide)]
    cbv
  show (castHost listing level).find ⟨"scrcpy"⟩ = _
  unfold Host.find
  rw [hcandidates, List.find?_cons_of_pos rfl]

/-- The device that is listed need not be the one that is cast from. -/
lemma reaches_castHost {serial : String} (h : Listing.IsSerial serial)
    (hstar : serial.toList.head? ≠ some '*') (level : Response) :
    Reaches (castHost (String.ofList (join ['\n'] [[], Listing.readyLineOf serial])) level)
      castRequest "a" := by
  refine ⟨by cbv, rfl, rfl, _, ⟨_, runs_bridge_castHost _ level, rfl, rfl⟩, ?_⟩
  rw [decodeUtf8_utf8, Listing.entries_readyLineOf h hstar]
  exact List.cons_ne_nil _ _

lemma sameTool_castHost (listing listing' : String) (level level' : Response) :
    Host.SameTool (castHost listing level) (castHost listing' level') castRequest.castTool
      (castRequest.castOptions "a").toArgs where
  find := by rw [find_castTool_castHost, find_castTool_castHost]
  start path hfind := by
    rw [find_castTool_castHost] at hfind
    obtain rfl := Except.ok.inj hfind
    rfl

/-- A host that lists the device, which is too old for audio. -/
def oldHost : Host :=
  castHost (String.ofList (join ['\n'] [[], Listing.readyLineOf "a"])) ⟨utf8 "21\n", [], .code 0⟩

lemma reaches_oldHost : Reaches oldHost castRequest "a" :=
  have ha : Listing.IsSerial (String.ofList ['a']) :=
    Listing.isSerial_singleton (by decide)
  reaches_castHost ha (by decide) _

/-- A host that lists another device and answers no query. -/
def absentHost : Host :=
  castHost (String.ofList (join ['\n'] [[], Listing.readyLineOf "b"]))
    ⟨[], utf8 "error: closed\n", .signal 9⟩

/-- A device that is too old for audio and one that is not listed are cast from alike. -/
theorem listing_is_advice_of_absent :
    Reaches oldHost castRequest "a" ∧ Reaches absentHost castRequest "a" ∧
    Host.SameTool oldHost absentHost castRequest.castTool (castRequest.castOptions "a").toArgs ∧
    (castRequest.run oldHost).value = .ok .launched ∧
    (castRequest.run absentHost).value = .ok .launched := by
  have hb : Listing.IsSerial (String.ofList ['b']) :=
    Listing.isSerial_singleton (by decide)
  have hold : Reaches oldHost castRequest "a" := reaches_oldHost
  have habsent : Reaches absentHost castRequest "a" := reaches_castHost hb (by decide) _
  have htool : Host.SameTool oldHost absentHost castRequest.castTool
      (castRequest.castOptions "a").toArgs := sameTool_castHost _ _ _ _
  obtain ⟨hvalue, -, -, -, hlaunched⟩ := listing_is_advice hold habsent htool
  have hcast : (castRequest.run oldHost).value = .ok .launched :=
    (hlaunched oldHost (List.mem_cons_self ..)).2
      ⟨_, ⟨⟨"/scrcpy"⟩, find_castTool_castHost _ _, rfl⟩, rfl⟩
  exact ⟨hold, habsent, htool, hcast, hvalue ▸ hcast⟩

end Request

end Screencast
