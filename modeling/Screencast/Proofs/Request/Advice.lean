import Screencast.Proofs.Request.Severity

/-!
What a cast is warned about. The device is looked up by its serial on the listing, and what is said
of a device that is found there goes by the query for its level. A serial may stand on several lines
of a listing; each of these has the same query, so the warning is the same whichever of them is met
first.
-/

namespace Screencast.Request

open Session Text

/-! ### The warnings -/

/-- The warnings on a device, given the listing and what a query for its level finds. -/
inductive Advised (entries : List Listing.Entry) (query : Except QueryError ApiLevel)
    (serial : String) (audio : Bool) : List LogRecord → Prop
  | notListed (h : serial ∉ entries.map (·.serial)) :
    Advised entries query serial audio
      [⟨.warn, .request, "Device " ++ serial ++ " is not in the list of ready devices"⟩]
  | tooOld {level : ApiLevel} (listed : serial ∈ entries.map (·.serial)) (wanted : audio = true)
    (known : query = .ok level) (old : level < 30) :
    Advised entries query serial audio
      [⟨.warn, .request, "Audio forwarding needs API level 30 or newer; " ++ serial ++
        " reports " ++ decimal level.toNat⟩]
  | unknown {error : QueryError} (listed : serial ∈ entries.map (·.serial)) (wanted : audio = true)
    (failed : query = .error error) :
    Advised entries query serial audio
      [⟨.warn, .request, "Audio forwarding needs API level 30 or newer; " ++ serial ++
        " reports unknown"⟩]
  /-- The device is listed, and its audio is not wanted or can be forwarded. -/
  | silent (listed : serial ∈ entries.map (·.serial))
    (fit : audio = true → ∃ level, query = .ok level ∧ 30 ≤ level) :
    Advised entries query serial audio []

variable {host : Host} {request : Request} {serial : String} {audio : Bool}
  {entries : List Listing.Entry} {query : Except QueryError ApiLevel} {warnings : List LogRecord}

/-- No level is both too old and late enough. -/
lemma not_fit_of_old {level : ApiLevel} (known : query = .ok level) (old : level < 30) :
    ¬ ∃ level, query = .ok level ∧ 30 ≤ level := by
  rintro ⟨level', known', late⟩
  obtain rfl : level = level' := Except.ok.inj (known.symm.trans known')
  exact absurd old (UInt32.not_lt.2 late)

lemma not_fit_of_error {error : QueryError} (failed : query = .error error) :
    ¬ ∃ level, query = .ok level ∧ 30 ≤ level := by
  rintro ⟨level, known, -⟩
  rw [failed] at known
  cases known

/-- There is a warning on a device that is not listed, and on one that is listed and whose audio is
wanted but not known to be possible. -/
lemma Advised.length_eq_one_iff (h : Advised entries query serial audio warnings) :
    warnings.length = 1 ↔ serial ∉ entries.map (·.serial) ∨
      serial ∈ entries.map (·.serial) ∧ audio = true ∧
        ¬ ∃ level, query = .ok level ∧ 30 ≤ level := by
  cases h with
  | notListed h => exact iff_of_true rfl (.inl h)
  | tooOld listed wanted known old =>
    exact iff_of_true rfl (.inr ⟨listed, wanted, not_fit_of_old known old⟩)
  | unknown listed wanted failed =>
    exact iff_of_true rfl (.inr ⟨listed, wanted, not_fit_of_error failed⟩)
  | silent listed fit =>
    refine iff_of_false nofun ?_
    rintro (hnot | ⟨-, wanted, hunfit⟩)
    · exact hnot listed
    · exact hunfit (fit wanted)

lemma Advised.eq_nil (h : Advised entries query serial audio warnings)
    (hlength : warnings.length ≠ 1) : warnings = [] := by
  cases h with
  | notListed | tooOld | unknown => exact absurd rfl hlength
  | silent => rfl

/-- Listing and query leave nothing open. -/
lemma Advised.unique {warnings' : List LogRecord} (h : Advised entries query serial audio warnings)
    (h' : Advised entries query serial audio warnings') : warnings = warnings' := by
  cases h with
  | notListed hnot =>
    cases h' with
    | notListed => rfl
    | tooOld listed | unknown listed | silent listed => exact absurd listed hnot
  | tooOld listed wanted known old =>
    cases h' with
    | notListed hnot => exact absurd listed hnot
    | tooOld _ _ known' =>
      obtain rfl := Except.ok.inj (known.symm.trans known')
      rfl
    | unknown _ _ failed => cases known.symm.trans failed
    | silent _ fit => exact absurd (fit wanted) (not_fit_of_old known old)
  | unknown listed wanted failed =>
    cases h' with
    | notListed hnot => exact absurd listed hnot
    | tooOld _ _ known => cases known.symm.trans failed
    | unknown => rfl
    | silent _ fit => exact absurd (fit wanted) (not_fit_of_error failed)
  | silent listed fit =>
    cases h' with
    | notListed hnot => exact absurd listed hnot
    | tooOld _ wanted known old => exact absurd (fit wanted) (not_fit_of_old known old)
    | unknown _ wanted failed => exact absurd (fit wanted) (not_fit_of_error failed)
    | silent => rfl

/-- Of a listing, only whether the device is on it matters. -/
lemma Advised.of_listed_iff {entries' : List Listing.Entry}
    (hlisted : serial ∈ entries.map (·.serial) ↔ serial ∈ entries'.map (·.serial))
    (h : Advised entries query serial audio warnings) :
    Advised entries' query serial audio warnings := by
  cases h with
  | notListed h => exact .notListed fun hmem => h (hlisted.2 hmem)
  | tooOld listed wanted known old => exact .tooOld (hlisted.1 listed) wanted known old
  | unknown listed wanted failed => exact .unknown (hlisted.1 listed) wanted failed
  | silent listed fit => exact .silent (hlisted.1 listed) fit

/-! ### The search on the listing -/

variable {bridge : Bridge}

/-- A device is searched for by the serial of its entry. -/
lemma find?_identify (host : Host) (bridge : Bridge) (entries : List Listing.Entry)
    (serial : String) :
    ((entries.map fun entry => (Bridge.identify host bridge entry).value).find?
        (·.serial = serial)) =
      (entries.find? (·.serial = serial)).map fun entry =>
        (Bridge.identify host bridge entry).value := by
  have hserial : ∀ entry, (Bridge.identify host bridge entry).value.serial = entry.serial :=
    fun entry => (Bridge.describes_identify host bridge entry).serial
  rw [List.find?_map]
  congr 2
  funext entry
  rw [Function.comp_apply, hserial]

/-- Whichever entry with the serial is met first, the device has the level of its one query. -/
lemma find?_identify_of_mem (h : serial ∈ entries.map (·.serial)) :
    ∃ entry, ((entries.map fun entry => (Bridge.identify host bridge entry).value).find?
        (·.serial = serial)) =
      some (Device.ofEntry entry (Bridge.queryLevel host bridge serial).value.toOption) := by
  rw [find?_identify]
  rcases hfind : entries.find? (·.serial = serial) with _ | entry
  · obtain ⟨entry, hentry, hserial⟩ := List.mem_map.1 h
    exact absurd (decide_eq_true hserial) (List.find?_eq_none.1 hfind entry hentry)
  · -- of this entry no more is known than its serial, and the query needs no more
    have hserial : entry.serial = serial := by simpa using List.find?_some hfind
    refine ⟨entry, ?_⟩
    rw [hfind, Option.map_some, Bridge.value_identify, hserial]

lemma find?_identify_of_notMem (h : serial ∉ entries.map (·.serial)) :
    ((entries.map fun entry => (Bridge.identify host bridge entry).value).find?
        (·.serial = serial)) = none := by
  rw [find?_identify, Option.map_eq_none_iff, List.find?_eq_none]
  intro entry hentry hserial
  exact h (List.mem_map.2 ⟨entry, hentry, of_decide_eq_true hserial⟩)

/-- Audio can be forwarded where the query finds a level that is late enough. -/
lemma allowsAudio_toOption :
    ApiLevel.allowsAudio query.toOption = true ↔ ∃ level, query = .ok level ∧ 30 ≤ level := by
  rcases query with error | level
  · simp [Except.toOption, ApiLevel.allowsAudio]
  · constructor
    · intro hallows
      exact ⟨level, rfl, of_decide_eq_true hallows⟩
    · rintro ⟨level', known, late⟩
      obtain rfl : level = level' := Except.ok.inj known
      exact decide_eq_true late

section Found

variable {devices : List Device} {entry : Listing.Entry} {level : Option ApiLevel}
  (h : devices.find? (·.serial = serial) = some (Device.ofEntry entry level))

include h

lemma records_advise_of_fit (hfit : audio = true → ApiLevel.allowsAudio level = true) :
    (advise devices serial audio).records = [] := by
  have hcondition : (audio && !(Device.ofEntry entry level).hasAudio) = false := by
    cases audio with
    | false => rfl
    | true => exact (Bool.true_and _).trans (congrArg (! ·) (hfit rfl))
  unfold advise
  rw [h]
  dsimp only
  rw [hcondition]
  rfl

/-- What is said of a device names its level, where that is known. -/
lemma records_advise_of_not_fit (hnot : ApiLevel.allowsAudio level ≠ true) :
    (advise devices serial true).records =
      [⟨.warn, .request, "Audio forwarding needs API level 30 or newer; " ++ serial ++
        " reports " ++ ((level.map fun level => decimal level.toNat).getD "unknown")⟩] := by
  have hfirst : decimal ApiLevel.firstWithAudio.toNat = "30" := by decide
  have hcondition : (true && !(Device.ofEntry entry level).hasAudio) = true :=
    (Bool.true_and _).trans (congrArg (! ·) (Bool.eq_false_iff.2 hnot))
  unfold advise
  rw [h]
  dsimp only
  rw [hcondition, hfirst]
  rfl

end Found

lemma advised_advise (host : Host) (bridge : Bridge) (entries : List Listing.Entry)
    (serial : String) (audio : Bool) :
    Advised entries (Bridge.queryLevel host bridge serial).value serial audio
      (advise (entries.map fun entry => (Bridge.identify host bridge entry).value) serial
        audio).records := by
  by_cases hlisted : serial ∈ entries.map (·.serial)
  · obtain ⟨entry, hfind⟩ := find?_identify_of_mem hlisted
    by_cases hfit : audio = true →
        ∃ level, (Bridge.queryLevel host bridge serial).value = .ok level ∧ 30 ≤ level
    · rw [records_advise_of_fit hfind fun wanted => allowsAudio_toOption.2 (hfit wanted)]
      exact .silent hlisted hfit
    · obtain ⟨wanted, hunfit⟩ := Classical.not_imp.1 hfit
      subst wanted
      rw [records_advise_of_not_fit hfind fun hallows => hunfit (allowsAudio_toOption.1 hallows)]
      rcases hquery : (Bridge.queryLevel host bridge serial).value with error | level
      · have hunknown := Advised.unknown hlisted rfl hquery
        rw [hquery, String.append_assoc] at hunknown
        rw [String.append_assoc]
        exact hunknown
      · have hold : level < 30 := UInt32.not_le.1 fun hlate => hunfit ⟨level, hquery, hlate⟩
        exact .tooOld hlisted rfl rfl hold
  · unfold advise
    rw [find?_identify_of_notMem hlisted]
    exact .notListed hlisted

/-! ### The warnings of a run -/

lemma Reaches.advised_run (h : Reaches host request serial) {path : ToolPath}
    (hfind : host.find request.bridge = .ok path)
    (hlists : Bridge.Lists host request.bridge entries) :
    Advised entries (Bridge.queryLevel host ⟨path⟩ serial).value serial (!request.noAudio)
      (request.run host).warnings := by
  obtain ⟨started, ⟨path', hfind', hstart⟩, hexit, hentries⟩ := hlists
  obtain rfl : path = path' := Except.ok.inj (hfind.symm.trans hfind')
  have hvalue : (Bridge.findDevices host request.bridge).value =
      .ok (entries.map fun entry => (Bridge.identify host ⟨path⟩ entry).value) := by
    rw [Bridge.findDevices_of_ok hfind, value_bind,
      Bridge.value_devices_of_answers ⟨started, hstart, hexit, rfl⟩, hentries]
  rw [h.warnings_run hvalue, warnings_advise]
  exact advised_advise host ⟨path⟩ entries serial (!request.noAudio)

/-- **When a cast is warned about.** A cast that is reached has at most one warning. It has one
where the device is not listed, and says so, and where the device is listed, audio is wanted and a
query for the level of the device finds none from 30 on; that warning names the level, or says that
it is unknown. On how many lines of a listing the serial stands, where, and among which others,
makes no difference: wherever the device is listed or not alike and its level is the same, so are
the warnings. -/
theorem warnings_go_by_listing_and_level (h : Reaches host request serial) {path : ToolPath}
    (hfind : host.find request.bridge = .ok path)
    (hlists : Bridge.Lists host request.bridge entries) :
    (∀ warnings, (request.run host).warnings = warnings ↔
      Advised entries (Bridge.queryLevel host ⟨path⟩ serial).value serial (!request.noAudio)
        warnings) ∧
    ((request.run host).warnings.length = 1 ↔ serial ∉ entries.map (·.serial) ∨
      serial ∈ entries.map (·.serial) ∧ request.noAudio = false ∧
        ¬ ∃ level, (Bridge.queryLevel host ⟨path⟩ serial).value = .ok level ∧ 30 ≤ level) ∧
    ((request.run host).warnings.length ≠ 1 → (request.run host).warnings = []) ∧
    ∀ other path' entries', Reaches other request serial →
      other.find request.bridge = .ok path' → Bridge.Lists other request.bridge entries' →
      (serial ∈ entries.map (·.serial) ↔ serial ∈ entries'.map (·.serial)) →
      (Bridge.queryLevel host ⟨path⟩ serial).value =
        (Bridge.queryLevel other ⟨path'⟩ serial).value →
      (request.run host).warnings = (request.run other).warnings := by
  have hadvised := h.advised_run hfind hlists
  refine ⟨fun warnings => ⟨?_, hadvised.unique⟩, ?_, hadvised.eq_nil, ?_⟩
  · rintro rfl
    exact hadvised
  · rw [hadvised.length_eq_one_iff, Bool.not_eq_true']
  · intro other path' entries' hother hfind' hlists' hlisted hquery
    have hadvised' := hother.advised_run hfind' hlists'
    rw [← hquery] at hadvised'
    exact (hadvised.of_listed_iff hlisted).unique hadvised'

/-- The one device of this host reports a level that is too old. -/
theorem warnings_go_by_listing_and_level_old :
    Reaches oldHost castRequest "a" ∧ oldHost.find castRequest.bridge = .ok ⟨"/adb"⟩ ∧
    ∃ entries, Bridge.Lists oldHost castRequest.bridge entries ∧
      (castRequest.run oldHost).warnings =
        [⟨.warn, .request, "Audio forwarding needs API level 30 or newer; a reports 21"⟩] := by
  have ha : Listing.IsSerial (String.ofList ['a']) := Listing.isSerial_singleton (by decide)
  have hentries := Listing.entries_readyLineOf ha (by decide)
  have hfind : oldHost.find castRequest.bridge = .ok ⟨"/adb"⟩ := find_bridge_castHost _ _
  have hlists : Bridge.Lists oldHost castRequest.bridge _ :=
    ⟨_, runs_bridge_castHost _ _, rfl,
      (congrArg Listing.entries (decodeUtf8_utf8 _)).trans hentries⟩
  have hanswers : oldHost.Answers ⟨"/adb"⟩ (Bridge.queryArgs "a") "21\n" :=
    ⟨⟨"adb", ⟨utf8 "21\n", [], .code 0⟩⟩, rfl, rfl, decodeUtf8_utf8 _⟩
  have hquery : (Bridge.queryLevel oldHost ⟨⟨"/adb"⟩⟩ "a").value = .ok 21 :=
    Bridge.value_queryLevel_eq_ok.2 ⟨_, hanswers, by cbv⟩
  have hlisted := List.mem_singleton.2 (rfl : "a" = "a")
  refine ⟨reaches_oldHost, hfind, _, hlists, ?_⟩
  exact ((warnings_go_by_listing_and_level reaches_oldHost hfind hlists).1 _).2
    (.tooOld hlisted rfl hquery (by decide))

end Screencast.Request
