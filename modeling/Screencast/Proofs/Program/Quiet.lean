import Screencast.Proofs.Logging.Line
import Screencast.Proofs.Program.ExitCode
import Screencast.Proofs.Request.Rules
import Screencast.Proofs.Request.Severity
import Screencast.Proofs.Text.Numeral

/-!
What is heard of a run that goes well. The log is for debugging but for a warning about the device,
and with nothing asked for it shows no more than that warning. What it shows is up to a filter, and
nothing else about a run is.
-/

namespace Screencast

open CommandLine Logging Request Session Text

/-! ### What a filter shows -/

namespace Logging

/-- The filter that shows all records up to a level. -/
def Filter.upTo (level : LogLevel) : Filter := ⟨[⟨none, level.rank⟩], none⟩

/-- Without a filter in the environment, records up to information are shown. -/
lemma Filter.read_info : Filter.read "info" = (upTo .info, []) := by decide +kernel

lemma Filter.shows_upTo (level : LogLevel) (record : LogRecord) :
    (upTo level).shows record = decide (record.level.rank ≤ level.rank) := by
  simp [shows, upTo, Rule.fits]

end Logging

/-! ### What the casting tool complains of -/

namespace Request

variable {host : Host} {request : Request}

lemma stderr_launch_of_runs {serial : String} {cast : Started}
    (h : host.Runs request.castTool (request.castOptions serial).toArgs cast) :
    (launch host request serial).stderr = cast.response.stderr := by
  unfold launch
  rw [stderr_bind, CastOptions.stderr_launch_of_runs h]
  rcases ((request.castOptions serial).launch host request.castTool).value with error | ⟨⟩ <;>
    exact List.append_nil _

/-- A launch that succeeds is logged for debugging only. -/
lemma debug_launch {serial : String} {cast : Started}
    (h : host.Runs request.castTool (request.castOptions serial).toArgs cast)
    (hexit : cast.response.exit = .code 0) :
    ∀ record ∈ (launch host request serial).records, record.level = .debug := by
  rw [records_launch, CastOptions.value_launch_eq_ok.2 ⟨cast, h, hexit⟩]
  dsimp only
  rw [List.append_nil]
  exact (CastOptions.logs_launch (fun _ => rfl) .. :
    Session.Logs (fun record => record.level = .debug) _).of_mem

/-- No record is less grave than those for debugging. -/
lemma level_ne_trace {record : LogRecord} (h : record ∈ (request.run host).records) :
    record.level ≠ .trace := by
  obtain ⟨listing, advice, launch, failure, hstaged⟩ := exists_staged host request
  have hdebug : ∀ record ∈ listing ++ launch, record.level ≠ .trace := by
    intro record hmem
    rw [hstaged.debug record hmem]
    decide
  rw [hstaged.records, List.mem_append, List.mem_append, List.mem_append] at h
  rcases h with hlisting | hadvice | hlaunch | hfailure
  · exact hdebug record (List.mem_append_left _ hlisting)
  · rw [(hstaged.warn record hadvice).1]
    decide
  · exact hdebug record (List.mem_append_right _ hlaunch)
  · by_cases hfailed : (request.run host).value = .ok .failed
    · obtain ⟨message, -, rfl⟩ := hstaged.error hfailed
      obtain rfl := List.mem_singleton.1 hfailure
      exact nofun
    · rw [hstaged.noError hfailed] at hfailure
      cases hfailure

/-! ### Advice -/

lemma newline_notMem_decimal (n : Nat) : '\n' ∉ (decimal n).toList :=
  fun hmem => absurd (isDigit_of_mem_decimal hmem) (by decide)

lemma newline_notMem_advise {devices : List Device} {serial : String} {audio : Bool}
    (h : '\n' ∉ serial.toList) :
    ∀ record ∈ (advise devices serial audio).records, '\n' ∉ record.message.toList := by
  unfold advise
  split
  · intro record hrecord
    obtain rfl := List.mem_singleton.1 hrecord
    simp only [String.toList_append, List.mem_append, not_or]
    exact ⟨⟨by decide, h⟩, by decide⟩
  · next device _ =>
    have hlevel : '\n' ∉
        ((device.level.map fun level => decimal level.toNat).getD "unknown").toList := by
      cases device.level with
      | none => decide
      | some level => exact newline_notMem_decimal level.toNat
    split
    · intro record hrecord
      obtain rfl := List.mem_singleton.1 hrecord
      simp only [String.toList_append, List.mem_append, not_or]
      exact ⟨⟨⟨⟨⟨by decide, newline_notMem_decimal _⟩, by decide⟩, h⟩, by decide⟩, hlevel⟩
    · exact nofun

end Request

/-! ### What is heard of a session -/

namespace Program

variable {α β : Type} {time : Option String}

/-- What is heard of an event where all records are shown but those for debugging. -/
def heard (time : Option String) : Event → List UInt8
  | .complaint bytes => bytes
  | .log record => if record.level = .debug then [] else utf8 (line time record)
  | _ => []

lemma mem_records {m : Session α} {record : LogRecord} (h : .log record ∈ m.events) :
    record ∈ m.records := List.mem_filterMap.2 ⟨_, h, rfl⟩

/-- Of a session that logs for debugging only, its complaints are heard. -/
lemma flatMap_heard_of_debug {m : Session α} (h : ∀ record ∈ m.records, record.level = .debug) :
    m.events.flatMap (heard time) = m.stderr := by
  refine List.flatMap_congr fun event hevent => ?_
  cases event with
  | log record => exact if_pos (h record (mem_records hevent))
  | output bytes | complaint bytes | call name args => rfl

/-- Where no record is less grave than those for debugging, the filter for records up to
information shows what is heard. -/
lemma flatMap_shown_upTo_info {m : Session α} (h : ∀ record ∈ m.records, record.level ≠ .trace) :
    m.events.flatMap (shown (Filter.upTo .info) time) = m.events.flatMap (heard time) := by
  refine List.flatMap_congr fun event hevent => ?_
  cases event with
  | log record =>
    have htrace := h record (mem_records hevent)
    have hshows : (Filter.upTo .info).shows record = true ↔ ¬ record.level = .debug := by
      rw [Filter.shows_upTo]
      cases hlevel : record.level with
      | trace => exact absurd hlevel htrace
      | error | warn | info | debug => decide
    by_cases hdebug : record.level = .debug
    · exact (if_neg fun hshown => hshows.1 hshown hdebug).trans (if_pos hdebug).symm
    · exact (if_pos (hshows.2 hdebug)).trans (if_neg hdebug).symm
  | output bytes | complaint bytes | call name args => rfl

/-- What is heard of advice are its lines. -/
lemma flatMap_heard_advise (devices : List Device) (serial : String) (audio : Bool) :
    (advise devices serial audio).events.flatMap (heard time) =
      (advise devices serial audio).warnings.flatMap fun record => utf8 (line time record) := by
  have hevents : (advise devices serial audio).events =
      (advise devices serial audio).records.map .log := by
    unfold advise
    split
    · rfl
    · split <;> rfl
  rw [hevents, warnings_advise, List.flatMap_map]
  refine List.flatMap_congr fun record hrecord => if_neg ?_
  rw [warn_of_mem_advise hrecord]
  exact nofun

/-! ### What is heard of a run -/

variable {host : Host} {env : Environment} {words : List String} {request : Request}

lemma filterOf_of_unset (h : env.logFilter = none) :
    filterOf env false = (Filter.upTo .info, []) := by
  unfold filterOf
  rw [h]
  exact Filter.read_info

lemma stderr_run_of_unset (hparse : parse env words = .ok request)
    (hquiet : request.verbose = false) (hunset : env.logFilter = none) :
    (run host env time words).stderr =
      (request.run host).events.flatMap (heard time) ++
        utf8 (closing env (request.run host).value) := by
  rw [run_of_parse hparse]
  unfold performed
  rw [hquiet, filterOf_of_unset hunset]
  dsimp only
  rw [flatMap_shown_upTo_info fun _ => level_ne_trace, List.flatMap_nil, List.nil_append]

/-- A cast that succeeds is heard of by its advice and by what the casting tool complains of. -/
lemma flatMap_heard_of_launched {serial : String} {cast : Started}
    (hreaches : Reaches host request serial)
    (hruns : host.Runs request.castTool (request.castOptions serial).toArgs cast)
    (hexit : cast.response.exit = .code 0) :
    (request.run host).events.flatMap (heard time) =
      ((request.run host).warnings.flatMap fun record => utf8 (line time record)) ++
        cast.response.stderr := by
  obtain ⟨found, hvalue, -⟩ := hreaches.exists_found
  have hannounce : ∀ record ∈ (announce request.verbose found).records, record.level = .debug := by
    rw [records_announce]
    exact List.forall_mem_nil _
  rw [hreaches.warnings_run hvalue, run_of_ok hreaches.check]
  dsimp only
  rw [hreaches.perform_eq hvalue]
  simp only [events_bind, List.flatMap_append]
  rw [flatMap_heard_of_debug (debug_findDevices host request.bridge),
    (Bridge.quiet_findDevices ..).stderr, flatMap_heard_of_debug hannounce, stderr_announce,
    flatMap_heard_advise, flatMap_heard_of_debug (debug_launch hruns hexit),
    stderr_launch_of_runs hruns]
  rfl

/-- A request whose work ends with code zero is for a list, or its cast was launched. -/
lemma ends_of_exitCode_eq_zero (hparse : parse env words = .ok request)
    (hcode : (run host env time words).exitCode = 0) :
    Ends host request .listed ∨ Ends host request .launched := by
  rcases hcheck : request.check with error | ⟨⟩
  · rw [run_of_parse hparse] at hcode
    change exitCode (request.run host).value = 0 at hcode
    rw [run_of_error hcheck] at hcode
    cases hcode
  · obtain ⟨outcome, hends⟩ := exists_ends host hcheck
    rw [exitCode_run_of_ends hparse hends] at hcode
    cases outcome with
    | listed => exact .inl hends
    | launched => exact .inr hends
    | noDevices | missingSerial | failed => cases hcode

/-- A run is discreet if no record for debugging shows, nothing is heard of a list that is printed,
and of a cast that succeeds, a warning on one line is heard at most, and then what the casting tool
complains of. -/
structure Discreet (host : Host) (env : Environment) (time : Option String) (words : List String)
    (request : Request) : Prop where
  debug : (run host env time words).stderr =
    (request.run host).events.flatMap (heard time) ++ utf8 (closing env (request.run host).value)
  listed : (run host env time words).exitCode = 0 → request.listDevices = true →
    (run host env time words).stderr = []
  launched : (run host env time words).exitCode = 0 → request.listDevices = false →
    ∃ (serial : String) (cast : Started) (warnings : List LogRecord),
      Reaches host request serial ∧
      host.Runs request.castTool (request.castOptions serial).toArgs cast ∧
      (run host env time words).stderr =
        (warnings.flatMap fun record => utf8 (line time record)) ++ cast.response.stderr ∧
      warnings.length ≤ 1 ∧
      ∀ record ∈ warnings, record.level = .warn ∧
        ((∀ stamp, time = some stamp → '\n' ∉ stamp.toList) →
          '\n' ∉ (line time record).toList.dropLast)

lemma discreet_of_unset (hparse : parse env words = .ok request) (hquiet : request.verbose = false)
    (hunset : env.logFilter = none) : Discreet host env time words request where
  debug := stderr_run_of_unset hparse hquiet hunset
  listed := by
    intro hcode hlist
    rcases ends_of_exitCode_eq_zero hparse hcode with hends | hends
    · cases hends with
      | listed check lists ready =>
        obtain ⟨found, hvalue, -⟩ := Bridge.lists_iff.1 ready
        have hdebug : ∀ record ∈ (request.run host).records, record.level = .debug := by
          rw [records_run_of_list check lists hvalue]
          exact debug_findDevices host request.bridge
        obtain ⟨hlisted, hstderr⟩ := run_of_list check lists hvalue
        rw [stderr_run_of_unset hparse hquiet hunset, flatMap_heard_of_debug hdebug, hstderr,
          hlisted]
        rfl
    · cases hends with
      | launched reaches runs exit =>
        rw [reaches.launches] at hlist
        cases hlist
  launched := by
    intro hcode hlist
    rcases ends_of_exitCode_eq_zero hparse hcode with hends | hends
    · cases hends with
      | listed check lists ready =>
        rw [hlist] at lists
        cases lists
    · have hvalue := value_run_eq_ok.2 hends
      cases hends with
      | @launched serial cast reaches runs exit =>
        obtain ⟨found, hfound, -⟩ := reaches.exists_found
        refine ⟨serial, cast, (request.run host).warnings, reaches, runs, ?_, ?_, ?_⟩
        · rw [stderr_run_of_unset hparse hquiet hunset, flatMap_heard_of_launched reaches runs exit,
            hvalue]
          exact List.append_nil _
        · rw [reaches.warnings_run hfound, warnings_advise]
          rcases records_advise found serial (!request.noAudio) with hnil | ⟨message, hone⟩
          · rw [hnil]
            exact Nat.zero_le 1
          · rw [hone]
            exact Nat.le_refl 1
        · intro record hrecord
          rw [reaches.warnings_run hfound, warnings_advise] at hrecord
          have hserial : '\n' ∉ serial.toList := by
            intro hmem
            have hkeeps := check_eq_ok_iff_keeps.1 reaches.check
            exact absurd ((hkeeps.serial serial reaches.targets).blankless _ hmem) (by decide)
          refine ⟨warn_of_mem_advise hrecord, fun htime => ?_⟩
          exact newline_notMem_line htime (newline_notMem_advise hserial record hrecord)

/-! ### What the log does not touch -/

lemma parse_logFilter (env : Environment) (filter : Option String) (words : List String) :
    parse { env with logFilter := filter } words = parse env words := rfl

lemma stopped_logFilter (env : Environment) (filter : Option String) (stop : Stop) :
    stopped { env with logFilter := filter } stop = stopped env stop := by
  rcases stop with (_ | _) | _ | error <;> rfl

/-- The log is all that the filter and the time are for. -/
lemma run_logFilter (host : Host) (env : Environment) (filter : Option String)
    (time time' : Option String) (words : List String) :
    (run host { env with logFilter := filter } time words).exitCode =
        (run host env time' words).exitCode ∧
      (run host { env with logFilter := filter } time words).stdout =
        (run host env time' words).stdout ∧
      (run host { env with logFilter := filter } time words).calls =
        (run host env time' words).calls := by
  rcases hparse : parse env words with stop | request
  · have hparse' := (parse_logFilter env filter words).trans hparse
    rw [run_of_stop hparse, run_of_stop hparse', stopped_logFilter]
    exact ⟨rfl, rfl, rfl⟩
  · have hparse' := (parse_logFilter env filter words).trans hparse
    rw [run_of_parse hparse, run_of_parse hparse']
    exact ⟨rfl, rfl, rfl⟩

/-- **A run that goes well is quiet.** Words without the flag for verbose output are worked on
discreetly where the environment says nothing of the log. Whatever it says of the log, the exit
code, the standard output and the calls are the same. -/
theorem good_runs_are_quiet (host : Host) (env : Environment) (time : Option String)
    (words : List String) :
    (∀ request, parse env words = .ok request → request.verbose = false → env.logFilter = none →
      Discreet host env time words request) ∧
    ∀ (filter filter' time' : Option String),
      (run host { env with logFilter := filter } time words).exitCode =
          (run host { env with logFilter := filter' } time' words).exitCode ∧
        (run host { env with logFilter := filter } time words).stdout =
          (run host { env with logFilter := filter' } time' words).stdout ∧
        (run host { env with logFilter := filter } time words).calls =
          (run host { env with logFilter := filter' } time' words).calls := by
  refine ⟨fun request => discreet_of_unset, ?_⟩
  intro filter filter' time'
  exact run_logFilter host { env with logFilter := filter' } filter time time' words

/-- On a host whose bridge answers no query and complains of it, the cast is launched discreetly. -/
theorem good_runs_are_quiet_absent :
    parse {} ["-s", "a"] = .ok castRequest ∧
    (run absentHost {} none ["-s", "a"]).exitCode = 0 ∧
    Discreet absentHost {} none ["-s", "a"] castRequest := by
  have hparse : parse {} ["-s", "a"] = .ok castRequest := by decide +kernel
  have hb : Listing.IsSerial (String.ofList ['b']) := Listing.isSerial_singleton (by decide)
  have hreaches : Reaches absentHost castRequest "a" := reaches_castHost hb (by decide) _
  have hruns : absentHost.Runs castRequest.castTool (castRequest.castOptions "a").toArgs
      ⟨"scrcpy", ⟨utf8 "INFO: casting\n", [], .code 0⟩⟩ :=
    ⟨⟨"/scrcpy"⟩, find_castTool_castHost _ _, rfl⟩
  refine ⟨hparse, ?_, (good_runs_are_quiet absentHost {} none ["-s", "a"]).1 castRequest hparse rfl
    rfl⟩
  exact exitCode_run_of_ends hparse (.launched hreaches hruns rfl)

end Program

end Screencast
