import Screencast.Program
import Screencast.Proofs.CommandLine.Scan
import Screencast.Proofs.Request.Advisory

/-!
The words behind a double dash are not looked at: whatever they are, the words before them are read
as they would be without them, and the casting tool gets them behind its other arguments.
-/

namespace Screencast

namespace CommandLine

/-! ### Reading the extra arguments -/

/-- The extra arguments of a request do not matter to the rest of it. -/
lemma Draft.complete_extra {draft : Draft} {env : Environment} {extra : List String}
    {request : Request} (h : draft.complete env extra = .ok request) :
    request.extra = extra ∧
      ∀ others, draft.complete env others = .ok { request with extra := others } := by
  obtain ⟨bridge, hbridge, h⟩ := bind_eq_ok_iff.1 h
  obtain ⟨castTool, hcastTool, h⟩ := bind_eq_ok_iff.1 h
  obtain rfl := Except.ok.inj h
  refine ⟨rfl, fun others => ?_⟩
  exact bind_eq_ok_iff.2 ⟨bridge, hbridge, bind_eq_ok_iff.2 ⟨castTool, hcastTool, rfl⟩⟩

/-- Words that state a request by themselves state it with any extra arguments. -/
lemma parse_append_dashes {env : Environment} {words : List String} {request : Request}
    (hdashes : "--" ∉ words) (h : parse env words = .ok request) :
    request.extra = [] ∧
      ∀ extra, parse env (words ++ "--" :: extra) = .ok { request with extra := extra } := by
  obtain ⟨scan, rest, draft, hrun, hsettle, hcomplete⟩ := parse_eq_ok_iff.1 h
  obtain ⟨rfl, hextra⟩ := Scan.run_append_dashes hdashes hrun
  obtain ⟨hnil, hothers⟩ := Draft.complete_extra hcomplete
  exact ⟨hnil, fun extra => parse_eq_ok_iff.2 ⟨scan, extra, draft, hextra extra, hsettle,
    hothers extra⟩⟩

end CommandLine

/-! ### Passing the extra arguments on -/

namespace Request

variable {host : Host} {request : Request} {serial : String}

/-- The casting tool gets the extra arguments behind all others. -/
lemma toArgs_extra (h : request.extra = []) (extra : List String) (serial : String) :
    (castOptions { request with extra := extra } serial).toArgs =
      (request.castOptions serial).toArgs ++ extra := by
  unfold CastOptions.toArgs castOptions
  rw [h, List.append_nil]

lemma Reaches.of_extra {extra : List String}
    (h : Reaches host { request with extra := extra } serial) : Reaches host request serial :=
  ⟨h.check, h.launches, h.targets, h.ready⟩

end Request

namespace Program

open CommandLine Request Text

lemma calls_run_of_parse {env : Environment} {words : List String} {request : Request}
    (h : parse env words = .ok request) (host : Host) (time : Option String) :
    (run host env time words).calls = (request.run host).calls := by
  unfold run
  rw [h]
  rfl

/-- **The words behind a double dash are opaque.** Words that state a request without a double dash
state no extra arguments. Behind a double dash any words can follow them, and these are the extra
arguments of what is otherwise the same request. Where the cast is then reached and its tool runs,
the calls are those of the run without them, but that the last one has them behind its arguments. -/
theorem extra_arguments_are_passed_on {env : Environment} {words : List String} {request : Request}
    (hdashes : "--" ∉ words) (hparse : parse env words = .ok request) :
    request.extra = [] ∧
    (∀ extra, parse env (words ++ "--" :: extra) = .ok { request with extra := extra }) ∧
    ∀ extra host time serial cast, Reaches host { request with extra := extra } serial →
      host.Runs request.castTool (castOptions { request with extra := extra } serial).toArgs cast →
      ∃ listing,
        (run host env time words).calls =
          listing ++ [(cast.name, (request.castOptions serial).toArgs)] ∧
        (run host env time (words ++ "--" :: extra)).calls =
          listing ++ [(cast.name, (request.castOptions serial).toArgs ++ extra)] := by
  obtain ⟨hnil, hextra⟩ := parse_append_dashes hdashes hparse
  refine ⟨hnil, hextra, ?_⟩
  intro extra host time serial cast hreaches hruns
  have hlaunch := CastOptions.calls_launch_of_runs hruns
  rw [toArgs_extra hnil] at hruns hlaunch
  obtain ⟨response, hbare⟩ := hruns.of_append
  obtain ⟨entries, ⟨bridge, hbridge, -⟩, -⟩ := hreaches.ready
  refine ⟨listingCalls Host.isArgument bridge.name
    (Listing.entries (decodeUtf8 bridge.response.stdout)), ?_, ?_⟩
  · rw [calls_run_of_parse hparse, hreaches.of_extra.calls_run hbridge,
      CastOptions.calls_launch_of_runs hbare]
  · rw [calls_run_of_parse (hextra extra), hreaches.calls_run hbridge, hlaunch]

/-- Words that look like flags, and even another double dash, go to the casting tool as they
are. -/
theorem extra_arguments_are_passed_on_old :
    "--" ∉ ["-s", "a"] ∧ parse {} ["-s", "a"] = .ok castRequest ∧
    ∃ listing,
      (run oldHost {} none ["-s", "a"]).calls = listing ++ [("scrcpy", ["-s", "a"])] ∧
      (run oldHost {} none ["-s", "a", "--", "--", "-h", "", "--serial=b"]).calls =
        listing ++ [("scrcpy", ["-s", "a", "--", "-h", "", "--serial=b"])] := by
  have hparse : parse {} ["-s", "a"] = .ok castRequest := by decide +kernel
  have hreaches : Reaches oldHost castRequest "a" := reaches_oldHost
  refine ⟨by decide, hparse, ?_⟩
  exact (extra_arguments_are_passed_on (by decide) hparse).2.2
    ["--", "-h", "", "--serial=b"] oldHost none "a"
    ⟨"scrcpy", ⟨utf8 "INFO: casting\n", [], .code 0⟩⟩
    ⟨hreaches.check, hreaches.launches, hreaches.targets, hreaches.ready⟩
    ⟨⟨"/scrcpy"⟩, find_castTool_castHost _ _, rfl⟩

end Program

end Screencast
