import Screencast.Proofs.CommandLine.Front
import Screencast.Proofs.Program.ExitCode

/-!
The two limits of a cast, on their way from the command line to the casting tool. A limit is read
from a text, kept as a number of 32 bits, and stated to the casting tool in decimal; the number that
arrives is the one that the text spells, and a text that spells none arrives nowhere.
-/

namespace Screencast

open CommandLine Request Text

/-- A limit of a cast. -/
inductive Limit where
  | size
  | fps
deriving DecidableEq, Repr

namespace Limit

/-- The setting that gives the limit. -/
def setting : Limit → Setting
  | size => .maxSize
  | fps => .maxFps

/-- The word that gives the limit by a text. -/
def word (limit : Limit) (text : String) : String := "--" ++ limit.setting.name ++ "=" ++ text

/-- The limit as a value of its setting. -/
def value (number : UInt32) : Limit → Value
  | size => .maxSize number
  | fps => .maxFps number

/-- The limit that a request asks for. -/
def get (request : Request) : Limit → Option UInt32
  | size => request.maxSize
  | fps => request.maxFps

/-- The request with a limit, whatever it asked for before. -/
def put (request : Request) (number : UInt32) : Limit → Request
  | size => { request with maxSize := some number }
  | fps => { request with maxFps := some number }

/-- The flag of the casting tool. -/
def flag : Limit → String
  | size => "-m"
  | fps => "--max-fps"

/-- The arguments that state a limit: zero is left to the casting tool. -/
def stated (limit : Limit) (n : Nat) : List String := if n = 0 then [] else [limit.flag, decimal n]

/-- The arguments of a cast in front of those for the limit. -/
def before (options : CastOptions) : Limit → List String
  | size => ["-s", options.serial] ++ CastOptions.textArgs "--video-codec" options.videoCodec
  | fps =>
    ["-s", options.serial] ++ CastOptions.textArgs "--video-codec" options.videoCodec ++
      CastOptions.limitArgs "-m" options.maxSize

/-- The arguments of a cast behind those for the limit. -/
def behind (options : CastOptions) : Limit → List String
  | size =>
    CastOptions.limitArgs "--max-fps" options.maxFps ++
      ((if options.audio then [] else ["--no-audio"]) ++
        ((if options.keyboard = .uhid then ["--keyboard=uhid"] else []) ++ options.extra))
  | fps =>
    (if options.audio then [] else ["--no-audio"]) ++
      ((if options.keyboard = .uhid then ["--keyboard=uhid"] else []) ++ options.extra)

variable {limit : Limit} {host : Host} {env : Environment} {words : List String}
  {request : Request} {serial text : String} {number : UInt32}

/-! ### From the words to the request -/

lemma read_setting (limit : Limit) (text : String) :
    Value.read limit.setting text =
      match readLimit text with
      | .ok number => .ok (limit.value number)
      | .error error => .error (.invalidNumber limit.setting text error) := by
  cases limit <;> rfl

/-- A draft has the limits of its request. -/
lemma item?_of_complete {draft : Draft} {extra : List String}
    (h : draft.complete env extra = .ok request) (hunset : limit.get request = none) :
    draft.item? (.setting limit.setting) = none := by
  obtain ⟨bridge, -, h⟩ := bind_eq_ok_iff.1 h
  obtain ⟨castTool, -, h⟩ := bind_eq_ok_iff.1 h
  obtain rfl := Except.ok.inj h
  cases limit with
  | size => exact Option.map_eq_none_iff.2 hunset
  | fps => exact Option.map_eq_none_iff.2 hunset

/-- The limit of a draft does not matter to the rest of its request. -/
lemma complete_put {draft : Draft} {extra : List String}
    (h : draft.complete env extra = .ok request) (number : UInt32) :
    ((limit.value number).put draft).complete env extra = .ok (limit.put request number) := by
  obtain ⟨bridge, hbridge, h⟩ := bind_eq_ok_iff.1 h
  obtain ⟨castTool, hcastTool, h⟩ := bind_eq_ok_iff.1 h
  obtain rfl := Except.ok.inj h
  cases limit with
  | size => exact bind_eq_ok_iff.2 ⟨bridge, hbridge, bind_eq_ok_iff.2 ⟨castTool, hcastTool, rfl⟩⟩
  | fps => exact bind_eq_ok_iff.2 ⟨bridge, hbridge, bind_eq_ok_iff.2 ⟨castTool, hcastTool, rfl⟩⟩

/-- A limit in front of words that give none is that of their request. -/
lemma parse_word (hparse : parse env words = .ok request) (hunset : limit.get request = none)
    (hread : readLimit text = .ok number) :
    parse env (limit.word text :: words) = .ok (limit.put request number) := by
  obtain ⟨last, extra, draft, hrun, hsettle, hcomplete⟩ := parse_eq_ok_iff.1 hparse
  have hvalue : Value.read limit.setting text = .ok (limit.value number) := by
    rw [read_setting, hread]
  have hfree := item?_of_complete hcomplete hunset
  exact (parse_cons_iff hvalue hrun hsettle hfree).2 (complete_put hcomplete number)

lemma parse_word_of_error {error : NumberError} (hread : readLimit text = .error error) :
    parse env (limit.word text :: words) =
      .error (.usage (.invalidNumber limit.setting text error)) := by
  refine parse_cons_of_error ?_
  rw [read_setting, hread]

/-- A number of 32 bits is read from each text that spells it. -/
lemma exists_read_of_spells {n : Nat} (hn : n ≤ 4294967295) (h : SpellsInteger text.toList n) :
    ∃ number : UInt32, number.toNat = n ∧ readLimit text = .ok number := by
  have hsize : n < UInt32.size := Nat.lt_succ_of_le hn
  have hnumber : (UInt32.ofNat n).toNat = n := UInt32.toNat_ofNat_of_lt hsize
  refine ⟨UInt32.ofNat n, hnumber, readLimit_eq_ok_iff.2 ?_⟩
  rwa [hnumber]

/-- What is read spells a number of 32 bits. -/
lemma exists_spells_of_read (h : readLimit text = .ok number) :
    ∃ n : Nat, n ≤ 4294967295 ∧ SpellsInteger text.toList n :=
  ⟨number.toNat, Nat.le_of_lt_succ number.toNat_lt_size, readLimit_eq_ok_iff.1 h⟩

/-- The words are read with a limit in front if its text spells a number of 32 bits. -/
lemma exists_parse_word_iff (hparse : parse env words = .ok request)
    (hunset : limit.get request = none) :
    (∃ other, parse env (limit.word text :: words) = .ok other) ↔
      ∃ n : Nat, n ≤ 4294967295 ∧ SpellsInteger text.toList n := by
  constructor
  · rintro ⟨other, hother⟩
    rcases hread : readLimit text with error | number
    · rw [parse_word_of_error hread] at hother
      cases hother
    · exact exists_spells_of_read hread
  · rintro ⟨n, hn, hspells⟩
    obtain ⟨number, -, hread⟩ := exists_read_of_spells hn hspells
    exact ⟨_, parse_word hparse hunset hread⟩

/-! ### From the request to the casting tool -/

lemma limitArgs_flag (limit : Limit) (number : UInt32) :
    CastOptions.limitArgs limit.flag (some number) = limit.stated number.toNat := by
  have hzero : number = 0 ↔ number.toNat = 0 := UInt32.toNat_inj.symm
  unfold CastOptions.limitArgs stated
  simp only [hzero]

/-- The arguments around a limit that is not given. -/
lemma toArgs_of_unset (hunset : limit.get request = none) (serial : String) :
    (request.castOptions serial).toArgs =
      limit.before (request.castOptions serial) ++ limit.behind (request.castOptions serial) := by
  cases limit with
  | size =>
    have hnone : (request.castOptions serial).maxSize = none := hunset
    unfold CastOptions.toArgs before behind
    rw [hnone]
    simp only [CastOptions.limitArgs, List.append_assoc, List.nil_append]
  | fps =>
    have hnone : (request.castOptions serial).maxFps = none := hunset
    unfold CastOptions.toArgs before behind
    rw [hnone]
    simp only [CastOptions.limitArgs, List.append_assoc, List.nil_append]

/-- A limit is stated in its place, and the arguments around it are the same. -/
lemma toArgs_put (limit : Limit) (request : Request) (number : UInt32) (serial : String) :
    ((limit.put request number).castOptions serial).toArgs =
      limit.before (request.castOptions serial) ++
        (limit.stated number.toNat ++ limit.behind (request.castOptions serial)) := by
  rw [← limitArgs_flag]
  cases limit with
  | size =>
    unfold CastOptions.toArgs before behind put castOptions flag
    simp only [List.append_assoc]
  | fps =>
    unfold CastOptions.toArgs before behind put castOptions flag
    simp only [List.append_assoc]

lemma reaches_put (h : Reaches host request serial) (limit : Limit) (number : UInt32) :
    Reaches host (limit.put request number) serial := by
  cases limit <;> exact ⟨h.check, h.launches, h.targets, h.ready⟩

lemma tools_put (limit : Limit) (request : Request) (number : UInt32) :
    (limit.put request number).bridge = request.bridge ∧
      (limit.put request number).castTool = request.castTool := by
  cases limit <;> exact ⟨rfl, rfl⟩

end Limit

namespace Program

variable {env : Environment} {words : List String} {request : Request} {limit : Limit}

/-- What a cast is started with when a limit is given, and when it is not. -/
lemma calls_run_of_limit {host : Host} {serial text : String} {number : UInt32} {cast : Started}
    (hparse : parse env words = .ok request) (hunset : limit.get request = none)
    (hread : readLimit text = .ok number) (hreaches : Reaches host request serial)
    (hruns : host.Runs request.castTool (limit.before (request.castOptions serial) ++
      (limit.stated number.toNat ++ limit.behind (request.castOptions serial))) cast)
    (time : Option String) :
    ∃ listing,
      (run host env time words).calls =
        listing ++ [(cast.name, limit.before (request.castOptions serial) ++
          limit.behind (request.castOptions serial))] ∧
      (run host env time (limit.word text :: words)).calls =
        listing ++ [(cast.name, limit.before (request.castOptions serial) ++
          (limit.stated number.toNat ++ limit.behind (request.castOptions serial)))] := by
  obtain ⟨hbridge, hcastTool⟩ := limit.tools_put request number
  obtain ⟨entries, ⟨bridge, hlisting, -⟩, -⟩ := hreaches.ready
  -- without the limit the tool gets some of the same arguments, so it runs as well
  have hsubset : (request.castOptions serial).toArgs ⊆
      limit.before (request.castOptions serial) ++
        (limit.stated number.toNat ++ limit.behind (request.castOptions serial)) := by
    rw [Limit.toArgs_of_unset hunset]
    exact List.append_subset.2 ⟨List.subset_append_left _ _, fun arg hmem =>
      List.mem_append_right _ (List.mem_append_right _ hmem)⟩
  obtain ⟨response, hbare⟩ := hruns.of_subset hsubset
  refine ⟨listingCalls Host.isArgument bridge.name
    (Listing.entries (decodeUtf8 bridge.response.stdout)), ?_, ?_⟩
  · rw [calls_run_of_parse hparse, hreaches.calls_run hlisting,
      CastOptions.calls_launch_of_runs hbare, Limit.toArgs_of_unset hunset]
  · rw [← Limit.toArgs_put, ← hcastTool] at hruns
    rw [← hbridge] at hlisting
    rw [calls_run_of_parse (Limit.parse_word hparse hunset hread),
      (Limit.reaches_put hreaches limit number).calls_run hlisting,
      CastOptions.calls_launch_of_runs hruns, Limit.toArgs_put]

/-- **Limits arrive exactly or not at all.** In front of words that state a request without a limit,
a text for the limit is accepted if it spells a number of 32 bits, with or without a sign, and
otherwise the exit code is two and no tool is started. It is the number alone that counts: however
it is spelled, the run is the same. Where the cast is reached and its tool runs, the calls are those
of the run without the limit, but that the last one has the flag of the limit and the number in
decimal in their place, or nothing if the number is zero. -/
theorem limits_arrive_exactly (hparse : parse env words = .ok request)
    (hunset : limit.get request = none) (text : String) :
    ((∃ other, parse env (limit.word text :: words) = .ok other) ↔
      ∃ n : Nat, n ≤ 4294967295 ∧ SpellsInteger text.toList n) ∧
    ((∀ n : Nat, n ≤ 4294967295 → ¬ SpellsInteger text.toList n) → ∀ host time,
      (run host env time (limit.word text :: words)).exitCode = 2 ∧
        (run host env time (limit.word text :: words)).calls = []) ∧
    ∀ n : Nat, n ≤ 4294967295 → SpellsInteger text.toList n →
      (∀ other, SpellsInteger other.toList n → ∀ host time,
        run host env time (limit.word other :: words) =
          run host env time (limit.word text :: words)) ∧
      ∀ host time serial cast, Reaches host request serial →
        host.Runs request.castTool (limit.before (request.castOptions serial) ++
          (limit.stated n ++ limit.behind (request.castOptions serial))) cast →
        ∃ listing,
          (run host env time words).calls =
            listing ++ [(cast.name, limit.before (request.castOptions serial) ++
              limit.behind (request.castOptions serial))] ∧
          (run host env time (limit.word text :: words)).calls =
            listing ++ [(cast.name, limit.before (request.castOptions serial) ++
              (limit.stated n ++ limit.behind (request.castOptions serial)))] := by
  refine ⟨Limit.exists_parse_word_iff hparse hunset, ?_, ?_⟩
  · intro hnone host time
    rcases hread : readLimit text with error | number
    · rw [run_of_stop (Limit.parse_word_of_error hread)]
      exact ⟨rfl, rfl⟩
    · obtain ⟨n, hn, hspells⟩ := Limit.exists_spells_of_read hread
      exact absurd hspells (hnone n hn)
  · intro n hn hspells
    obtain ⟨number, rfl, hread⟩ := Limit.exists_read_of_spells hn hspells
    refine ⟨?_, fun host time serial cast hreaches hruns =>
      calls_run_of_limit hparse hunset hread hreaches hruns time⟩
    intro other hother host time
    obtain ⟨number', hnumber, hread'⟩ := Limit.exists_read_of_spells hn hother
    obtain rfl : number' = number := UInt32.toNat_inj.1 hnumber
    unfold run
    rw [Limit.parse_word hparse hunset hread, Limit.parse_word hparse hunset hread']

/-- Sixty frames are sixty frames, with a plus sign and a zero in front as well, and fewer than none
are refused. -/
theorem limits_arrive_exactly_fps :
    parse {} ["-s", "a"] = .ok castRequest ∧ Limit.get castRequest .fps = none ∧
    SpellsInteger "+060".toList (60 : Nat) ∧ SpellsInteger "60".toList (60 : Nat) ∧
    (run oldHost {} none ["--max-fps=-1", "-s", "a"]).exitCode = 2 ∧
    run oldHost {} none ["--max-fps=60", "-s", "a"] =
      run oldHost {} none ["--max-fps=+060", "-s", "a"] ∧
    ∃ listing,
      (run oldHost {} none ["-s", "a"]).calls = listing ++ [("scrcpy", ["-s", "a"])] ∧
      (run oldHost {} none ["--max-fps=+060", "-s", "a"]).calls =
        listing ++ [("scrcpy", ["-s", "a", "--max-fps", "60"])] := by
  have hparse : parse {} ["-s", "a"] = .ok castRequest := by decide +kernel
  have hunset : Limit.get castRequest .fps = none := rfl
  have hspells : SpellsInteger "+060".toList (60 : Nat) :=
    (readInteger_eq_ok_iff.1 (by decide : readInteger 60 "+060".toList = .ok 60)).1
  have hplain : SpellsInteger "60".toList (60 : Nat) :=
    (readInteger_eq_ok_iff.1 (by decide : readInteger 60 "60".toList = .ok 60)).1
  have hnegative : ∀ n : Nat, n ≤ 4294967295 → ¬ SpellsInteger "-1".toList n := by
    intro n _ (h : SpellsInteger ('-' :: ['1']) n)
    have hvalue := (spellsInteger_minus_iff.1 h).2
    have hone : placeValue ['1'] = 1 := rfl
    omega
  obtain ⟨hsame, hcalls⟩ :=
    (limits_arrive_exactly hparse hunset "+060").2.2 60 (by decide) hspells
  refine ⟨hparse, hunset, hspells, hplain, ?_, hsame "60" hplain oldHost none, ?_⟩
  · exact ((limits_arrive_exactly hparse hunset "-1").2.1 hnegative oldHost none).1
  · exact hcalls oldHost none "a" ⟨"scrcpy", ⟨utf8 "INFO: casting\n", [], .code 0⟩⟩ reaches_oldHost
      ⟨⟨"/scrcpy"⟩, find_castTool_castHost _ _, rfl⟩

end Program

end Screencast
