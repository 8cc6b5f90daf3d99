import Mathlib.Data.List.Infix
import Screencast.Cast.Options
import Screencast.Proofs.Text.Numeral

/-!
The arguments that state the options of a cast, and reading them back. A group of arguments is told
from the one behind it by its first word alone, and the value behind a flag is skipped unread, so
that a value may be spelled like any of the flags. What is left out, an option without a value or
with the value that stands for none, is all that the arguments do not tell.
-/

namespace Screencast.CastOptions

open Text

/-! ### Groups of arguments -/

/-- A flag and its value, where there is one. -/
def valueArgs (flag : String) : Option String → List String
  | none => []
  | some value => [flag, value]

/-- A word that is there or not. -/
def wordArgs (word : String) : Bool → List String
  | false => []
  | true => [word]

/-- The arguments are none, or begin with one of some words. -/
def Begins (flags : List String) (args : List String) : Prop :=
  ∀ word, args.head? = some word → word ∈ flags

/-- The numeral that states a limit. -/
def numeral (limit : UInt32) : String := decimal limit.toNat

lemma textArgs_eq (flag : String) (value : Option String) :
    textArgs flag value = valueArgs flag (value.filter (· ≠ "")) := by
  cases value with
  | none => rfl
  | some value =>
    by_cases h : value = ""
    · subst h
      rfl
    · rw [Option.filter_some, if_pos (by simpa using h)]
      exact if_neg h

lemma limitArgs_eq (flag : String) (limit : Option UInt32) :
    limitArgs flag limit = valueArgs flag ((limit.filter (· ≠ 0)).map numeral) := by
  cases limit with
  | none => rfl
  | some limit =>
    by_cases h : limit = 0
    · subst h
      rfl
    · rw [Option.filter_some, if_pos (by simpa using h)]
      exact if_neg h

/-- The arguments that state all but the device and the codec. -/
def settingArgs (options : CastOptions) : List String :=
  valueArgs "-m" ((options.maxSize.filter (· ≠ 0)).map numeral) ++
    (valueArgs "--max-fps" ((options.maxFps.filter (· ≠ 0)).map numeral) ++
      (wordArgs "--no-audio" (!options.audio) ++
        wordArgs "--keyboard=uhid" (options.keyboard == .uhid)))

/-- The arguments group by group. -/
lemma toArgs_eq (options : CastOptions) :
    options.toArgs = "-s" :: options.serial ::
      (valueArgs "--video-codec" (options.videoCodec.filter (· ≠ "")) ++ options.settingArgs) ++
        options.extra := by
  have haudio : (if options.audio then [] else ["--no-audio"]) =
      wordArgs "--no-audio" (!options.audio) := by
    cases options.audio <;> rfl
  have hkeyboard : (if options.keyboard = .uhid then ["--keyboard=uhid"] else []) =
      wordArgs "--keyboard=uhid" (options.keyboard == .uhid) := by
    cases options.keyboard <;> rfl
  unfold toArgs settingArgs
  rw [textArgs_eq, limitArgs_eq, limitArgs_eq, haudio, hkeyboard]
  simp only [List.append_assoc, List.cons_append, List.nil_append]

/-! ### Reading a group -/

/-- The value behind a flag with which the arguments begin, and the arguments behind both. -/
def takeValue (flag : String) : List String → Option String × List String
  | word :: value :: rest =>
    if word = flag then (some value, rest) else (none, word :: value :: rest)
  | args => (none, args)

/-- Whether the arguments begin with a word, and the arguments behind it. -/
def takeWord (flag : String) : List String → Bool × List String
  | word :: rest => if word = flag then (true, rest) else (false, word :: rest)
  | [] => (false, [])

section Groups

variable {flag : String} {flags rest : List String}

lemma begins_valueArgs (flag : String) (value : Option String) :
    Begins [flag] (valueArgs flag value) := by
  intro word hword
  cases value with
  | none => cases hword
  | some value =>
    obtain rfl : flag = word := Option.some.inj hword
    exact List.mem_cons_self

lemma begins_wordArgs (flag : String) (stated : Bool) : Begins [flag] (wordArgs flag stated) := by
  intro word hword
  cases stated with
  | false => cases hword
  | true =>
    obtain rfl : flag = word := Option.some.inj hword
    exact List.mem_cons_self

/-- A group may be left out, and then the next one begins the arguments. -/
lemma Begins.append {group : List String} (hgroup : Begins [flag] group) (h : Begins flags rest) :
    Begins (flag :: flags) (group ++ rest) := by
  intro word hword
  cases group with
  | nil => exact List.mem_cons_of_mem _ (h word hword)
  | cons first group =>
    obtain rfl := List.mem_singleton.1 (hgroup word hword)
    exact List.mem_cons_self

/-- The value of a group is read whatever it is, if the next group has another first word. -/
lemma takeValue_valueArgs (h : Begins flags rest) (hflag : flag ∉ flags) (value : Option String) :
    takeValue flag (valueArgs flag value ++ rest) = (value, rest) := by
  cases value with
  | some value => exact if_pos rfl
  | none =>
    rw [valueArgs, List.nil_append]
    match rest with
    | [] => rfl
    | [_] => rfl
    | word :: value :: rest =>
      have hne : word ≠ flag := fun e => hflag (e ▸ h word rfl)
      exact if_neg hne

lemma takeWord_wordArgs (h : Begins flags rest) (hflag : flag ∉ flags) (stated : Bool) :
    takeWord flag (wordArgs flag stated ++ rest) = (stated, rest) := by
  cases stated with
  | true => exact if_pos rfl
  | false =>
    rw [wordArgs, List.nil_append]
    match rest with
    | [] => rfl
    | word :: rest =>
      have hne : word ≠ flag := fun e => hflag (e ▸ h word rfl)
      exact if_neg hne

end Groups

/-- The limit that a numeral states. -/
def readLimit? (text : String) : Option UInt32 :=
  (readNumeral (UInt32.size - 1) .tooLarge text.toList).toOption.map UInt32.ofNat

lemma readLimit?_numeral (limit : UInt32) : readLimit? (numeral limit) = some limit := by
  have hle : limit.toNat ≤ UInt32.size - 1 := Nat.le_sub_one_of_lt limit.toNat_lt
  unfold readLimit? numeral decimal
  rw [String.toList_ofList, readNumeral_toDigits hle]
  exact congrArg some UInt32.ofNat_toNat

/-! ### Reading all arguments -/

/-- Reads options back from their arguments, of which the last ones, as many as are said, are
extra. -/
def ofArgs? (count : Nat) (args : List String) : Option CastOptions :=
  match args.take (args.length - count) with
  | _ :: serial :: own =>
    let (codec, own) := takeValue "--video-codec" own
    let (size, own) := takeValue "-m" own
    let (rate, own) := takeValue "--max-fps" own
    let (silent, own) := takeWord "--no-audio" own
    let (uhid, _) := takeWord "--keyboard=uhid" own
    some
      { serial
        videoCodec := codec
        maxSize := size.bind readLimit?
        maxFps := rate.bind readLimit?
        audio := !silent
        keyboard := if uhid then .uhid else .default
        extra := args.drop (args.length - count) }
  | _ => none

/-- The options without the values that stand for none. -/
def stated (options : CastOptions) : CastOptions :=
  { options with
    videoCodec := options.videoCodec.filter (· ≠ "")
    maxSize := options.maxSize.filter (· ≠ 0)
    maxFps := options.maxFps.filter (· ≠ 0) }

/-- What the arguments tell is what the options state. -/
theorem ofArgs?_toArgs (options : CastOptions) :
    ofArgs? options.extra.length options.toArgs = some options.stated := by
  have hlimit (limit : Option UInt32) : (limit.map numeral).bind readLimit? = limit := by
    cases limit with
    | none => rfl
    | some limit => exact readLimit?_numeral limit
  have hkeyboard : (if (options.keyboard == .uhid) = true then Keyboard.uhid else .default) =
      options.keyboard := by
    cases options.keyboard <;> rfl
  -- the first words of the groups, from the last group on
  have huhid := begins_wordArgs "--keyboard=uhid" (options.keyboard == .uhid)
  have haudio := (begins_wordArgs "--no-audio" (!options.audio)).append huhid
  have hfps :=
    (begins_valueArgs "--max-fps" ((options.maxFps.filter (· ≠ 0)).map numeral)).append haudio
  have hsize :=
    (begins_valueArgs "-m" ((options.maxSize.filter (· ≠ 0)).map numeral)).append hfps
  have hlast : takeWord "--keyboard=uhid"
      (wordArgs "--keyboard=uhid" (options.keyboard == .uhid)) =
        (options.keyboard == .uhid, []) := by
    cases options.keyboard <;> rfl
  obtain ⟨own, hown⟩ : ∃ own, own =
      valueArgs "--video-codec" (options.videoCodec.filter (· ≠ "")) ++ options.settingArgs :=
    ⟨_, rfl⟩
  have hargs := toArgs_eq options
  rw [← hown] at hargs
  have htake : options.toArgs.take (options.toArgs.length - options.extra.length) =
      "-s" :: options.serial :: own := by
    rw [hargs, List.length_append, Nat.add_sub_cancel, List.take_left]
  have hdrop :
      options.toArgs.drop (options.toArgs.length - options.extra.length) = options.extra := by
    rw [hargs, List.length_append, Nat.add_sub_cancel, List.drop_left]
  unfold ofArgs?
  rw [htake, hdrop]
  dsimp only
  rw [hown, settingArgs, takeValue_valueArgs hsize (by decide)]
  dsimp only
  rw [takeValue_valueArgs hfps (by decide)]
  dsimp only
  rw [takeValue_valueArgs haudio (by decide)]
  dsimp only
  rw [takeWord_wordArgs huhid (by decide)]
  dsimp only
  rw [hlast]
  dsimp only
  rw [hlimit, hlimit, hkeyboard, Bool.not_not]
  rfl

/-! ### Options with the same arguments -/

/-- Options agree if they are the same but for a codec, a size or a rate that is missing in one of
them and stands for none in the other. -/
structure Agrees (options other : CastOptions) : Prop where
  serial : options.serial = other.serial
  videoCodec : options.videoCodec.getD "" = other.videoCodec.getD ""
  maxSize : options.maxSize.getD 0 = other.maxSize.getD 0
  maxFps : options.maxFps.getD 0 = other.maxFps.getD 0
  audio : options.audio = other.audio
  keyboard : options.keyboard = other.keyboard
  extra : options.extra = other.extra

section Agreement

variable {α : Type} [DecidableEq α] {absent : α} {value value' : Option α}

lemma getD_filter_ne : (value.filter (· ≠ absent)).getD absent = value.getD absent := by
  cases value with
  | none => rfl
  | some a =>
    rw [Option.filter_some]
    by_cases h : a = absent <;> simp [h]

/-- What is left of a value without the one for none goes by what it is read as. -/
lemma filter_ne_congr (h : value.getD absent = value'.getD absent) :
    value.filter (· ≠ absent) = value'.filter (· ≠ absent) := by
  have hfilter (value : Option α) : value.filter (· ≠ absent) =
      if value.getD absent = absent then none else some (value.getD absent) := by
    cases value with
    | none => simp
    | some a => simp [Option.filter_some]
  rw [hfilter, hfilter, h]

end Agreement

variable {options other third : CastOptions}

lemma Agrees.symm (h : options.Agrees other) : other.Agrees options where
  serial := h.serial.symm
  videoCodec := h.videoCodec.symm
  maxSize := h.maxSize.symm
  maxFps := h.maxFps.symm
  audio := h.audio.symm
  keyboard := h.keyboard.symm
  extra := h.extra.symm

lemma Agrees.trans (h : options.Agrees other) (h' : other.Agrees third) : options.Agrees third where
  serial := h.serial.trans h'.serial
  videoCodec := h.videoCodec.trans h'.videoCodec
  maxSize := h.maxSize.trans h'.maxSize
  maxFps := h.maxFps.trans h'.maxFps
  audio := h.audio.trans h'.audio
  keyboard := h.keyboard.trans h'.keyboard
  extra := h.extra.trans h'.extra

/-- What options state agrees with them. -/
lemma stated_agrees (options : CastOptions) : options.stated.Agrees options where
  serial := rfl
  videoCodec := getD_filter_ne
  maxSize := getD_filter_ne
  maxFps := getD_filter_ne
  audio := rfl
  keyboard := rfl
  extra := rfl

/-- Options agree where they state the same. -/
lemma agrees_iff_stated_eq : options.Agrees other ↔ options.stated = other.stated := by
  constructor
  · intro h
    unfold stated
    rw [h.serial, filter_ne_congr h.videoCodec, filter_ne_congr h.maxSize, filter_ne_congr h.maxFps,
      h.audio, h.keyboard, h.extra]
  · intro h
    have hother := stated_agrees other
    rw [← h] at hother
    exact (stated_agrees options).symm.trans hother

lemma toArgs_stated (options : CastOptions) : options.stated.toArgs = options.toArgs := by
  rw [toArgs_eq, toArgs_eq]
  unfold settingArgs stated
  dsimp only
  rw [filter_ne_congr getD_filter_ne, filter_ne_congr getD_filter_ne,
    filter_ne_congr getD_filter_ne]

/-! ### The words about sound -/

/-- The words that are the same in all arguments, and the numerals. -/
lemma mem_settingArgs {word : String} (h : word ∈ options.settingArgs) :
    word ∈ ["-m", "--max-fps", "--keyboard=uhid"] ∨ (∃ limit, word = numeral limit) ∨
      word = "--no-audio" ∧ options.audio = false := by
  have hlimit {flag : String} {limit : Option UInt32}
      (hword : word ∈ valueArgs flag (limit.map numeral)) :
      word = flag ∨ ∃ limit, word = numeral limit := by
    cases limit with
    | none => exact absurd hword List.not_mem_nil
    | some limit =>
      rcases List.mem_pair.1 hword with hflag | hnumeral
      · exact .inl hflag
      · exact .inr ⟨limit, hnumeral⟩
  have hword {flag : String} {stated : Bool} (hmem : word ∈ wordArgs flag stated) :
      word = flag ∧ stated = true := by
    cases stated with
    | false => exact absurd hmem List.not_mem_nil
    | true => exact ⟨List.mem_singleton.1 hmem, rfl⟩
  unfold settingArgs at h
  rw [List.mem_append, List.mem_append, List.mem_append] at h
  rcases h with hsize | hfps | haudio | hkeyboard
  · rcases hlimit hsize with rfl | hnumeral
    · exact .inl (by decide)
    · exact .inr (.inl hnumeral)
  · rcases hlimit hfps with rfl | hnumeral
    · exact .inl (by decide)
    · exact .inr (.inl hnumeral)
  · obtain ⟨rfl, hsilent⟩ := hword haudio
    exact .inr (.inr ⟨rfl, by simpa using hsilent⟩)
  · obtain ⟨rfl, -⟩ := hword hkeyboard
    exact .inl (by decide)

/-- No word but the one that turns sound off speaks of it. -/
lemma silent_of_infix_audio {word : String} (h : word ∈ options.settingArgs)
    (haudio : "audio".toList <:+: word.toList) : word = "--no-audio" ∧ options.audio = false := by
  rcases mem_settingArgs h with hfixed | ⟨limit, rfl⟩ | hsilent
  · have hnone : ∀ word ∈ ["-m", "--max-fps", "--keyboard=uhid"],
        ¬ "audio".toList <:+: word.toList := by
      decide
    exact absurd haudio (hnone word hfixed)
  · -- a numeral holds digits only
    have hletter : 'a' ∈ "audio".toList := by decide
    exact absurd (isDigit_of_mem_decimal (haudio.subset hletter)) (by decide)
  · exact hsilent

/-! ### What the arguments tell -/

/-- Options with as many extra arguments have the same arguments where they agree. -/
lemma toArgs_eq_toArgs_iff (hextra : options.extra.length = other.extra.length) :
    options.toArgs = other.toArgs ↔ options.Agrees other := by
  rw [agrees_iff_stated_eq]
  constructor
  · intro hargs
    have hread := ofArgs?_toArgs options
    rw [hextra, hargs, ofArgs?_toArgs] at hread
    exact (Option.some.inj hread).symm
  · intro hstated
    rw [← toArgs_stated options, hstated, toArgs_stated]

/-- **What the arguments tell.** From the arguments and the number of extra ones all options are
read back, so that options with as many extra arguments have the same arguments exactly where they
agree. No word about sound stands between the codec and the extra arguments but the one that turns
it off. -/
theorem arguments_tell_options (options : CastOptions) :
    (∃ found, ofArgs? options.extra.length options.toArgs = some found ∧ found.Agrees options) ∧
    (∀ other : CastOptions, options.extra.length = other.extra.length →
      (options.toArgs = other.toArgs ↔ options.Agrees other)) ∧
    ∃ codec own,
      options.toArgs = ["-s", options.serial] ++ codec ++ own ++ options.extra ∧
      (codec = [] ∨ ∃ name, options.videoCodec = some name ∧ codec = ["--video-codec", name]) ∧
      ("--no-audio" ∈ own ↔ options.audio = false) ∧
      ∀ word ∈ own, "audio".toList <:+: word.toList → word = "--no-audio" := by
  refine ⟨⟨_, ofArgs?_toArgs options, stated_agrees options⟩, fun other => toArgs_eq_toArgs_iff,
    valueArgs "--video-codec" (options.videoCodec.filter (· ≠ "")), options.settingArgs,
    ?_, ?_, ?_, ?_⟩
  · rw [toArgs_eq]
    rfl
  · cases hcodec : options.videoCodec.filter (· ≠ "") with
    | none => exact .inl rfl
    | some name => exact .inr ⟨name, (Option.filter_eq_some_iff.1 hcodec).1, rfl⟩
  · constructor
    · intro hmem
      exact (silent_of_infix_audio hmem (by decide)).2
    · intro hsilent
      unfold settingArgs
      rw [hsilent]
      refine List.mem_append_right _ (List.mem_append_right _ (List.mem_append_left _ ?_))
      exact List.mem_singleton_self _
  · intro word hmem haudio
    exact (silent_of_infix_audio hmem haudio).1

/-- A serial, a codec and an extra argument that are spelled like flags are told from them. -/
example : ofArgs? 1 (toArgs
    { serial := "--no-audio", videoCodec := some "-m", maxSize := some 0, extra := ["-m"] }) =
      some { serial := "--no-audio", videoCodec := some "-m", extra := ["-m"] } := by
  decide

end Screencast.CastOptions
