import Mathlib.Data.List.Forall2
import Screencast.Proofs.CommandLine.Item
import Screencast.Proofs.CommandLine.Scan

/-!
Every request whose tools have a path can be written as a command line, in many ways, and all of
them are read as that request. The items come in any order, a value stands behind an equals sign or
in a word of its own, and what the environment holds plays no part.
-/

namespace Screencast.CommandLine

/-! ### Ways to write an item -/

/-- A word that cannot be taken for a flag. -/
def Undashed (word : String) : Prop := word.toList.head? ≠ some '-'

instance (word : String) : Decidable (Undashed word) :=
  inferInstanceAs (Decidable (word.toList.head? ≠ some '-'))

/-- The words for a flag: its name, and its letter where it has one. -/
inductive Names (flag : Flag) : String → Prop
  | long : Names flag ("--" ++ flag.name)
  | short {letter : Char} (letter_eq : flag.letter? = some letter) :
    Names flag (String.ofList ['-', letter])

/-- The ways to write an item. Behind an equals sign a value may be any text, but as a word of its
own it must not begin with a dash. -/
inductive Written : Item → List String → Prop
  | attached (value : Value) :
    Written (.set value) ["--" ++ value.setting.name ++ "=" ++ value.text]
  | apart (value : Value) {word : String} (names : Names (.setting value.setting) word)
    (undashed : Undashed value.text) : Written (.set value) [word, value.text]
  | on (switch : Switch) {word : String} (names : Names (.switch switch) word) :
    Written (.on switch) [word]

/-- The way to write an item that is open to all of them. -/
def Item.spelling : Item → List String
  | .set value => ["--" ++ value.setting.name ++ "=" ++ value.text]
  | .on switch => ["--" ++ switch.name]

lemma written_spelling (item : Item) : Written item item.spelling := by
  cases item with
  | set value => exact .attached value
  | on switch => exact .on switch .long

/-- The ways to write the extra arguments. The double dash may be left out where there are none. -/
inductive Passes : List String → List String → Prop
  | dashes (extra : List String) : Passes extra ("--" :: extra)
  | nothing : Passes [] []

/-- Items that state a request: all that it asks for, in any order. The default keyboard mode may
be left out. -/
def States (request : Request) (items : List Item) : Prop :=
  items.Perm request.items ∨ (.set (.keyboard .default) :: items).Perm request.items

/-- The command lines of a request: its items, each in one of the ways to write it, and then the
extra arguments. -/
inductive Writes (request : Request) : List String → Prop
  | intro {items : List Item} {groups : List (List String)} {tail : List String}
    (states : States request items) (written : List.Forall₂ Written items groups)
    (passes : Passes request.extra tail) : Writes request (groups.flatten ++ tail)

/-- Every request has a command line. -/
lemma exists_writes (request : Request) : ∃ words, Writes request words := by
  have hwritten : List.Forall₂ Written request.items (request.items.map Item.spelling) :=
    List.forall₂_map_right_iff.2 (List.forall₂_same.2 fun item _ => written_spelling item)
  exact ⟨_, .intro (.inl (List.Perm.refl _)) hwritten (.dashes request.extra)⟩

/-! ### Scanning an item -/

namespace Scan

variable {scan : Scan} {draft : Draft}

lemma await_of_settle (h : scan.settle = .ok draft) (setting : Setting) :
    scan.await setting = .ok ⟨draft, .awaiting setting⟩ := by
  unfold await
  rw [h]

lemma assign_of_settle (h : scan.settle = .ok draft) {value : Value} (hfits : value.Fits)
    (hfree : draft.item? (.setting value.setting) = none) :
    scan.assign value.setting value.text = .ok ⟨value.put draft, .nothing⟩ := by
  have hset : scan.settle.bind (·.set value.setting value.text) = .ok (value.put draft) := by
    rw [h]
    exact set_text hfits hfree
  unfold assign
  rw [hset]

lemma flip_of_settle (h : scan.settle = .ok draft) {switch : Switch}
    (hfree : draft.item? (.switch switch) = none) :
    scan.flip switch = .ok ⟨draft.turnOn switch, .nothing⟩ := by
  have hswitch : scan.settle.bind (·.switch switch) = .ok (draft.turnOn switch) := by
    rw [h]
    exact switch_of_free hfree
  unfold flip
  rw [hswitch]

/-! The words of an item one by one. -/

section Words

variable (scan) (words : List String)

/-- A word for a setting leaves it open. -/
lemma run_setting {setting : Setting} {word : String} (h : Names (.setting setting) word) :
    scan.run (word :: words) = (scan.await setting).bind fun scan => scan.run words := by
  cases h with
  | long => simp only [run, Word.ofString_name, long, Flag.ofName?_name]
  | short letter_eq =>
    simp only [run, Word.ofString_letter letter_eq, letters, Flag.ofLetter?_letter letter_eq,
      attach]

/-- A word for a switch turns it on. -/
lemma run_switch {switch : Switch} {word : String} (h : Names (.switch switch) word) :
    scan.run (word :: words) = (scan.flip switch).bind fun scan => scan.run words := by
  cases h with
  | long => simp only [run, Word.ofString_name, long, Flag.ofName?_name]
  | short letter_eq =>
    simp only [run, Word.ofString_letter letter_eq, letters, Flag.ofLetter?_letter letter_eq]
    rcases scan.flip switch with stop | scan <;> rfl

/-- The name of a setting with a value sets it. -/
lemma run_setting_value (setting : Setting) (text : String) :
    scan.run (("--" ++ setting.name ++ "=" ++ text) :: words) =
      (scan.assign setting text).bind fun scan => scan.run words := by
  have hword : Word.ofString ("--" ++ setting.name ++ "=" ++ text) =
      .long (Flag.setting setting).name (some text) :=
    Word.ofString_name_value (.setting setting) text
  simp only [run, hword, long, Flag.ofName?_name]

/-- A word without a dash is the value of the setting that is open. -/
lemma run_undashed (draft : Draft) (setting : Setting) {text : String} (h : Undashed text) :
    run ⟨draft, .awaiting setting⟩ (text :: words) = run ⟨draft, .given setting text⟩ words := by
  rw [run, Word.ofString_plain h]
  rfl

/-- The extra arguments are passed on. -/
lemma run_tail {extra tail : List String} (h : Passes extra tail) :
    scan.run tail = .ok (scan, extra) := by
  cases h <;> rfl

end Words

/-- A value in a word of its own is set when it is settled. -/
lemma settle_given {value : Value} (hfits : value.Fits)
    (hfree : draft.item? (.setting value.setting) = none) :
    settle ⟨draft, .given value.setting value.text⟩ = .ok (value.put draft) :=
  set_text hfits hfree

/-- One item, in whatever way it is written, adds itself to what is settled, and scanning goes on
with the words behind it. -/
lemma run_written {item : Item} {words : List String} (h : Written item words)
    (hsettle : scan.settle = .ok draft) (hfits : item.Fits)
    (hfree : draft.item? item.flag = none) (rest : List String) :
    ∃ scan', scan.run (words ++ rest) = run scan' rest ∧
      settle scan' = .ok (item.put draft) := by
  cases h with
  | attached value =>
    refine ⟨⟨value.put draft, .nothing⟩, ?_, rfl⟩
    rw [List.singleton_append, run_setting_value, assign_of_settle hsettle hfits hfree]
    rfl
  | apart value names undashed =>
    refine ⟨⟨draft, .given value.setting value.text⟩, ?_, settle_given hfits hfree⟩
    rw [List.cons_append, run_setting _ _ names, await_of_settle hsettle]
    exact run_undashed rest draft value.setting undashed
  | on switch names =>
    refine ⟨⟨draft.turnOn switch, .nothing⟩, ?_, rfl⟩
    rw [List.singleton_append, run_switch _ _ names, flip_of_settle hsettle hfree]
    rfl

/-- Items of different flags are all settled in the end. -/
lemma run_flatten {items : List Item} {groups : List (List String)}
    (h : List.Forall₂ Written items groups) (hsettle : scan.settle = .ok draft)
    (hfits : ∀ item ∈ items, item.Fits) (hnodup : (items.map Item.flag).Nodup)
    (hfree : ∀ item ∈ items, draft.item? item.flag = none) (rest : List String) :
    ∃ scan', scan.run (groups.flatten ++ rest) = run scan' rest ∧
      settle scan' = .ok (items.foldl Item.put draft) := by
  induction h generalizing scan draft with
  | nil => exact ⟨scan, rfl, hsettle⟩
  | @cons item words items groups hwritten _ ih =>
    rw [List.forall_mem_cons] at hfits hfree
    rw [List.map_cons, List.nodup_cons] at hnodup
    obtain ⟨next, hrun, hnext⟩ :=
      run_written hwritten hsettle hfits.1 hfree.1 (groups.flatten ++ rest)
    -- the items to come are under other flags, where the draft still says nothing
    have hfree' : ∀ later ∈ items, (item.put draft).item? later.flag = none := by
      intro later hlater
      have hne : later.flag ≠ item.flag := by
        intro heq
        exact hnodup.1 (heq ▸ List.mem_map_of_mem hlater)
      rw [item?_put_of_ne hne]
      exact hfree.2 later hlater
    obtain ⟨last, hlast, hsettled⟩ := ih hnext hfits.2 hnodup.2 hfree'
    refine ⟨last, ?_, hsettled⟩
    rw [List.flatten_cons, List.append_assoc, hrun, hlast]

end Scan

/-! ### The draft of a request -/

section Complete

variable {request : Request} {draft : Draft}

lemma eq_of_map_set {α : Type} {value : α → Value} (hvalue : Function.Injective value)
    {a b : Option α} (h : (a.map fun x => Item.set (value x)) = b.map fun x => Item.set (value x)) :
    a = b :=
  Option.map_injective (fun _ _ heq => hvalue (Item.set.inj heq)) h

lemma eq_of_switchItem? {isOn isOn' : Bool} {switch : Switch}
    (h : switchItem? isOn switch = switchItem? isOn' switch) : isOn = isOn' := by
  rw [← isSome_switchItem? isOn switch, h, isSome_switchItem?]

/-- A draft that says all that a request asks for is completed to the request, in any environment.
Only its keyboard mode may be open. -/
lemma complete_of_item? (env : Environment)
    (hitem : ∀ flag ≠ .setting .keyboard, draft.item? flag = request.item? flag)
    (hkeyboard : draft.keyboard.getD .default = request.keyboard) :
    draft.complete env request.extra = .ok request := by
  have hserial : draft.serial = request.serial :=
    eq_of_map_set (fun _ _ => Value.serial.inj) (hitem (.setting .serial) (by decide))
  have hcodec : draft.videoCodec = request.videoCodec :=
    eq_of_map_set (fun _ _ => Value.videoCodec.inj) (hitem (.setting .videoCodec) (by decide))
  have hsize : draft.maxSize = request.maxSize :=
    eq_of_map_set (fun _ _ => Value.maxSize.inj) (hitem (.setting .maxSize) (by decide))
  have hfps : draft.maxFps = request.maxFps :=
    eq_of_map_set (fun _ _ => Value.maxFps.inj) (hitem (.setting .maxFps) (by decide))
  have hbridge : draft.bridge = some request.bridge :=
    eq_of_map_set (fun _ _ => Value.bridge.inj) (hitem (.setting .bridge) (by decide))
  have hcastTool : draft.castTool = some request.castTool :=
    eq_of_map_set (fun _ _ => Value.castTool.inj) (hitem (.setting .castTool) (by decide))
  have haudio : draft.noAudio = request.noAudio :=
    eq_of_switchItem? (hitem (.switch .noAudio) (by decide))
  have hlist : draft.listDevices = request.listDevices :=
    eq_of_switchItem? (hitem (.switch .listDevices) (by decide))
  have hjson : draft.json = request.json :=
    eq_of_switchItem? (hitem (.switch .json) (by decide))
  have hverbose : draft.verbose = request.verbose :=
    eq_of_switchItem? (hitem (.switch .verbose) (by decide))
  unfold Draft.complete
  rw [hserial, hcodec, hsize, hfps, hbridge, hcastTool, haudio, hlist, hjson, hverbose, hkeyboard]
  rfl

end Complete

namespace States

variable {request : Request} {items : List Item} {item : Item} (h : States request items)

include h

/-- Items that state a request are of different flags. -/
lemma nodup : (items.map Item.flag).Nodup := by
  rcases h with h | h
  · exact (h.map Item.flag).nodup_iff.2 request.nodup_items
  · have hnodup := (h.map Item.flag).nodup_iff.2 request.nodup_items
    rw [List.map_cons, List.nodup_cons] at hnodup
    exact hnodup.2

/-- They are all items of the request. -/
lemma mem (hitem : item ∈ items) : item ∈ request.items := by
  rcases h with h | h
  · exact h.mem_iff.1 hitem
  · exact h.mem_iff.1 (List.mem_cons_of_mem _ hitem)

/-- Of the items of the request, none is missing but the keyboard mode. -/
lemma mem_of_ne (hitem : item ∈ request.items) (hne : item.flag ≠ .setting .keyboard) :
    item ∈ items := by
  rcases h with h | h
  · exact h.mem_iff.2 hitem
  · rcases List.mem_cons.1 (h.mem_iff.2 hitem) with rfl | hmem
    · exact absurd rfl hne
    · exact hmem

/-- The draft made of the items has the keyboard mode of the request, if only by default. -/
lemma keyboard_foldl :
    (items.foldl Item.put {}).keyboard.getD .default = request.keyboard := by
  have hkeyboard : request.item? (.setting .keyboard) = some (.set (.keyboard request.keyboard)) :=
    rfl
  rcases h with h | h
  · have hnodup := (h.map Item.flag).nodup_iff.2 request.nodup_items
    have hmem := h.mem_iff.2 (Request.item?_eq_some_iff.1 hkeyboard).1
    have hgiven : (items.foldl Item.put {}).keyboard = some request.keyboard :=
      eq_of_map_set (fun _ _ => Value.keyboard.inj) (item?_foldl_put hnodup hmem)
    rw [hgiven]
    rfl
  · have hnodup := (h.map Item.flag).nodup_iff.2 request.nodup_items
    rw [List.map_cons, List.nodup_cons] at hnodup
    have hopen : (items.foldl Item.put {}).keyboard = none :=
      Option.map_eq_none_iff.1 ((item?_foldl_put_of_notMem hnodup.1).trans (item?_empty _))
    have hdefault : request.item? (.setting .keyboard) = some (.set (.keyboard .default)) :=
      Request.item?_eq_some_iff.2 ⟨h.mem_iff.1 List.mem_cons_self, rfl⟩
    rw [hopen]
    exact (Value.keyboard.inj (Item.set.inj (Option.some.inj hdefault))).symm

/-- The draft made of the items is completed to the request. -/
lemma complete (env : Environment) :
    (items.foldl Item.put {}).complete env request.extra = .ok request := by
  refine complete_of_item? env ?_ h.keyboard_foldl
  intro flag hne
  refine Option.ext fun item => ?_
  rw [item?_foldl_put_iff h.nodup, Request.item?_eq_some_iff]
  constructor
  · rintro ⟨hmem, hflag⟩
    exact ⟨h.mem hmem, hflag⟩
  · rintro ⟨hmem, rfl⟩
    exact ⟨h.mem_of_ne hmem hne, rfl⟩

end States

/-! ### Reading what is written -/

/-- **Every request can be written**, as long as its tools have a path, and whatever way it is
written and whatever the environment holds, it is read as this very request. -/
theorem every_spelling_is_read (request : Request) (hbridge : request.bridge.text ≠ "")
    (hcastTool : request.castTool.text ≠ "") :
    (∃ words, Writes request words) ∧
      ∀ env words, Writes request words → parse env words = .ok request := by
  refine ⟨exists_writes request, ?_⟩
  rintro env _ @⟨items, groups, tail, states, written, passes⟩
  have hfits : ∀ item ∈ items, item.Fits := fun item hmem =>
    Request.fits_of_mem_items hbridge hcastTool (states.mem hmem)
  have hstart : Scan.settle {} = .ok {} := rfl
  obtain ⟨last, hrun, hsettled⟩ :=
    Scan.run_flatten written hstart hfits states.nodup (fun _ _ => item?_empty _) tail
  rw [Scan.run_tail last passes] at hrun
  exact parse_eq_ok_iff.2 ⟨last, request.extra, _, hrun, hsettled, states.complete env⟩

/-- A request that is not easily written: a codec that looks like a flag, a serial with an equals
sign, and extra arguments that look like those of the program. -/
def oddRequest : Request where
  serial := some "=a="
  videoCodec := some "--json"
  maxSize := some 0
  noAudio := true
  bridge := ⟨"-"⟩
  extra := ["--", "-h"]

/-- It is read from one of its spellings, in an environment with other paths. -/
theorem every_spelling_is_read_odd :
    oddRequest.bridge.text ≠ "" ∧ oddRequest.castTool.text ≠ "" ∧
    parse { bridge := some "", castTool := some "other" }
      ["--adb=-", "-n", "--video-codec=--json", "-m", "0", "--scrcpy", "scrcpy", "-s", "=a=",
        "--", "--", "-h"] = .ok oddRequest := by
  have hwritten : List.Forall₂ Written
      [.set (.bridge ⟨"-"⟩), .on .noAudio, .set (.videoCodec "--json"), .set (.maxSize 0),
        .set (.castTool ⟨"scrcpy"⟩), .set (.serial "=a=")]
      [["--adb=-"], ["-n"], ["--video-codec=--json"], ["-m", "0"], ["--scrcpy", "scrcpy"],
        ["-s", "=a="]] :=
    .cons (.attached (.bridge ⟨"-"⟩)) <|
    .cons (.on .noAudio (.short rfl)) <|
    .cons (.attached (.videoCodec "--json")) <|
    .cons (.apart (.maxSize 0) (.short rfl) (by decide)) <|
    .cons (.apart (.castTool ⟨"scrcpy"⟩) .long (by decide)) <|
    .cons (.apart (.serial "=a=") (.short rfl) (by decide)) .nil
  refine ⟨by decide, by decide, ?_⟩
  exact (every_spelling_is_read oddRequest (by decide) (by decide)).2 _ _
    (.intro (.inr (by decide)) hwritten (.dashes _))

end Screencast.CommandLine
