import Screencast.Proofs.CommandLine.Item
import Screencast.Proofs.CommandLine.Scan

/-!
Where the serial of a request comes from. It stands in the words before the double dash, behind the
flag for it: no other word and nothing in the environment is ever taken for it.
-/

namespace Screencast.CommandLine

/-! ### What a word was made of -/

lemma Flag.name_of_ofName? {name : String} {flag : Flag} (h : Flag.ofName? name = some flag) :
    flag.name = name := by
  simpa using List.find?_some h

lemma Flag.letter_of_ofLetter? {letter : Char} {flag : Flag}
    (h : Flag.ofLetter? letter = some flag) : flag.letter? = some letter := by
  simpa using List.find?_some h

/-- The parts of a text around its first equals sign make up the text. -/
lemma eq_of_splitEquals (cs : List Char) :
    cs = (splitEquals cs).1.toList ++
      ((splitEquals cs).2.map fun value => '=' :: value.toList).getD [] := by
  have hparts : cs.takeWhile (· ≠ '=') ++ cs.dropWhile (· ≠ '=') = cs :=
    List.takeWhile_append_dropWhile
  unfold splitEquals
  split
  · next hnil =>
    rw [String.toList_ofList]
    exact (List.append_nil cs).symm
  · next c value hrest =>
    have hc : c = '=' := by
      have := List.head?_dropWhile_not (fun c => decide (c ≠ '=')) cs
      rw [hrest] at this
      simpa using this
    rw [hrest, hc] at hparts
    simp only [Option.map_some, Option.getD_some, String.toList_ofList]
    exact hparts.symm

lemma Word.toList_of_long {word name : String} {value? : Option String}
    (h : Word.ofString word = .long name value?) :
    word.toList = "--".toList ++ (name.toList ++
      (value?.map fun value => '=' :: value.toList).getD []) := by
  unfold Word.ofString at h
  split at h
  · cases h
  · next body _ hword =>
    cases h
    rw [hword, ← eq_of_splitEquals body]
    rfl
  · cases h
  · cases h

lemma Word.toList_of_short {word : String} {letters : List Char}
    (h : Word.ofString word = .short letters) : word.toList = '-' :: letters ∧ letters ≠ [] := by
  unfold Word.ofString at h
  split at h
  · cases h
  · cases h
  · next letter letters _ _ hword =>
    cases h
    exact ⟨hword, List.cons_ne_nil _ _⟩
  · cases h

/-! ### The ways to give a serial -/

/-- The letters of switches. -/
def AreSwitches (letters : List Char) : Prop :=
  ∀ letter ∈ letters, ∃ switch : Switch, switch.letter? = some letter

/-- A word that leaves the serial to the next word. -/
inductive OpensSerial : String → Prop
  | long : OpensSerial "--serial"
  | short {word : String} {letters : List Char} (switches : AreSwitches letters)
    (word_eq : word.toList = '-' :: (letters ++ ['s'])) : OpensSerial word

/-- A word that holds the serial behind the flag for it. -/
inductive HoldsSerial : String → String → Prop
  | long {word serial : String} (word_eq : word.toList = "--serial=".toList ++ serial.toList) :
    HoldsSerial word serial
  | short {word serial : String} {letters : List Char} (switches : AreSwitches letters)
    (word_eq : word.toList = '-' :: (letters ++ 's' :: serial.toList)) : HoldsSerial word serial
  | equals {word serial : String} {letters : List Char} (switches : AreSwitches letters)
    (word_eq : word.toList = '-' :: (letters ++ 's' :: '=' :: serial.toList)) :
    HoldsSerial word serial

/-- Words that give a serial, in one word or in two that follow each other. -/
inductive GivesSerial : List String → String → Prop
  | attached {words : List String} {word serial : String} (mem : word ∈ words)
    (holds : HoldsSerial word serial) : GivesSerial words serial
  | apart {word : String} (before after : List String) (serial : String)
    (opens : OpensSerial word) : GivesSerial (before ++ word :: serial :: after) serial

lemma GivesSerial.append {words : List String} {serial : String} (h : GivesSerial words serial)
    (more : List String) : GivesSerial (words ++ more) serial := by
  cases h with
  | attached mem holds => exact .attached (List.mem_append_left _ mem) holds
  | apart before after serial opens =>
    rw [List.append_assoc]
    exact .apart before (after ++ more) serial opens

/-! ### What a scan owes to its words -/

/-- The serial that a scan has set or is about to set is given by the words read so far, and one
that it waits for is asked for by the last of them. -/
structure Traces (words : List String) (scan : Scan) : Prop where
  set : ∀ serial, scan.draft.serial = some serial → GivesSerial words serial
  awaits : scan.pending = .awaiting .serial →
    ∃ before word, words = before ++ [word] ∧ OpensSerial word
  given : ∀ serial, scan.pending = .given .serial serial → GivesSerial words serial

/-- A text for another setting leaves the serial as it is. -/
lemma Draft.serial_of_assign {draft next : Draft} {setting : Setting} {text : String}
    (h : draft.assign setting text = .ok next) (hne : setting ≠ .serial) :
    next.serial = draft.serial := by
  rw [assign_eq_map_read] at h
  obtain ⟨value, hread, rfl⟩ := Text.map_eq_ok_iff.1 h
  have hvalue : value.setting ≠ .serial := setting_of_read hread ▸ hne
  cases value with
  | serial => exact absurd rfl hvalue
  | videoCodec | maxSize | maxFps | keyboard | bridge | castTool => rfl

lemma Draft.serial_of_set {draft next : Draft} {setting : Setting} {text serial : String}
    (h : draft.set setting text = .ok next) (hserial : next.serial = some serial) :
    setting = .serial ∧ text = serial ∨ draft.serial = some serial := by
  unfold Draft.set at h
  split at h
  · cases h
  · by_cases hsetting : setting = .serial
    · subst hsetting
      cases h
      exact .inl ⟨rfl, Option.some.inj hserial⟩
    · rw [serial_of_assign h hsetting] at hserial
      exact .inr hserial

lemma Draft.serial_of_switch {draft next : Draft} {switch : Switch}
    (h : draft.switch switch = .ok next) : next.serial = draft.serial := by
  unfold Draft.switch at h
  split at h
  · cases h
  · cases h
    cases switch <;> rfl

namespace Traces

variable {words rest extra : List String} {word : String} {scan next : Scan}

/-- What is settled is given by the words. -/
lemma settle {draft : Draft} (h : Traces words scan) (hsettle : scan.settle = .ok draft)
    {serial : String} (hserial : draft.serial = some serial) : GivesSerial words serial := by
  unfold Scan.settle at hsettle
  cases hpending : scan.pending with
  | nothing =>
    rw [hpending] at hsettle
    obtain rfl := Except.ok.inj hsettle
    exact h.set serial hserial
  | awaiting setting =>
    rw [hpending] at hsettle
    cases hsettle
  | given setting text =>
    rw [hpending] at hsettle
    rcases Draft.serial_of_set hsettle hserial with ⟨rfl, rfl⟩ | hset
    · exact h.given text hpending
    · exact h.set serial hset

/-- One more word leaves what nothing is pending of. -/
lemma append (h : Traces words scan) (hpending : scan.pending = .nothing) (word : String) :
    Traces (words ++ [word]) scan where
  set serial hserial := (h.set serial hserial).append [word]
  awaits hawaits := by
    rw [hpending] at hawaits
    cases hawaits
  given serial hgiven := by
    rw [hpending] at hgiven
    cases hgiven

/-! ### One word -/

lemma flip (h : Traces words scan) {switch : Switch} (hflip : scan.flip switch = .ok next) :
    Traces words next ∧ next.pending = .nothing := by
  unfold Scan.flip at hflip
  split at hflip
  · next draft hdraft =>
    obtain rfl := Except.ok.inj hflip
    obtain ⟨settled, hsettle, hswitch⟩ := bind_eq_ok_iff.1 hdraft
    refine ⟨⟨?_, nofun, nofun⟩, rfl⟩
    intro serial hserial
    rw [Draft.serial_of_switch hswitch] at hserial
    exact h.settle hsettle hserial
  · cases hflip

lemma await (h : Traces words scan) {setting : Setting} (hawait : scan.await setting = .ok next)
    (hopens : setting = .serial → OpensSerial word) : Traces (words ++ [word]) next := by
  unfold Scan.await at hawait
  split at hawait
  · next draft hsettle =>
    obtain rfl := Except.ok.inj hawait
    refine ⟨fun serial hserial => (h.settle hsettle hserial).append [word], ?_, nofun⟩
    intro hpending
    exact ⟨words, word, rfl, hopens (Pending.awaiting.inj hpending)⟩
  · cases hawait

lemma assign (h : Traces words scan) {setting : Setting} {text : String}
    (hassign : scan.assign setting text = .ok next)
    (hholds : setting = .serial → HoldsSerial word text) : Traces (words ++ [word]) next := by
  unfold Scan.assign at hassign
  split at hassign
  · next draft hdraft =>
    obtain rfl := Except.ok.inj hassign
    obtain ⟨settled, hsettle, hset⟩ := bind_eq_ok_iff.1 hdraft
    refine ⟨?_, nofun, nofun⟩
    intro serial hserial
    rcases Draft.serial_of_set hset hserial with ⟨hsetting, rfl⟩ | hsettled
    · exact .attached (List.mem_append_right _ (List.mem_singleton_self word)) (hholds hsetting)
    · exact (h.settle hsettle hsettled).append [word]
  · cases hassign

/-- A word of its own is the serial where the word before it asks for one. -/
lemma plain (h : Traces words scan) (hplain : scan.plain word = .ok next) :
    Traces (words ++ [word]) next := by
  unfold Scan.plain at hplain
  split at hplain
  · next setting hpending =>
    obtain rfl := Except.ok.inj hplain
    refine ⟨fun serial hserial => (h.set serial hserial).append [word], nofun, ?_⟩
    intro serial hgiven
    obtain ⟨rfl, rfl⟩ := Pending.given.inj hgiven
    obtain ⟨before, opener, rfl, hopens⟩ := h.awaits hpending
    rw [List.append_assoc]
    exact .apart before [] _ hopens
  · cases hplain

lemma long (h : Traces words scan) {name : String} {value? : Option String}
    (hword : word.toList = "--".toList ++ (name.toList ++
      (value?.map fun value => '=' :: value.toList).getD []))
    (hlong : scan.long name value? = .ok next) : Traces (words ++ [word]) next := by
  unfold Scan.long at hlong
  split at hlong
  · cases hlong
  · next setting hname =>
    refine h.await hlong ?_
    rintro rfl
    obtain rfl := Flag.name_of_ofName? hname
    obtain rfl : word = "--serial" := String.toList_inj.1 hword
    exact .long
  · next setting value hname =>
    refine h.assign hlong ?_
    rintro rfl
    obtain rfl := Flag.name_of_ofName? hname
    exact .long hword
  · cases hlong
  · next switch hname =>
    obtain ⟨htraces, hpending⟩ := h.flip hlong
    exact htraces.append hpending word
  · cases hlong
  · cases hlong

/-- The letters of switches, and then one of a setting with its value. -/
lemma letters {done letters : List Char} (h : Traces words scan) (hdone : AreSwitches done)
    (hword : word.toList = '-' :: (done ++ letters))
    (hpending : letters = [] → scan.pending = .nothing)
    (hletters : scan.letters letters = .ok next) : Traces (words ++ [word]) next := by
  -- the letters that are done are switches, and behind one of them nothing is pending
  induction letters generalizing scan done with
  | nil =>
    obtain rfl := Except.ok.inj hletters
    exact h.append (hpending rfl) word
  | cons letter letters ih =>
    unfold Scan.letters at hletters
    split at hletters
    · cases hletters
    · next setting hletter =>
      have hopens : setting = .serial → letter = 's' := by
        rintro rfl
        exact (Option.some.inj (Flag.letter_of_ofLetter? hletter)).symm
      unfold Scan.attach at hletters
      split at hletters
      · refine h.await hletters fun hsetting => ?_
        rw [hopens hsetting] at hword
        exact .short hdone hword
      · next value =>
        refine h.assign hletters fun hsetting => ?_
        rw [hopens hsetting] at hword
        refine .equals hdone ?_
        rw [hword, String.toList_ofList]
      · refine h.assign hletters fun hsetting => ?_
        rw [hopens hsetting] at hword
        refine .short hdone ?_
        rw [hword, String.toList_ofList]
    · next switch hletter =>
      split at hletters
      · next flipped hflip =>
        obtain ⟨htraces, hnothing⟩ := h.flip hflip
        have hmore : AreSwitches (done ++ [letter]) := by
          intro c hc
          rcases List.mem_append.1 hc with hc | hc
          · exact hdone c hc
          · obtain rfl := List.mem_singleton.1 hc
            exact ⟨switch, Flag.letter_of_ofLetter? hletter⟩
        refine ih htraces hmore ?_ (fun _ => hnothing) hletters
        rw [hword, List.append_assoc, List.singleton_append]
      · cases hletters
    · cases hletters
    · cases hletters

/-- One word. -/
lemma read (h : Traces words scan) (hdashes : word ≠ "--") (hread : scan.read word = .ok next) :
    Traces (words ++ [word]) next := by
  unfold Scan.read at hread
  split at hread
  · next hending => exact absurd (Word.ofString_eq_ending_iff.1 hending) hdashes
  · next name value? hlong => exact h.long (Word.toList_of_long hlong) hread
  · next letters hshort =>
    obtain ⟨hword, hne⟩ := Word.toList_of_short hshort
    have hnone : AreSwitches [] := nofun
    exact h.letters hnone hword (fun hnil => absurd hnil hne) hread
  · exact h.plain hread

/-! ### All words -/

/-- The words up to the double dash. -/
lemma run {last : Scan} (h : Traces words scan) (hrun : scan.run rest = .ok (last, extra)) :
    Traces (words ++ rest.takeWhile (· ≠ "--")) last := by
  induction rest generalizing words scan with
  | nil =>
    cases hrun
    rw [List.takeWhile_nil, List.append_nil]
    exact h
  | cons word rest ih =>
    by_cases hdashes : word = "--"
    · subst hdashes
      cases hrun
      rw [List.takeWhile_cons_of_neg (by simp), List.append_nil]
      exact h
    · rw [Scan.run_cons_of_ne hdashes] at hrun
      obtain ⟨next, hread, hrun⟩ := bind_eq_ok_iff.1 hrun
      have hrest := ih (h.read hdashes hread) hrun
      rw [List.takeWhile_cons_of_pos (by simpa using hdashes)]
      rwa [List.append_assoc, List.singleton_append] at hrest

end Traces

end Screencast.CommandLine
