import Mathlib
import Screencast.Device.Listing
import Screencast.Pattern.Meaning
import Screencast.Proofs.Pattern.Find
import Screencast.Proofs.Text.Utf8
import Screencast.Proofs.Text.Words

/-!
What a line of the listing reports, in terms of its words. The patterns take as many characters as
they can and give some back where the rest does not fit; here it is shown what comes of that: the
first pattern fits the lines whose second word is the word for a device that can be used and whose
fields stand on one line, and the second one finds the first field that names a model.
-/

namespace Screencast.Listing

open Pattern Text

/-! ### The patterns in writing -/

theorem ofText_readyLine : Pattern.ofText "^(\\S+)\\s+device(?:\\s+(.*))?$" = .ok readyLine := by
  cbv

theorem ofText_modelField : Pattern.ofText "(?:^|\\s)model:(\\S+)" = .ok modelField := by
  cbv

/-! ### Sets of characters -/

section Sets

variable {α : Type} (number : Nat)

lemma contains_whiteSpace (c : Char) :
    (⟨Property.whiteSpace⟩ : CharSet).contains c = isBlank c := by
  rw [Bool.eq_iff_iff]
  simp only [CharSet.contains, within, Property.whiteSpace, isBlank, List.any_cons, List.any_nil,
    Bool.or_false, Bool.or_eq_true, Bool.and_eq_true, decide_eq_true_eq, beq_iff_eq]
  omega

lemma fit_blank : (ofSet false blank).fit number =
    fun progress (next : Progress → Option α) => progress.char isBlank next := by
  have hset : ofSet false blank = .oneOf ⟨Property.whiteSpace⟩ false := by cbv
  rw [hset]
  funext progress next
  unfold fit
  congr 1
  exact funext contains_whiteSpace

lemma fit_notBlank : (ofSet false blank.complement).fit number =
    fun progress (next : Progress → Option α) => progress.char (fun c => !isBlank c) next := by
  have hset : ofSet false blank.complement =
      .oneOf ⟨[(0, 8), (14, 31), (33, 132), (134, 159), (161, 5759), (5761, 8191), (8203, 8231),
        (8234, 8238), (8240, 8286), (8288, 12287), (12289, 55295), (57344, 1114111)]⟩ false := by
    cbv
  rw [hset]
  funext progress next
  unfold fit
  congr 1
  funext c
  have hc := toNat_lt_or c
  rw [Bool.eq_iff_iff]
  simp only [CharSet.contains, within, isBlank, List.any_cons, List.any_nil, Bool.or_false,
    Bool.or_eq_true, Bool.and_eq_true, decide_eq_true_eq, Bool.not_eq_true',
    Bool.or_eq_false_iff, Bool.and_eq_false_iff, decide_eq_false_iff_not, beq_eq_false_iff_ne]
  omega

lemma fit_notBreak : (ofSet false (CharSet.single '\n').complement).fit number =
    fun progress (next : Progress → Option α) => progress.char (· != '\n') next := by
  have hset : ofSet false (CharSet.single '\n').complement =
      .oneOf ⟨[(0, 9), (11, 55295), (57344, 1114111)]⟩ false := by
    cbv
  rw [hset]
  funext progress next
  unfold fit
  congr 1
  funext c
  have hc := toNat_lt_or c
  have hbreak : c = '\n' ↔ c.toNat = 10 := Char.toNat_inj.symm
  rw [Bool.eq_iff_iff]
  simp only [CharSet.contains, within, List.any_cons, List.any_nil, Bool.or_false,
    Bool.or_eq_true, Bool.and_eq_true, decide_eq_true_eq, bne_iff_ne, ne_eq, hbreak]
  omega

end Sets

lemma groupCount_ofSet (ascii : Bool) (chars : CharSet) : (ofSet ascii chars).groupCount = 0 := by
  unfold ofSet
  dsimp only
  split <;> rfl

lemma groupCount_word : word.groupCount = 0 := groupCount_ofSet ..

lemma groupCount_space : space.groupCount = 0 := groupCount_ofSet ..

/-! ### The parts of a line -/

section Parts

variable {α : Type} {number : Nat} {progress : Progress} {next : Progress → Option α}

/-- A word is taken whole, if its end helps what follows no more than a place inside it does. -/
lemma fit_word (hnext : next (progress.past (firstWord progress.spot.rest)
        (progress.spot.rest.dropWhile fun c => !isBlank c)) = none →
      ∀ (reached : Progress) (c : Char) (rest : List Char),
        reached.spot.rest = c :: rest → isBlank c = false → next reached = none) :
    word.fit number progress next =
      if firstWord progress.spot.rest = [] then none
      else next (progress.past (firstWord progress.spot.rest)
        (progress.spot.rest.dropWhile fun c => !isBlank c)) := by
  refine fit_times_one (fit_notBlank number) (firstWord_append_dropWhile _).symm
    (fun c hc => by simp [not_isBlank_of_mem_firstWord hc])
    (fun c hc => by simp [isBlank_of_head?_dropWhile hc]) ?_
  intro hnone before c after e
  have hmem : c ∈ firstWord progress.spot.rest := by simp [e]
  exact hnext hnone _ c _ rfl (not_isBlank_of_mem_firstWord hmem)

/-- The blanks between two words are taken whole where the next word does not begin with one. -/
lemma fit_space (hnext : ∀ (reached : Progress) (c : Char) (rest : List Char),
      reached.spot.rest = c :: rest → isBlank c = true → next reached = none) :
    space.fit number progress next =
      if progress.spot.rest.takeWhile isBlank = [] then none
      else next (progress.past (progress.spot.rest.takeWhile isBlank)
        (progress.spot.rest.dropWhile isBlank)) := by
  refine fit_times_one (fit_blank number) List.takeWhile_append_dropWhile.symm
    (fun c hc => List.mem_takeWhile_imp hc) ?_ ?_
  · intro c hc
    have := List.head?_dropWhile_not isBlank progress.spot.rest
    rw [hc] at this
    simpa using this
  · intro _ before c after e
    have hmem : c ∈ progress.spot.rest.takeWhile isBlank := by simp [e]
    exact hnext _ c _ rfl (List.mem_takeWhile_imp hmem)

lemma fit_space_eq_none (h : ∀ c, progress.spot.rest.head? = some c → isBlank c = false) :
    space.fit number progress next = none := by
  unfold space fit
  rw [fit_blank]
  simp only [repeatExactly]
  exact Progress.char_eq_none h

lemma fit_capture_word (hnext : next (progress.remember number (firstWord progress.spot.rest)
        (progress.spot.rest.dropWhile fun c => !isBlank c)) = none →
      ∀ (reached : Progress) (c : Char) (rest : List Char),
        reached.spot.rest = c :: rest → isBlank c = false → next reached = none) :
    (capture word).fit number progress next =
      if firstWord progress.spot.rest = [] then none
      else next (progress.remember number (firstWord progress.spot.rest)
        (progress.spot.rest.dropWhile fun c => !isBlank c)) := by
  unfold fit
  exact fit_word fun hnone reached c rest hr hc => hnext hnone _ c rest hr hc

lemma fit_textEnd : (look .textEnd).fit number progress next =
    if progress.spot.rest = [] then next progress else none := by
  unfold fit
  cases h : progress.spot.rest <;> simp [Look.holds, Spot.gap, h]

/-- The rest of the line reaches the end of the text where no line break is left. -/
lemma fit_restOfLine (hnext : ∀ reached : Progress, reached.spot.rest ≠ [] → next reached = none) :
    restOfLine.fit number progress next =
      if '\n' ∈ progress.spot.rest then none else next (progress.past progress.spot.rest []) := by
  have hfit : restOfLine.fit number progress next =
      next (progress.past (progress.spot.rest.takeWhile (· != '\n'))
        (progress.spot.rest.dropWhile (· != '\n'))) := by
    refine fit_times_zero (fit_notBreak number) List.takeWhile_append_dropWhile.symm
      (fun c hc => (List.mem_takeWhile_imp hc :)) ?_ ?_
    · intro c hc
      have := List.head?_dropWhile_not (· != '\n') progress.spot.rest
      rw [hc] at this
      simpa using this
    · intro _ before c after _
      exact hnext _ (by simp)
  rw [hfit]
  split
  · next hbreak =>
    refine hnext _ fun hnil => ?_
    have := List.dropWhile_eq_nil_iff.1 hnil '\n' hbreak
    simp at this
  · next hbreak =>
    have hall : ∀ c ∈ progress.spot.rest, (c != '\n') = true := by
      intro c hc
      have hne : c ≠ '\n' := fun e => hbreak (e ▸ hc)
      simpa using hne
    rw [List.dropWhile_eq_nil_iff.2 hall, List.takeWhile_eq_self_iff.2 hall]

/-- The fields are remembered where they reach the end of the text. -/
lemma fit_capture_restOfLine
    (hnext : ∀ reached : Progress, reached.spot.rest ≠ [] → next reached = none) :
    (capture restOfLine).fit number progress next =
      if '\n' ∈ progress.spot.rest then none
      else next (progress.remember number progress.spot.rest []) := by
  unfold fit
  exact fit_restOfLine fun reached hne => hnext _ hne

/-- The optional part of a line: nothing is left, or fields stand behind blanks and on one line. -/
lemma fit_fields (hmore : ∀ reached : Progress, reached.spot.rest ≠ [] → next reached = none)
    (hend : ∀ reached : Progress, reached.spot.rest = [] → next reached ≠ none) :
    (times 0 (some 1) false (.seq space (.capture restOfLine))).fit number progress next =
      if progress.spot.rest = [] then next progress
      else if firstWord progress.spot.rest = [] ∧ '\n' ∉ progress.spot.rest.dropWhile isBlank then
        next ((progress.past (progress.spot.rest.takeWhile isBlank)
          (progress.spot.rest.dropWhile isBlank)).remember number
            (progress.spot.rest.dropWhile isBlank) [])
      else none := by
  have hspace : (seq space (capture restOfLine)).fit number progress next =
      if progress.spot.rest.takeWhile isBlank = [] then none
      else (capture restOfLine).fit number (progress.past (progress.spot.rest.takeWhile isBlank)
        (progress.spot.rest.dropWhile isBlank)) next := by
    rw [fit_seq, groupCount_space]
    refine fit_times_one (fit_blank number) List.takeWhile_append_dropWhile.symm
      (fun c hc => List.mem_takeWhile_imp hc) ?_ ?_
    · intro c hc
      have := List.head?_dropWhile_not isBlank progress.spot.rest
      rw [hc] at this
      simpa using this
    · -- blanks that are given back become a part of the fields and take no line break away
      intro hnone before c after _
      rw [Nat.add_zero, fit_capture_restOfLine hmore, Progress.rest_past] at hnone ⊢
      rw [if_pos]
      by_contra hbreak
      rw [if_neg fun h => hbreak (List.mem_append_right _ h)] at hnone
      exact hend _ rfl hnone
  have hopt : (times 0 (some 1) false (.seq space (.capture restOfLine))).fit number progress next =
      ((seq space (capture restOfLine)).fit number progress next <|> next progress) := by
    conv_lhs => unfold fit
    simp only [repeatExactly, repeatUpTo, Nat.sub_zero, ite_self, Bool.false_eq_true, if_false]
  rw [hopt, hspace, fit_capture_restOfLine hmore]
  cases hrest : progress.spot.rest with
  | nil => simp
  | cons c cs =>
    rw [hmore progress (by simp [hrest])]
    cases hc : isBlank c <;> simp [firstWord, hc]

end Parts

/-! ### The line of a device -/

/-- The text reports a device that can be used: its second word says so, and the fields behind it
stand on one line. -/
def Reports (text : List Char) : Prop :=
  firstWord text ≠ [] ∧ firstWord (afterFirstWord text) = ready ∧
    '\n' ∉ afterFirstWord (afterFirstWord text)

instance (text : List Char) : Decidable (Reports text) := by unfold Reports; infer_instance

lemma isBlank_of_mem_ready {c : Char} (h : c ∈ ready) : isBlank c = false := by
  have hall : (ready.all fun c => !isBlank c) = true := by decide
  simpa using List.all_eq_true.1 hall c h

/-- The second word says that the device can be used where it is that word and nothing more. -/
lemma firstWord_eq_ready_iff {text : List Char} :
    firstWord text = ready ↔ ∃ rest, text = ready ++ rest ∧ firstWord rest = [] := by
  have happend : ∀ rest, firstWord (ready ++ rest) = ready ++ firstWord rest := fun rest =>
    List.takeWhile_append_of_pos fun c hc => by simp [isBlank_of_mem_ready hc]
  constructor
  · intro h
    refine ⟨text.dropWhile fun c => !isBlank c, ?_, ?_⟩
    · conv_lhs => rw [← firstWord_append_dropWhile text, h]
    · have hrest := happend (text.dropWhile fun c => !isBlank c)
      rw [← h, firstWord_append_dropWhile] at hrest
      simpa using hrest
  · rintro ⟨rest, rfl, hrest⟩
    rw [happend, hrest, List.append_nil]

lemma afterFirstWord_ready_append {rest : List Char} (h : firstWord rest = []) :
    afterFirstWord (ready ++ rest) = rest.dropWhile isBlank := by
  have hrest : rest.dropWhile (fun c => !isBlank c) = rest := by
    conv_rhs => rw [← firstWord_append_dropWhile rest, h]
    rfl
  unfold afterFirstWord
  rw [List.dropWhile_append_of_pos fun c hc => by simp [isBlank_of_mem_ready hc], hrest]

/-- How the pattern for a line goes over the first word and the blanks behind it. -/
lemma find_readyLine (line : String) :
    readyLine.find line =
      if firstWord line.toList = [] then none
      else
        let first := (Progress.mk ⟨0, none, line.toList⟩ []).remember 1 (firstWord line.toList)
          (line.toList.dropWhile fun c => !isBlank c)
        if first.spot.rest.takeWhile isBlank = [] then none
        else
          (first.past (first.spot.rest.takeWhile isBlank) (first.spot.rest.dropWhile isBlank)).string
            ready fun reached =>
              (times 0 (some 1) false (.seq space (.capture restOfLine))).fit 2 reached fun stop =>
                (look .textEnd).fit 3 stop fun stop => some ⟨stop.groups⟩ := by
  have hspace : ∀ (number : Nat) (reached : Progress) (c : Char) (rest : List Char)
      (next : Progress → Option Match),
      reached.spot.rest = c :: rest → isBlank c = false → space.fit number reached next = none := by
    intro number reached c rest next hr hc
    refine fit_space_eq_none fun d hd => ?_
    rw [hr] at hd
    obtain rfl : c = d := by simpa using hd
    exact hc
  have hready : ∀ (reached : Progress) (c : Char) (rest : List Char)
      (next : Progress → Option Match),
      reached.spot.rest = c :: rest → isBlank c = true → reached.string ready next = none := by
    intro reached c rest next hr hc
    refine Progress.string_eq_none fun hp => ?_
    rw [hr] at hp
    obtain rfl : 'd' = c := (List.cons_prefix_cons.1 hp).1
    exact absurd hc (by decide)
  change (seq (look .textStart) (seq (capture word) (seq space (seq (string ready)
    (seq _ (look .textEnd)))))).find line = _
  rw [find_of_textStart, fit_seq, fit_capture_word]
  · congr 1
    rw [fit_seq]
    simp only [groupCount, groupCount_word, groupCount_space]
    rw [fit_space]
    · rfl
    · intro reached c rest hr hc
      rw [fit_seq]
      unfold fit
      exact hready reached c rest _ hr hc
  · intro _ reached c rest hr hc
    rw [fit_seq]
    exact hspace _ reached c rest _ hr hc

lemma fit_last {stop : Progress} :
    ((look .textEnd).fit 3 stop fun stop => some (Match.mk stop.groups)) =
      if stop.spot.rest = [] then some ⟨stop.groups⟩ else none := fit_textEnd

/-- **The pattern fits no line but those that report a device.** -/
theorem find_readyLine_eq_none {line : String} (h : ¬ Reports line.toList) :
    readyLine.find line = none := by
  rw [find_readyLine]
  split
  · rfl
  next hword =>
  dsimp only
  split
  · rfl
  rw [Progress.rest_remember]
  by_cases hready : ready <+: afterFirstWord line.toList
  · obtain ⟨rest, hrest⟩ := hready
    have hfields : ¬ (firstWord rest = [] ∧ '\n' ∉ rest.dropWhile isBlank) := by
      rintro ⟨hfirst, hbreak⟩
      refine h ⟨hword, firstWord_eq_ready_iff.2 ⟨rest, hrest.symm, hfirst⟩, ?_⟩
      rwa [← hrest, afterFirstWord_ready_append hfirst]
    have hne : rest ≠ [] := by
      rintro rfl
      exact hfields ⟨rfl, by simp⟩
    rw [Progress.string_append hrest.symm, fit_fields, Progress.rest_past, if_neg hne,
      if_neg hfields]
    · intro reached hmore
      rw [fit_last, if_neg hmore]
    · intro reached hend
      rw [fit_last, if_pos hend]
      exact Option.some_ne_none _
  · exact Progress.string_eq_none hready

/-- **The pattern fits the lines that report a device**, and finds the serial and the fields. -/
theorem exists_find_readyLine {line : String} (h : Reports line.toList) :
    ∃ found, readyLine.find line = some found ∧
      found.group? 1 = some (String.ofList (firstWord line.toList)) ∧
      (found.group? 2 = none ∧ afterFirstWord (afterFirstWord line.toList) = [] ∨
        found.group? 2 = some (String.ofList (afterFirstWord (afterFirstWord line.toList)))) := by
  obtain ⟨hword, hstate, hbreak⟩ := h
  obtain ⟨rest, hrest, hfirst⟩ := firstWord_eq_ready_iff.1 hstate
  have hfields : afterFirstWord (afterFirstWord line.toList) = rest.dropWhile isBlank := by
    rw [hrest, afterFirstWord_ready_append hfirst]
  rw [hfields] at hbreak ⊢
  have hgap : (line.toList.dropWhile fun c => !isBlank c).takeWhile isBlank ≠ [] := by
    intro hnil
    have happ := List.takeWhile_append_dropWhile (p := isBlank)
      (l := line.toList.dropWhile fun c => !isBlank c)
    rw [hnil, List.nil_append] at happ
    have hd : (line.toList.dropWhile fun c => !isBlank c).head? = some 'd' := by
      rw [← happ]
      change (afterFirstWord line.toList).head? = some 'd'
      rw [hrest]
      rfl
    exact absurd (isBlank_of_head?_dropWhile hd) (by decide)
  rw [find_readyLine, if_neg hword]
  dsimp only
  rw [Progress.rest_remember, if_neg hgap, Progress.string_append hrest, fit_fields]
  · rw [Progress.rest_past]
    have hserial : Match.group? ⟨(Progress.remember ⟨⟨0, none, line.toList⟩, []⟩ 1
        (firstWord line.toList) (line.toList.dropWhile fun c => !isBlank c)).groups⟩ 1 =
          some (String.ofList (firstWord line.toList)) :=
      group?_remember (firstWord_append_dropWhile line.toList).symm
    by_cases hnil : rest = []
    · rw [if_pos hnil, fit_last, Progress.rest_past, if_pos hnil]
      exact ⟨_, rfl, hserial, .inl ⟨rfl, by rw [hnil]; rfl⟩⟩
    · rw [if_neg hnil, if_pos ⟨hfirst, hbreak⟩, fit_last, Progress.rest_remember, if_pos rfl]
      refine ⟨_, rfl, ?_, .inr (group?_remember (by rw [Progress.rest_past, List.append_nil]))⟩
      rw [group?_remember_of_ne (by decide)]
      exact hserial
  · intro reached hmore
    rw [fit_last, if_neg hmore]
  · intro reached hend
    rw [fit_last, if_pos hend]
    exact Option.some_ne_none _

/-! ### The field of the model -/

/-- The model that a word names: what stands behind the mark, if anything does. -/
def modelOf? : List Char → Option String
  | 'm' :: 'o' :: 'd' :: 'e' :: 'l' :: ':' :: c :: cs => some (String.ofList (c :: cs))
  | _ => none

lemma modelOf?_append (name : List Char) :
    modelOf? (modelMark ++ name) = if name = [] then none else some (String.ofList name) := by
  cases name <;> rfl

lemma modelOf?_eq_none {word : List Char} (h : ¬ modelMark <+: word) : modelOf? word = none := by
  unfold modelOf?
  split
  · exact absurd ⟨_, rfl⟩ h
  · rfl

lemma firstWord_mark_append (rest : List Char) :
    firstWord (modelMark ++ rest) = modelMark ++ firstWord rest := by
  have hall : (modelMark.all fun c => !isBlank c) = true := by decide
  exact List.takeWhile_append_of_pos (List.all_eq_true.1 hall)

section Field

/-- Fits what follows the beginning of a word in the pattern for the model. -/
def fitModel (progress : Progress) : Option Match :=
  progress.string modelMark fun reached =>
    (capture word).fit 1 reached fun stop => some ⟨stop.groups⟩

/-- Where a word begins, the pattern fits if the word names a model, and finds the name. -/
lemma fitModel_cases (progress : Progress) :
    fitModel progress = none ∧ modelOf? (firstWord progress.spot.rest) = none ∨
      ∃ found name, fitModel progress = some found ∧ found.group? 1 = some name ∧
        modelOf? (firstWord progress.spot.rest) = some name := by
  by_cases hmark : modelMark <+: progress.spot.rest
  · obtain ⟨rest, hrest⟩ := hmark
    have hfit : fitModel progress = if firstWord rest = [] then none
        else some ⟨((progress.past modelMark rest).remember 1 (firstWord rest)
          (rest.dropWhile fun c => !isBlank c)).groups⟩ := by
      unfold fitModel
      rw [Progress.string_append hrest.symm, fit_capture_word, Progress.rest_past]
      exact fun hnone => absurd hnone (Option.some_ne_none _)
    rw [hfit, ← hrest, firstWord_mark_append, modelOf?_append]
    by_cases hname : firstWord rest = []
    · exact .inl ⟨if_pos hname, if_pos hname⟩
    · refine .inr ⟨_, _, if_neg hname, group?_remember ?_, if_neg hname⟩
      exact (firstWord_append_dropWhile rest).symm
  · refine .inl ⟨Progress.string_eq_none hmark, modelOf?_eq_none fun h => hmark ?_⟩
    exact h.trans (List.takeWhile_prefix _)

lemma fit_modelField (progress : Progress) :
    (modelField.fit 1 progress fun stop => some (Match.mk stop.groups)) =
      (if progress.spot.before = none then fitModel progress else none).or
        (progress.char isBlank fitModel) := by
  have hmodel : ∀ reached : Progress,
      (seq (.string modelMark) (.capture word)).fit 1 reached
        (fun stop => some (Match.mk stop.groups)) = fitModel reached := by
    intro reached
    rw [fit_seq]
    conv_lhs => unfold fit
    rfl
  change (seq (.alt (.look .textStart) (ofSet false blank))
    (seq (.string modelMark) (.capture word))).fit 1 progress _ = _
  rw [fit_seq]
  simp only [groupCount, groupCount_ofSet, Nat.add_zero, hmodel]
  conv_lhs => unfold fit
  rw [fit_blank, Option.orElse_eq_orElse, Option.orElse_eq_or]
  congr 1
  unfold fit
  cases hbefore : progress.spot.before <;> simp [Look.holds, Spot.gap, hbefore]

/-- The first of some texts that names a model, with its first word, and then the others. -/
lemma fitModel_or (progress : Progress) (later : Option Match) :
    ((fitModel progress).or later).bind (·.group? 1) =
      (modelOf? (firstWord progress.spot.rest)).or (later.bind (·.group? 1)) := by
  rcases fitModel_cases progress with ⟨hfit, hname⟩ | ⟨found, name, hfit, hgroup, hname⟩
  · rw [hfit, hname, Option.none_or, Option.none_or]
  · rw [hfit, hname, Option.some_or, Option.some_or]
    exact hgroup

lemma tail_cutAt_cons {c : Char} (text : List Char) (hc : isBlank c = false) :
    (cutAt isBlank (c :: text)).tail = (cutAt isBlank text).tail := by
  obtain ⟨piece, pieces, e⟩ := List.exists_cons_of_ne_nil (cutAt_ne_nil isBlank text)
  rw [cutAt_cons_of_neg hc e, e]
  rfl

lemma findSome?_cutAt (text : List Char) :
    (cutAt isBlank text).findSome? modelOf? =
      (modelOf? (firstWord text)).or ((cutAt isBlank text).tail.findSome? modelOf?) := by
  obtain ⟨piece, pieces, e⟩ := List.exists_cons_of_ne_nil (cutAt_ne_nil isBlank text)
  have hpiece : firstWord text = piece := by
    have := head?_cutAt (p := isBlank) text
    rw [e] at this
    exact (Option.some.inj this).symm
  rw [e, hpiece, List.findSome?_cons, List.tail_cons]
  cases modelOf? piece <;> rfl

/-- Behind some character the pattern finds the first word that names a model and begins behind a
blank. -/
lemma findFrom_modelField (index : Nat) (before : Char) (text : List Char) :
    (modelField.findFrom index (some before) text).bind (·.group? 1) =
      (cutAt isBlank text).tail.findSome? modelOf? := by
  induction text generalizing index before with
  | nil =>
    unfold findFrom
    rw [fit_modelField]
    rfl
  | cons c text ih =>
    rw [findFrom_cons, fit_modelField, if_neg (Option.some_ne_none _), Option.none_or]
    cases hc : isBlank c with
    | false =>
      rw [Progress.char_eq_none (by simpa using hc), Option.none_or, ih, tail_cutAt_cons text hc]
    | true =>
      rw [Progress.char_cons rfl hc, fitModel_or, Progress.rest_past, ih, cutAt_cons_of_pos hc,
        List.tail_cons, findSome?_cutAt]

lemma findSome?_words (text : List Char) :
    (words text).findSome? modelOf? = (cutAt isBlank text).findSome? modelOf? := by
  unfold words
  induction cutAt isBlank text with
  | nil => rfl
  | cons piece pieces ih =>
    cases piece with
    | nil => exact ih
    | cons c cs => rw [List.filter_cons_of_pos rfl, List.findSome?_cons, List.findSome?_cons, ih]

/-- **The pattern for the model finds the first word that names one.** -/
theorem find_modelField (text : String) :
    (modelField.find text).bind (·.group? 1) = (words text.toList).findSome? modelOf? := by
  rw [findSome?_words]
  unfold find
  cases text.toList with
  | nil =>
    unfold findFrom
    rw [fit_modelField]
    rfl
  | cons c rest =>
    rw [findFrom_cons, fit_modelField, if_pos rfl, Option.or_assoc, fitModel_or, findSome?_cutAt]
    congr 1
    -- the rest of the text is gone through as behind any other character
    have hrest := findFrom_modelField 0 c (c :: rest)
    rw [findFrom_cons, fit_modelField, if_neg (Option.some_ne_none _), Option.none_or] at hrest
    exact hrest

end Field

end Screencast.Listing
