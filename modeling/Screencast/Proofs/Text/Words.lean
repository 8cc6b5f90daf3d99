import Mathlib.Data.List.TakeWhile
import Mathlib.Tactic.Common
import Screencast.Text.Blank

/-!
Pieces, words and blanks. A separator cuts a list into what the two sides are cut into, a text is
its first word and the words behind it, and the blanks around a text hold no word.
-/

namespace Screencast.Text

/-! ### Pieces -/

section Pieces

variable {α : Type} {p : α → Bool}

/-- A separator cuts a list in two. -/
theorem cutAt_append_cons {a : α} (h : p a = true) (as bs : List α) :
    cutAt p (as ++ a :: bs) = cutAt p as ++ cutAt p bs := by
  induction as with
  | nil => rw [List.nil_append, cutAt_cons_of_pos h]; rfl
  | cons b as ih =>
    rw [List.cons_append]
    cases hb : p b with
    | true => rw [cutAt_cons_of_pos hb, cutAt_cons_of_pos hb, ih]; rfl
    | false =>
      obtain ⟨piece, pieces, e⟩ := List.exists_cons_of_ne_nil (cutAt_ne_nil p as)
      rw [cutAt_cons_of_neg hb e]
      exact cutAt_cons_of_neg hb (by rw [ih, e]; rfl)

/-- A list without separators is one piece. -/
lemma cutAt_of_neg {as : List α} (h : ∀ a ∈ as, p a = false) : cutAt p as = [as] := by
  induction as with
  | nil => rfl
  | cons a as ih =>
    exact cutAt_cons_of_neg (h a (List.mem_cons_self ..))
      (ih fun b hb => h b (List.mem_cons_of_mem _ hb))

/-- The first piece goes up to the first separator. -/
lemma head?_cutAt (as : List α) : (cutAt p as).head? = some (as.takeWhile fun a => !p a) := by
  induction as with
  | nil => rfl
  | cons a as ih =>
    cases ha : p a with
    | true => rw [cutAt_cons_of_pos ha]; simp [ha]
    | false =>
      obtain ⟨piece, pieces, e⟩ := List.exists_cons_of_ne_nil (cutAt_ne_nil p as)
      rw [e] at ih
      rw [cutAt_cons_of_neg ha e]
      simpa [ha] using ih

/-- Cutting undoes joining, if no piece holds the separator. -/
theorem cut_join [BEq α] [LawfulBEq α] {sep : α} {piece : List α} {pieces : List (List α)}
    (h : ∀ as ∈ piece :: pieces, sep ∉ as) :
    cut sep (join [sep] (piece :: pieces)) = piece :: pieces := by
  have hpiece : ∀ as : List α, sep ∉ as → ∀ a ∈ as, (a == sep) = false := by
    intro as has a ha
    exact beq_false_of_ne fun e => has (e ▸ ha)
  induction pieces generalizing piece with
  | nil => exact cutAt_of_neg (hpiece piece (h piece (List.mem_cons_self ..)))
  | cons next pieces ih =>
    have hcut := cutAt_append_cons (p := (· == sep)) (a := sep) (by simp) piece
      (join [sep] (next :: pieces))
    have hnext := ih fun as has => h as (List.mem_cons_of_mem _ has)
    rw [cutAt_of_neg (hpiece piece (h piece (List.mem_cons_self ..)))] at hcut
    unfold cut at hnext ⊢
    rw [hnext] at hcut
    simpa [join] using hcut

/-- Lines one after the other, each ended by the separator. -/
def unlines (sep : α) (lines : List (List α)) : List α := lines.flatMap (· ++ [sep])

/-- Cutting gets the lines back, and the end of the last one leaves an empty piece. -/
theorem cut_unlines [BEq α] [LawfulBEq α] {sep : α} {lines : List (List α)}
    (h : ∀ line ∈ lines, sep ∉ line) : cut sep (unlines sep lines) = lines ++ [[]] := by
  induction lines with
  | nil => rfl
  | cons line lines ih =>
    have hline : ∀ a ∈ line, (a == sep) = false := by
      intro a ha
      refine beq_false_of_ne ?_
      rintro rfl
      exact h line (List.mem_cons_self ..) ha
    have hlines := ih fun other hother => h other (List.mem_cons_of_mem _ hother)
    have hunlines : unlines sep (line :: lines) = line ++ sep :: unlines sep lines := by
      simp [unlines]
    unfold cut at hlines ⊢
    rw [hunlines, cutAt_append_cons (by simp), cutAt_of_neg hline, hlines]
    rfl

end Pieces

/-! ### Words -/

section Words

variable {word blanks rest : List Char}

lemma words_append_cons {c : Char} (h : isBlank c = true) (cs ds : List Char) :
    words (cs ++ c :: ds) = words cs ++ words ds := by
  unfold words
  rw [cutAt_append_cons h, List.filter_append]

lemma words_of_isBlank (h : ∀ c ∈ blanks, isBlank c = true) : words blanks = [] := by
  induction blanks with
  | nil => rfl
  | cons c cs ih =>
    rw [words_cons_of_isBlank (h c (List.mem_cons_self ..))]
    exact ih fun d hd => h d (List.mem_cons_of_mem _ hd)

/-- Blanks before a text hold no word. -/
lemma words_blanks_append (h : ∀ c ∈ blanks, isBlank c = true) :
    words (blanks ++ rest) = words rest := by
  induction blanks with
  | nil => rfl
  | cons c cs ih =>
    rw [List.cons_append, words_cons_of_isBlank (h c (List.mem_cons_self ..))]
    exact ih fun d hd => h d (List.mem_cons_of_mem _ hd)

/-- Blanks behind a text hold no word. -/
lemma words_append_blanks (cs : List Char) (h : ∀ c ∈ blanks, isBlank c = true) :
    words (cs ++ blanks) = words cs := by
  cases blanks with
  | nil => rw [List.append_nil]
  | cons c ds =>
    rw [words_append_cons (h c (List.mem_cons_self ..)),
      words_of_isBlank fun d hd => h d (List.mem_cons_of_mem _ hd), List.append_nil]

/-- **A word is taken off a text** where it ends with the text or at a blank. -/
theorem words_append (hne : word ≠ []) (hword : ∀ c ∈ word, isBlank c = false)
    (hrest : ∀ c, rest.head? = some c → isBlank c = true) :
    words (word ++ rest) = word :: words rest := by
  have hone : words word = [word] := by
    unfold words
    rw [cutAt_of_neg hword]
    simpa using hne
  cases rest with
  | nil => rw [List.append_nil, hone]; rfl
  | cons c cs =>
    have hc : isBlank c = true := hrest c rfl
    rw [words_append_cons hc, hone, words_cons_of_isBlank hc]
    rfl

/-- What stands before the first blank, and what follows from there. -/
lemma firstWord_append_dropWhile (cs : List Char) :
    firstWord cs ++ cs.dropWhile (fun c => !isBlank c) = cs := List.takeWhile_append_dropWhile

lemma isBlank_of_head?_dropWhile {cs : List Char} {c : Char}
    (h : (cs.dropWhile fun c => !isBlank c).head? = some c) : isBlank c = true := by
  have := List.head?_dropWhile_not (fun c => !isBlank c) cs
  rw [h] at this
  simpa using this

/-- The first word of a text and the words behind it. -/
theorem words_eq_cons {cs : List Char} (h : firstWord cs ≠ []) :
    words cs = firstWord cs :: words (afterFirstWord cs) := by
  have hafter : words (cs.dropWhile fun c => !isBlank c) = words (afterFirstWord cs) := by
    unfold afterFirstWord
    conv_lhs => rw [← List.takeWhile_append_dropWhile (p := isBlank)
      (l := cs.dropWhile fun c => !isBlank c)]
    exact words_blanks_append fun c hc => List.mem_takeWhile_imp hc
  conv_lhs => rw [← firstWord_append_dropWhile cs]
  rw [words_append h (fun c => not_isBlank_of_mem_firstWord) fun c => isBlank_of_head?_dropWhile,
    hafter]

end Words

/-! ### Trimmed text -/

section Trim

/-- A text stands between the blanks around it. -/
lemma exists_trim (cs : List Char) :
    ∃ before after, (∀ c ∈ before, isBlank c = true) ∧ (∀ c ∈ after, isBlank c = true) ∧
      cs = before ++ (trim cs ++ after) := by
  refine ⟨cs.takeWhile isBlank, ((trimStart cs).reverse.takeWhile isBlank).reverse,
    fun c hc => List.mem_takeWhile_imp hc,
    fun c hc => List.mem_takeWhile_imp (List.mem_reverse.1 hc), ?_⟩
  unfold trim trimEnd
  rw [← List.reverse_append, List.takeWhile_append_dropWhile, List.reverse_reverse]
  exact List.takeWhile_append_dropWhile.symm

/-- What is between blanks and has no blank at its ends is the trimmed text. -/
theorem trim_append {before core after : List Char} (hbefore : ∀ c ∈ before, isBlank c = true)
    (hafter : ∀ c ∈ after, isBlank c = true)
    (hhead : ∀ c, core.head? = some c → isBlank c = false)
    (hlast : ∀ c, core.getLast? = some c → isBlank c = false) :
    trim (before ++ (core ++ after)) = core := by
  have hstart : trimStart (before ++ (core ++ after)) = trimStart (core ++ after) :=
    List.dropWhile_append_of_pos hbefore
  unfold trim
  rw [hstart]
  cases core with
  | nil =>
    have hnil : trimStart after = [] := List.dropWhile_eq_nil_iff.2 hafter
    rw [List.nil_append, hnil]
    rfl
  | cons c core =>
    have hc : trimStart (c :: core ++ after) = c :: core ++ after :=
      List.dropWhile_cons_of_neg (by simp [hhead c rfl])
    have hreverse : ∀ as : List Char, (∀ c, as.head? = some c → isBlank c = false) →
        as.dropWhile isBlank = as := by
      intro as has
      cases as with
      | nil => rfl
      | cons d ds => exact List.dropWhile_cons_of_neg (by simp [has d rfl])
    rw [hc]
    unfold trimEnd
    rw [List.reverse_append, List.dropWhile_append_of_pos (fun d hd => hafter d (List.mem_reverse.1 hd)),
      hreverse _ (by rw [List.head?_reverse]; exact hlast), List.reverse_reverse]

/-- Of a text nothing is left exactly where it is all blank. -/
lemma trim_eq_nil_iff {cs : List Char} : trim cs = [] ↔ ∀ c ∈ cs, isBlank c = true := by
  constructor
  · intro h c hc
    obtain ⟨before, after, hbefore, hafter, e⟩ := exists_trim cs
    rw [e, h] at hc
    rcases List.mem_append.1 hc with hc | hc
    · exact hbefore c hc
    · exact hafter c hc
  · intro h
    have htrim : trim (cs ++ ([] ++ [])) = [] := trim_append h nofun nofun nofun
    simpa using htrim

/-- A trimmed text does not begin with a blank. -/
lemma isBlank_of_head?_trim {cs : List Char} {c : Char} (h : (trim cs).head? = some c) :
    isBlank c = false := by
  have hstart : (trimStart cs).head? = some c := by
    have happ : trimStart cs =
        trim cs ++ ((trimStart cs).reverse.takeWhile isBlank).reverse := by
      unfold trim trimEnd
      rw [← List.reverse_append, List.takeWhile_append_dropWhile, List.reverse_reverse]
    rw [happ, List.head?_append, h]
    rfl
  have := List.head?_dropWhile_not isBlank cs
  unfold trimStart at hstart
  rw [hstart] at this
  simpa using this

/-- A trimmed text does not end in a blank. -/
lemma isBlank_of_getLast?_trim {cs : List Char} {c : Char} (h : (trim cs).getLast? = some c) :
    isBlank c = false := by
  have := List.head?_dropWhile_not isBlank (trimStart cs).reverse
  unfold trim trimEnd at h
  rw [List.getLast?_reverse] at h
  rw [h] at this
  simpa using this

/-- A text without blanks at its ends is trimmed. -/
lemma trim_eq_self {cs : List Char} (hhead : ∀ c, cs.head? = some c → isBlank c = false)
    (hlast : ∀ c, cs.getLast? = some c → isBlank c = false) : trim cs = cs := by
  have htrim : trim ([] ++ (cs ++ [])) = cs := trim_append (by simp) (by simp) hhead hlast
  simpa using htrim

/-- Trimming a trimmed text changes nothing. -/
lemma trim_trim (cs : List Char) : trim (trim cs) = trim cs :=
  trim_eq_self (fun _ => isBlank_of_head?_trim) (fun _ => isBlank_of_getLast?_trim)

/-- A blank at the end is trimmed off. -/
lemma trim_append_singleton (cs : List Char) {c : Char} (hc : isBlank c = true) :
    trim (cs ++ [c]) = trim cs := by
  obtain ⟨before, after, hbefore, hafter, e⟩ := exists_trim cs
  have hafter' : ∀ d ∈ after ++ [c], isBlank d = true := by
    intro d hd
    rcases List.mem_append.1 hd with hd | hd
    · exact hafter d hd
    · rw [List.mem_singleton.1 hd]; exact hc
  have htrim : trim (before ++ (trim cs ++ (after ++ [c]))) = trim cs :=
    trim_append hbefore hafter' (fun _ => isBlank_of_head?_trim) (fun _ => isBlank_of_getLast?_trim)
  rw [← htrim]
  conv_lhs => rw [e]
  simp only [List.append_assoc]

/-- One text is another one without the blanks around it: there are blanks on both sides of it, if
anything, and none at its own ends. -/
structure Trims (text core : List Char) : Prop where
  around : ∃ before after, (∀ c ∈ before, isBlank c = true) ∧ (∀ c ∈ after, isBlank c = true) ∧
    text = before ++ (core ++ after)
  head : ∀ c, core.head? = some c → isBlank c = false
  last : ∀ c, core.getLast? = some c → isBlank c = false

/-- Only the trimmed text is that. -/
theorem trims_iff {text core : List Char} : Trims text core ↔ trim text = core := by
  constructor
  · intro h
    obtain ⟨before, after, hbefore, hafter, rfl⟩ := h.around
    exact trim_append hbefore hafter h.head h.last
  · rintro rfl
    exact ⟨exists_trim text, fun _ => isBlank_of_head?_trim, fun _ => isBlank_of_getLast?_trim⟩

/-- The words of a text are those of the trimmed text. -/
theorem words_trim (cs : List Char) : words (trim cs) = words cs := by
  obtain ⟨before, after, hbefore, hafter, e⟩ := exists_trim cs
  conv_rhs => rw [e]
  rw [words_blanks_append hbefore, words_append_blanks _ hafter]

end Trim

end Screencast.Text
