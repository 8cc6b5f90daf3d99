import Screencast.Proofs.Listing.Entries

/-!
One line read alone, whatever characters stand in it. Up to the third word a line break is a blank
like all others, and from there on there must be none. The line that an entry keeps is read as the
same entry again.
-/

namespace Screencast.Listing

open Text

/-! ### The third word -/

/-- A text is two words and what goes on behind them: the fields are the end of the trimmed text
that begins with the third word, or nothing where there is no third word. -/
structure Parts (text first second fields : List Char) : Prop where
  words_eq : words text = first :: second :: words fields
  suffix : fields <:+ trim text
  start : ∀ c, fields.head? = some c → isBlank c = false

lemma flatten_cutAt {α : Type} (p : α → Bool) (as : List α) :
    (cutAt p as).flatten = as.filter fun a => !p a := by
  induction as with
  | nil => rfl
  | cons a as ih =>
    cases ha : p a with
    | true =>
      rw [cutAt_cons_of_pos ha, List.filter_cons_of_neg (by simp [ha]), ← ih]
      rfl
    | false =>
      obtain ⟨piece, pieces, e⟩ := List.exists_cons_of_ne_nil (cutAt_ne_nil p as)
      rw [cutAt_cons_of_neg ha e, List.filter_cons_of_pos (by simp [ha]), ← ih, e]
      rfl

/-- The words hold all characters of a text but the blanks. -/
lemma flatten_words (text : List Char) :
    (words text).flatten = text.filter fun c => !isBlank c := by
  unfold words
  rw [List.flatten_filter_not_isEmpty, flatten_cutAt]

/-- Ends of a text that begin with a word and have the same words are the same. -/
lemma eq_of_words_eq {text as bs : List Char} (has : as <:+ text) (hbs : bs <:+ text)
    (hstart : ∀ c, as.head? = some c → isBlank c = false)
    (hstart' : ∀ c, bs.head? = some c → isBlank c = false) (h : words as = words bs) :
    as = bs := by
  -- the longer one holds a character more that is no blank
  have hlonger : ∀ {shorter longer : List Char}, shorter <:+ longer →
      (∀ c, longer.head? = some c → isBlank c = false) → words shorter = words longer →
        shorter = longer := by
    rintro shorter _ ⟨before, rfl⟩ hhead hwords
    cases before with
    | nil => rfl
    | cons c before =>
      have hc : isBlank c = false := hhead c rfl
      have hchars := congrArg List.flatten hwords
      rw [flatten_words, flatten_words, List.cons_append,
        List.filter_cons_of_pos (by simp [hc]), List.filter_append] at hchars
      have hlength := congrArg List.length hchars
      simp only [List.length_cons, List.length_append] at hlength
      omega
  rcases Nat.le_total as.length bs.length with hle | hle
  · exact hlonger (List.suffix_of_suffix_length_le has hbs hle) hstart' h
  · exact (hlonger (List.suffix_of_suffix_length_le hbs has hle) hstart h.symm).symm

lemma afterFirstWord_suffix (text : List Char) : afterFirstWord text <:+ text :=
  (List.dropWhile_suffix _).trans (List.dropWhile_suffix _)

/-- A text of two words has these parts. -/
lemma parts_of_words {text first second : List Char} {rest : List (List Char)}
    (h : words text = first :: second :: rest) :
    firstWord (trim text) = first ∧ firstWord (afterFirstWord (trim text)) = second ∧
      Parts text first second (afterFirstWord (afterFirstWord (trim text))) := by
  have hwords := words_trim text
  rw [h] at hwords
  have hfirst : firstWord (trim text) ≠ [] := by
    intro hnil
    have hstart : trim text = [] ∨ firstWord (trim text) ≠ [] :=
      eq_nil_or_firstWord_ne_nil fun _ => isBlank_of_head?_trim
    rcases hstart with htrim | hne
    · rw [htrim] at hwords
      cases hwords
    · exact hne hnil
  rw [words_eq_cons hfirst] at hwords
  obtain ⟨hone, hbehind⟩ := List.cons.inj hwords
  have hsecond : firstWord (afterFirstWord (trim text)) ≠ [] := by
    intro hnil
    have hstart : afterFirstWord (trim text) = [] ∨ firstWord (afterFirstWord (trim text)) ≠ [] :=
      eq_nil_or_firstWord_ne_nil fun _ => isBlank_of_head?_afterFirstWord
    rcases hstart with htrim | hne
    · rw [htrim] at hbehind
      cases hbehind
    · exact hne hnil
  rw [words_eq_cons hsecond] at hbehind
  obtain ⟨htwo, hrest⟩ := List.cons.inj hbehind
  refine ⟨hone, htwo, ?_, ?_, ?_⟩
  · rw [h, hrest]
  · exact (afterFirstWord_suffix _).trans (afterFirstWord_suffix _)
  · exact fun c => isBlank_of_head?_afterFirstWord

/-- There is one way to see a text in these parts. -/
lemma Parts.eq {text first second fields : List Char} (h : Parts text first second fields) :
    firstWord (trim text) = first ∧ firstWord (afterFirstWord (trim text)) = second ∧
      afterFirstWord (afterFirstWord (trim text)) = fields := by
  obtain ⟨hfirst, hsecond, hparts⟩ := parts_of_words h.words_eq
  refine ⟨hfirst, hsecond, ?_⟩
  have hwords := hparts.words_eq
  rw [h.words_eq] at hwords
  obtain ⟨-, hbehind⟩ := List.cons.inj hwords
  obtain ⟨-, hfields⟩ := List.cons.inj hbehind
  exact eq_of_words_eq hparts.suffix h.suffix hparts.start h.start hfields.symm

/-! ### Reading one line -/

/-- A line reports a device by its first two words and by the line breaks behind them. -/
lemma reports_trim_iff {text : List Char} :
    Reports (trim text) ↔ ∃ serial fields, Parts text serial ready fields ∧ '\n' ∉ fields := by
  constructor
  · rintro ⟨hword, hready, hbreak⟩
    have hstate : firstWord (afterFirstWord (trim text)) ≠ [] := by
      rw [hready]
      exact List.cons_ne_nil _ _
    have hwords := words_trim text
    rw [words_eq_cons hword, words_eq_cons hstate, hready] at hwords
    exact ⟨_, _, (parts_of_words hwords.symm).2.2, hbreak⟩
  · rintro ⟨serial, fields, hparts, hbreak⟩
    obtain ⟨hserial, hready, hfields⟩ := hparts.eq
    refine ⟨?_, hready, ?_⟩
    · rw [hserial]
      have hmem : serial ∈ words text := by
        rw [hparts.words_eq]
        exact List.mem_cons_self
      exact ne_nil_of_mem_words hmem
    · rw [hfields]
      exact hbreak

/-- The entry of a line that reports a device, by its words. -/
lemma ofLine?_of_parts {line : String} {serial fields : List Char}
    (h : Parts line.toList serial ready fields) (hbreak : '\n' ∉ fields) :
    Entry.ofLine? line =
      some
        { serial := String.ofList serial
          model := (words fields).findSome? modelOf?
          line := trimString line } := by
  obtain ⟨hserial, -, hfields⟩ := h.eq
  have hread := ofLine?_of_reports (reports_trim_iff.2 ⟨serial, fields, h, hbreak⟩)
  rw [String.ofList_toList, hserial, hfields] at hread
  exact hread

/-- What is read from a line keeps the line without the blanks around it. -/
lemma line_of_ofLine? {line : String} {entry : Entry} (h : Entry.ofLine? line = some entry) :
    entry.line = trimString line := by
  unfold Entry.ofLine? at h
  obtain ⟨found, -, rfl⟩ := Option.map_eq_some_iff.1 h
  rfl

lemma isSome_ofLine?_iff {line : String} :
    (Entry.ofLine? line).isSome = true ↔
      ∃ serial fields, Parts line.toList serial ready fields ∧ '\n' ∉ fields := by
  constructor
  · intro hsome
    rw [← reports_trim_iff]
    by_contra hnot
    have hnone := ofLine?_of_not_reports hnot
    rw [String.ofList_toList] at hnone
    rw [hnone] at hsome
    cases hsome
  · rintro ⟨serial, fields, hparts, hbreak⟩
    rw [ofLine?_of_parts hparts hbreak]
    rfl

/-- **A line read alone.** A line of two words has its parts in one way. It reports a device where
the second word is the word for a device that can be used and no line break stands in the trimmed
line from the third word on. Its serial is then the first word, its model is that of the first
later word that names one, and it keeps the trimmed line, which is read as the same entry. -/
theorem line_is_read_by_words (line : String) :
    (∀ first second rest, words line.toList = first :: second :: rest →
      ∃! fields, Parts line.toList first second fields) ∧
    ((Entry.ofLine? line).isSome = true ↔
      ∃ serial fields, Parts line.toList serial ready fields ∧ '\n' ∉ fields) ∧
    (∀ serial fields, Parts line.toList serial ready fields → '\n' ∉ fields →
      Entry.ofLine? line =
        some
          { serial := String.ofList serial
            model := (words fields).findSome? modelOf?
            line := trimString line }) ∧
    ∀ entry, Entry.ofLine? line = some entry → Entry.ofLine? entry.line = some entry := by
  refine ⟨?_, isSome_ofLine?_iff, ?_, ?_⟩
  · intro first second rest hwords
    refine ⟨_, (parts_of_words hwords).2.2, ?_⟩
    intro fields hparts
    exact hparts.eq.2.2.symm
  · intro serial fields hparts hbreak
    exact ofLine?_of_parts hparts hbreak
  · intro entry hentry
    rw [line_of_ofLine? hentry, ofLine?_trimString]
    exact hentry

/-- Line breaks around the second word are blanks, and a field without a model is passed over. -/
example : Entry.ofLine? " a\n\tdevice\nmodel: model:b " =
    some ⟨"a", some "b", "a\n\tdevice\nmodel: model:b"⟩ := by
  cbv

/-- A line break behind the third word leaves nothing to read. -/
example : Entry.ofLine? "a device model:b\nusb:1" = none := by
  cbv

end Screencast.Listing
