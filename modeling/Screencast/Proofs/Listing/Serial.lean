import Screencast.Proofs.Listing.Entries

/-!
The serials that a listing can report. On a single line these are all words, and in a listing all
words but those that begin like a notice of the bridge.
-/

namespace Screencast.Listing

open Text

/-- A serial is one word: there is something in it, and no blank. -/
structure IsSerial (serial : String) : Prop where
  ne_nil : serial.toList ≠ []
  blankless : ∀ c ∈ serial.toList, isBlank c = false

/-- A line that reports a serial as ready, and nothing else. -/
def readyLineOf (serial : String) : List Char := serial.toList ++ ' ' :: ready

variable {serial : String}

lemma isSerial_ofList {cs : List Char} (hne : cs ≠ []) (h : ∀ c ∈ cs, isBlank c = false) :
    IsSerial (String.ofList cs) where
  ne_nil := by
    rw [String.toList_ofList]
    exact hne
  blankless := by
    rw [String.toList_ofList]
    exact h

lemma isSerial_singleton {c : Char} (h : isBlank c = false) : IsSerial (String.ofList [c]) :=
  isSerial_ofList (List.cons_ne_nil _ _) (List.forall_mem_singleton.2 h)

/-! ### One line -/

/-- The serial is the first word of the line. -/
lemma serial_eq_firstWord {line : String} {entry : Entry} (h : Entry.ofLine? line = some entry) :
    entry.serial.toList = firstWord (trim line.toList) := by
  have hline : line = String.ofList line.toList := String.ofList_toList.symm
  by_cases hreports : Reports (trim line.toList)
  · rw [hline, ofLine?_of_reports hreports] at h
    obtain rfl := Option.some.inj h
    exact String.toList_ofList
  · rw [hline, ofLine?_of_not_reports hreports] at h
    cases h

lemma isSerial_ofLine? {line : String} {entry : Entry} (h : Entry.ofLine? line = some entry) :
    IsSerial entry.serial := by
  have hreports : Reports (trim line.toList) := by
    by_contra hnot
    have hnone := ofLine?_of_not_reports hnot
    rw [String.ofList_toList, h] at hnone
    cases hnone
  refine ⟨?_, ?_⟩
  · rw [serial_eq_firstWord h]
    exact hreports.1
  · intro c hc
    rw [serial_eq_firstWord h] at hc
    exact not_isBlank_of_mem_firstWord hc

lemma newline_notMem_readyLineOf (h : IsSerial serial) : '\n' ∉ readyLineOf serial := by
  intro hmem
  rcases List.mem_append.1 hmem with hmem | hmem
  · exact absurd (h.blankless _ hmem) (by decide)
  · exact absurd hmem (by decide)

lemma words_readyLineOf (h : IsSerial serial) :
    words (readyLineOf serial) = [serial.toList, ready] := by
  have hrest : words (' ' :: ready) = [ready] := by decide
  have hhead : ∀ c, (' ' :: ready).head? = some c → isBlank c = true := by
    intro c hc
    obtain rfl : ' ' = c := Option.some.inj hc
    decide
  unfold readyLineOf
  rw [words_append h.ne_nil h.blankless hhead, hrest]

lemma ofWords?_readyLineOf (h : IsSerial serial) (hstar : serial.toList.head? ≠ some '*') :
    Entry.ofWords? (readyLineOf serial) =
      some ⟨serial, none, String.ofList (trim (readyLineOf serial))⟩ := by
  unfold Entry.ofWords?
  rw [words_readyLineOf h]
  dsimp only
  rw [if_pos ⟨hstar, rfl⟩, String.ofList_toList]
  rfl

lemma trim_readyLineOf (h : IsSerial serial) : trim (readyLineOf serial) = readyLineOf serial := by
  have hhead : ∀ c, (readyLineOf serial).head? = some c → isBlank c = false := by
    intro c hc
    unfold readyLineOf at hc
    rw [List.head?_append_of_ne_nil _ h.ne_nil] at hc
    exact h.blankless c (List.mem_of_mem_head? hc)
  have hlast : ∀ c, (readyLineOf serial).getLast? = some c → isBlank c = false := by
    intro c hc
    have hready : (readyLineOf serial).getLast? = some 'e' := by
      unfold readyLineOf
      rw [List.getLast?_append_of_ne_nil _ (List.cons_ne_nil _ _)]
      rfl
    rw [hready] at hc
    obtain rfl : 'e' = c := Option.some.inj hc
    decide
  exact trim_eq_self hhead hlast

lemma firstWord_append_space {word : List Char} (h : ∀ c ∈ word, isBlank c = false)
    (rest : List Char) : firstWord (word ++ ' ' :: rest) = word ∧
      afterFirstWord (word ++ ' ' :: rest) = rest.dropWhile isBlank := by
  have hword : ∀ c ∈ word, (!isBlank c) = true := fun c hc => by simp [h c hc]
  have hspace : isBlank ' ' = true := by decide
  constructor
  · unfold firstWord
    rw [List.takeWhile_append_of_pos hword, List.takeWhile_cons_of_neg (by simp [hspace]),
      List.append_nil]
  · unfold afterFirstWord
    rw [List.dropWhile_append_of_pos hword, List.dropWhile_cons_of_neg (by simp [hspace]),
      List.dropWhile_cons_of_pos hspace]

lemma reports_readyLineOf (h : IsSerial serial) : Reports (readyLineOf serial) := by
  obtain ⟨hfirst, hafter⟩ := firstWord_append_space h.blankless ready
  have hready : ready.dropWhile isBlank = ready := by decide
  refine ⟨?_, ?_, ?_⟩
  · unfold readyLineOf
    rw [hfirst]
    exact h.ne_nil
  · unfold readyLineOf
    rw [hafter, hready]
    decide
  · unfold readyLineOf
    rw [hafter, hready]
    decide

/-- **All words are serials of lines**, and nothing else is. -/
lemma isSerial_iff :
    IsSerial serial ↔ ∃ line entry, Entry.ofLine? line = some entry ∧ entry.serial = serial := by
  constructor
  · intro h
    have hreports : Reports (trim (readyLineOf serial)) := by
      rw [trim_readyLineOf h]
      exact reports_readyLineOf h
    refine ⟨_, _, ofLine?_of_reports hreports, ?_⟩
    rw [trim_readyLineOf h]
    unfold readyLineOf
    rw [(firstWord_append_space h.blankless ready).1, String.ofList_toList]
  · rintro ⟨line, entry, hentry, rfl⟩
    exact isSerial_ofLine? hentry

/-! ### A listing -/

/-- What a listing with this line only reports. -/
lemma entries_readyLineOf (h : IsSerial serial) (hstar : serial.toList.head? ≠ some '*') :
    entries (String.ofList (join ['\n'] [[], readyLineOf serial])) =
      [⟨serial, none, String.ofList (trim (readyLineOf serial))⟩] := by
  have hbreak : ∀ line ∈ [[], readyLineOf serial], '\n' ∉ line := by
    intro line hline
    rcases List.mem_cons.1 hline with rfl | hline
    · exact List.not_mem_nil
    · rw [List.mem_singleton.1 hline]
      exact newline_notMem_readyLineOf h
  rw [entries_join hbreak, List.filterMap_cons, ofWords?_readyLineOf h hstar]
  rfl

/-- What a listing reports, a line of its own reports, and that line is no notice. -/
lemma exists_line_of_mem_entries {listing : String} {entry : Entry} (h : entry ∈ entries listing) :
    ∃ line, mayReport (trimString line) = true ∧ Entry.ofLine? line = some entry := by
  rw [entries_eq] at h
  obtain ⟨line, -, hline⟩ := List.mem_filterMap.1 h
  split at hline
  · next hmay =>
    rw [ofLine?_trimString] at hline
    exact ⟨line, hmay, hline⟩
  · cases hline

lemma isSerial_of_mem_entries {listing : String} {entry : Entry} (h : entry ∈ entries listing) :
    IsSerial entry.serial := by
  obtain ⟨line, -, hline⟩ := exists_line_of_mem_entries h
  exact isSerial_ofLine? hline

/-- A serial in a listing does not begin like a notice, since its line does not. -/
lemma head?_serial_of_mem_entries {listing : String} {entry : Entry}
    (h : entry ∈ entries listing) : entry.serial.toList.head? ≠ some '*' := by
  obtain ⟨line, hmay, hline⟩ := exists_line_of_mem_entries h
  have hhead : (trim line.toList).head? ≠ some '*' := by
    unfold mayReport trimString at hmay
    rw [String.toList_ofList] at hmay
    simp only [Bool.and_eq_true, bne_iff_ne, ne_eq] at hmay
    exact hmay.2
  rw [serial_eq_firstWord hline]
  by_cases hword : firstWord (trim line.toList) = []
  · rw [hword]
    exact nofun
  · rw [head?_firstWord hword]
    exact hhead

/-- **All words but those that begin like a notice are serials of listings**, and nothing else
is. -/
lemma exists_mem_entries_iff :
    (∃ listing, ∃ entry ∈ entries listing, entry.serial = serial) ↔
      IsSerial serial ∧ serial.toList.head? ≠ some '*' := by
  constructor
  · rintro ⟨listing, entry, hentry, rfl⟩
    exact ⟨isSerial_of_mem_entries hentry, head?_serial_of_mem_entries hentry⟩
  · rintro ⟨h, hstar⟩
    refine ⟨String.ofList (join ['\n'] [[], readyLineOf serial]),
      ⟨serial, none, String.ofList (trim (readyLineOf serial))⟩, ?_, rfl⟩
    rw [entries_readyLineOf h hstar]
    exact List.mem_singleton.2 rfl

end Screencast.Listing
