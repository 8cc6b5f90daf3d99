import Mathlib.Data.List.Basic
import Screencast.Proofs.Listing.Line

/-!
The entries of a listing, read line by line and word by word. A line break cuts the listing into
pieces, the first piece is a header, and each other piece is an entry or nothing by its words alone:
which other pieces stand around it does not matter.
-/

namespace Screencast.Listing

open Text

/-- What the words of a piece of the listing report. -/
def Entry.ofWords? (piece : List Char) : Option Entry :=
  match words piece with
  | serial :: state :: fields =>
    if serial.head? ≠ some '*' ∧ state = ready then
      some
        { serial := String.ofList serial
          model := fields.findSome? modelOf?
          line := String.ofList (trim piece) }
    else none
  | _ => none

/-! ### One line -/

/-- A text without a blank before it is empty or begins with a word. -/
lemma eq_nil_or_firstWord_ne_nil {text : List Char}
    (h : ∀ c, text.head? = some c → isBlank c = false) : text = [] ∨ firstWord text ≠ [] := by
  cases text with
  | nil => exact .inl rfl
  | cons c rest =>
    refine .inr ?_
    have hc : isBlank c = false := h c rfl
    simp [firstWord, hc]

lemma isBlank_of_head?_afterFirstWord {text : List Char} {c : Char}
    (h : (afterFirstWord text).head? = some c) : isBlank c = false := by
  have := List.head?_dropWhile_not isBlank (text.dropWhile fun c => !isBlank c)
  unfold afterFirstWord at h
  rw [h] at this
  simpa using this

lemma head?_firstWord {text : List Char} (h : firstWord text ≠ []) :
    (firstWord text).head? = text.head? := by
  conv_rhs => rw [← firstWord_append_dropWhile text]
  exact (List.head?_append_of_ne_nil _ h).symm

lemma mem_of_mem_afterFirstWord {text : List Char} {c : Char} (h : c ∈ afterFirstWord text) :
    c ∈ text :=
  (List.dropWhile_sublist _).subset ((List.dropWhile_sublist _).subset h)

lemma mem_of_mem_trim {text : List Char} {c : Char} (h : c ∈ trim text) : c ∈ text := by
  obtain ⟨before, after, -, -, e⟩ := exists_trim text
  rw [e]
  exact List.mem_append_right _ (List.mem_append_left _ h)

/-- The reader of a line does not see the blanks around it. -/
lemma ofLine?_trimString (line : String) : Entry.ofLine? (trimString line) = Entry.ofLine? line := by
  have htrim : trimString (trimString line) = trimString line := by
    unfold trimString
    rw [String.toList_ofList, trim_trim]
  unfold Entry.ofLine?
  rw [htrim]

lemma ofLine?_of_not_reports {text : List Char} (h : ¬ Reports (trim text)) :
    Entry.ofLine? (String.ofList text) = none := by
  have hnot : ¬ Reports (trimString (String.ofList text)).toList := by
    rwa [trimString, String.toList_ofList, String.toList_ofList]
  unfold Entry.ofLine?
  dsimp only
  rw [find_readyLine_eq_none hnot]
  rfl

/-- A line that reports a device gives its serial, its model and itself. -/
lemma ofLine?_of_reports {text : List Char} (h : Reports (trim text)) :
    Entry.ofLine? (String.ofList text) =
      some
        { serial := String.ofList (firstWord (trim text))
          model := (words (afterFirstWord (afterFirstWord (trim text)))).findSome? modelOf?
          line := String.ofList (trim text) } := by
  have hline : trimString (String.ofList text) = String.ofList (trim text) := by
    rw [trimString, String.toList_ofList]
  have hreports : Reports (String.ofList (trim text)).toList := by
    rwa [String.toList_ofList]
  obtain ⟨found, hfound, hserial, hfields⟩ := exists_find_readyLine hreports
  rw [String.toList_ofList] at hserial hfields
  have hmodel : ((found.group? 2).bind modelField.find).bind (·.group? 1) =
      (words (afterFirstWord (afterFirstWord (trim text)))).findSome? modelOf? := by
    rcases hfields with ⟨hgroup, hend⟩ | hgroup
    · rw [hgroup, hend]
      rfl
    · rw [hgroup, Option.bind_some, find_modelField, String.toList_ofList]
  unfold Entry.ofLine?
  dsimp only
  rw [hline, hfound, Option.map_some, hserial, hmodel]
  rfl

/-- What the reader of a line makes of the words of a trimmed text. -/
lemma ofLine?_of_trimmed {text : List Char} (htrim : trim text = text) (hbreak : '\n' ∉ text) :
    (if mayReport (String.ofList text) then Entry.ofLine? (String.ofList text) else none) =
      Entry.ofWords? text := by
  have hstart : ∀ c, text.head? = some c → isBlank c = false := by
    rw [← htrim]
    exact fun _ => isBlank_of_head?_trim
  rcases eq_nil_or_firstWord_ne_nil hstart with rfl | hword
  · rfl
  have hmay : mayReport (String.ofList text) = true ↔ (firstWord text).head? ≠ some '*' := by
    have hne : text ≠ [] := by
      rintro rfl
      exact hword rfl
    simp [mayReport, head?_firstWord hword, hne]
  unfold Entry.ofWords?
  rw [words_eq_cons hword, htrim]
  by_cases hready : firstWord (afterFirstWord text) = ready
  · have hreports : Reports (trim text) := by
      rw [htrim]
      exact ⟨hword, hready, fun h =>
        hbreak (mem_of_mem_afterFirstWord (mem_of_mem_afterFirstWord h))⟩
    have hstate : firstWord (afterFirstWord text) ≠ [] := by
      rw [hready]
      exact List.cons_ne_nil _ _
    rw [ofLine?_of_reports hreports, words_eq_cons hstate, htrim]
    simp only [hmay, hready, and_true]
  · -- the second word is another one, or there is none
    have hnot : ¬ Reports (trim text) := by
      rw [htrim]
      exact fun h => hready h.2.1
    rw [ofLine?_of_not_reports hnot, ite_self]
    rcases eq_nil_or_firstWord_ne_nil fun c (hc : (afterFirstWord text).head? = some c) =>
      isBlank_of_head?_afterFirstWord hc with hnil | hstate
    · rw [hnil]
      rfl
    · rw [words_eq_cons hstate]
      simp [hready]

lemma ofWords?_trim (piece : List Char) : Entry.ofWords? (trim piece) = Entry.ofWords? piece := by
  unfold Entry.ofWords?
  rw [words_trim, trim_trim]

/-- **One line.** The reader of the listing takes from a line what its words report. -/
theorem ofLine?_trim {line : List Char} (h : '\n' ∉ line) :
    (if mayReport (String.ofList (trim line)) then Entry.ofLine? (String.ofList (trim line))
      else none) = Entry.ofWords? line := by
  rw [← ofWords?_trim]
  exact ofLine?_of_trimmed (trim_trim _) fun hbreak => h (mem_of_mem_trim hbreak)

/-! ### All lines -/

/-- A reader of lines that takes nothing from the empty line, and does not see a carriage return at
the end of a line, reads the pieces between line breaks. -/
lemma filterMap_textLines {α : Type} (read : List Char → Option α) (hnil : read [] = none)
    (hreturn : ∀ piece, read (piece ++ ['\r']) = read piece) (text : String) :
    ((textLines text).drop 1).filterMap (fun line => read line.toList) =
      ((cut '\n' text.toList).drop 1).filterMap read := by
  have hended : ∀ piece : List Char,
      read (if piece.getLast? = some '\r' then piece.dropLast else piece) = read piece := by
    intro piece
    split
    · next hlast =>
      obtain ⟨before, rfl⟩ := List.getLast?_eq_some_iff.1 hlast
      rw [List.dropLast_concat, hreturn]
    · rfl
  have hchars : (fun line : String => read line.toList) ∘ String.ofList = read :=
    funext fun piece => congrArg read String.toList_ofList
  obtain ⟨pieces, last, e⟩ : ∃ pieces last, cut '\n' text.toList = pieces ++ [last] :=
    ⟨_, _, (List.dropLast_append_getLast (cutAt_ne_nil _ _)).symm⟩
  unfold textLines
  rw [e]
  simp only [List.getLast?_concat, Option.getD_some, List.dropLast_concat]
  rw [List.drop_one, ← List.map_tail, List.filterMap_map, hchars]
  cases pieces with
  | nil => cases last <;> rfl
  | cons header pieces =>
    have hpieces : (pieces.map fun piece =>
        if piece.getLast? = some '\r' then piece.dropLast else piece).filterMap read =
          pieces.filterMap read := by
      rw [List.filterMap_map]
      exact List.filterMap_congr fun piece _ => hended piece
    cases last with
    | nil =>
      rw [List.cons_append, List.drop_one, List.tail_cons, List.filterMap_append,
        List.filterMap_cons_none hnil]
      exact hpieces.trans (List.append_nil _).symm
    | cons c cs =>
      rw [List.cons_append, List.drop_one, List.tail_cons, List.filterMap_append, ← hpieces]
      exact List.filterMap_append

/-- The reader of lines before it is known what it takes from one. -/
lemma entries_eq (listing : String) :
    entries listing = ((textLines listing).drop 1).filterMap fun line =>
      if mayReport (trimString line) then Entry.ofLine? (trimString line) else none := by
  unfold entries
  rw [List.filterMap_filter, List.filterMap_map]
  rfl

/-- **The entries of a header and some lines** are those of the lines, each by its own words. -/
theorem entries_join {header : List Char} {lines : List (List Char)}
    (h : ∀ line ∈ header :: lines, '\n' ∉ line) :
    entries (String.ofList (join ['\n'] (header :: lines))) = lines.filterMap Entry.ofWords? := by
  have hread := filterMap_textLines
    (fun piece =>
      if mayReport (String.ofList (trim piece)) then Entry.ofLine? (String.ofList (trim piece))
      else none)
    rfl (fun piece => by rw [trim_append_singleton piece (by decide)])
    (String.ofList (join ['\n'] (header :: lines)))
  rw [entries_eq]
  refine hread.trans ?_
  rw [String.toList_ofList, cut_join h, List.drop_one, List.tail_cons]
  exact List.filterMap_congr fun line hline => ofLine?_trim (h line (List.mem_cons_of_mem _ hline))

/-- **The entries of a listing**: each piece behind the first line break counts by its own words,
in the order of the pieces. -/
theorem entries_eq_filterMap_pieces (listing : String) :
    entries listing = ((cut '\n' listing.toList).drop 1).filterMap Entry.ofWords? := by
  obtain ⟨header, lines, e⟩ := List.exists_cons_of_ne_nil (cutAt_ne_nil (· == '\n') listing.toList)
  have hpieces : ∀ line ∈ header :: lines, '\n' ∉ line := by
    intro line hline hbreak
    rw [← e] at hline
    exact absurd (not_of_mem_cutAt hline '\n' hbreak) (by decide)
  have hjoin : join ['\n'] (header :: lines) = listing.toList := by
    rw [← e]
    exact join_cut '\n' listing.toList
  have hcut : cut '\n' listing.toList = header :: lines := e
  rw [hcut, List.drop_one, List.tail_cons, ← entries_join hpieces, hjoin, String.ofList_toList]

end Screencast.Listing
