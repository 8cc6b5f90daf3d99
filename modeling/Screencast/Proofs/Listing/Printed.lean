import Screencast.Proofs.Listing.Entries

/-!
Listings as they are printed: a header, and then lines of devices in any state among blank lines
and notices. Which blanks stand around and between the words of a line, and which of the two line
endings it has, is free. Reading gets the devices that are ready back, and nothing of that freedom.
-/

namespace Screencast.Listing

open Text

/-! ### The parts of a line -/

/-- Blanks within a line. -/
structure Blanks where
  chars : List Char
  blank : ∀ c ∈ chars, isBlank c = true
  unbroken : '\n' ∉ chars

/-- A word: there is something in it, and no blank. -/
structure Token where
  chars : List Char
  ne_nil : chars ≠ []
  blankless : ∀ c ∈ chars, isBlank c = false

/-- A word behind at least one blank. -/
structure Field where
  gap : Blanks
  gap_ne_nil : gap.chars ≠ []
  word : Token

/-- The line of a device in any state, with its fields and the blanks around it. -/
structure Row where
  before : Blanks
  serial : Token
  /-- It does not begin like a notice of the bridge. -/
  unstarred : serial.chars.head? ≠ some '*'
  state : Field
  fields : List Field
  after : Blanks

/-- A line behind the header. -/
inductive Line where
  | device (row : Row)
  | blank (blanks : Blanks)
  /-- A notice of the bridge itself, with what stands behind its star. -/
  | notice (before : Blanks) (rest : List Char) (unbroken : '\n' ∉ rest)

/-- What ends a line. -/
inductive Ending where
  | feed
  | returnFeed
deriving DecidableEq, Repr

/-- A printed listing. The last line may go without its ending. -/
structure Printed where
  header : List Char
  unbroken : '\n' ∉ header
  headerEnding : Ending
  lines : List (Line × Ending)
  ended : Bool

/-! ### The text -/

/-- The word behind its blanks. -/
def Field.chars (field : Field) : List Char := field.gap.chars ++ field.word.chars

/-- The line without the blanks around it. -/
def Row.core (row : Row) : List Char :=
  row.serial.chars ++ (row.state :: row.fields).flatMap Field.chars

/-- The line without its ending. -/
def Line.chars : Line → List Char
  | device row => row.before.chars ++ (row.core ++ row.after.chars)
  | blank blanks => blanks.chars
  | notice before rest _ => before.chars ++ '*' :: rest

/-- What an ending puts before the line break. -/
def Ending.carriage : Ending → List Char
  | feed => []
  | returnFeed => ['\r']

/-- Lines with their endings; the last one only has it if the text is ended. -/
def writeLines (ended : Bool) : List (List Char × Ending) → List Char
  | [] => []
  | [(line, ending)] => line ++ if ended then ending.carriage ++ ['\n'] else []
  | (line, ending) :: next :: lines =>
    line ++ ending.carriage ++ '\n' :: writeLines ended (next :: lines)

/-- The text of the listing. -/
def Printed.text (printed : Printed) : String :=
  String.ofList <| writeLines printed.ended <|
    (printed.header, printed.headerEnding) ::
      printed.lines.map fun (line, ending) => (line.chars, ending)

/-! ### What it reports -/

/-- The entry of a device that is ready. -/
def Row.ready? (row : Row) : Option Entry :=
  if row.state.word.chars = ready then
    some
      { serial := String.ofList row.serial.chars
        model := row.fields.findSome? fun field => modelOf? field.word.chars
        line := String.ofList row.core }
  else none

/-- The entry of a line: only devices have one. -/
def Line.ready? : Line → Option Entry
  | device row => row.ready?
  | blank _ => none
  | notice .. => none

/-! ### One line -/

lemma Field.isBlank_of_head?_chars {field : Field} {c : Char}
    (h : field.chars.head? = some c) : isBlank c = true := by
  unfold chars at h
  rw [List.head?_append_of_ne_nil _ field.gap_ne_nil] at h
  exact field.gap.blank c (List.mem_of_mem_head? h)

/-- What stands behind a word begins with a blank, if it is not empty. -/
lemma isBlank_of_head?_fields {fields : List Field} {c : Char}
    (h : (fields.flatMap Field.chars).head? = some c) : isBlank c = true := by
  cases fields with
  | nil => cases h
  | cons field fields =>
    have hne : field.chars ≠ [] := fun hnil => field.gap_ne_nil (List.append_eq_nil_iff.1 hnil).1
    rw [List.flatMap_cons, List.head?_append_of_ne_nil _ hne] at h
    exact Field.isBlank_of_head?_chars h

/-- The words of fields are the words they were printed from. -/
lemma words_fields (fields : List Field) :
    words (fields.flatMap Field.chars) = fields.map fun field => field.word.chars := by
  induction fields with
  | nil => rfl
  | cons field fields ih =>
    rw [List.flatMap_cons, Field.chars, List.append_assoc, words_blanks_append field.gap.blank,
      words_append field.word.ne_nil field.word.blankless fun _ => isBlank_of_head?_fields, ih]
    rfl

namespace Row

variable (row : Row)

lemma words_core :
    words row.core =
      row.serial.chars :: row.state.word.chars :: row.fields.map fun field => field.word.chars := by
  unfold core
  rw [words_append row.serial.ne_nil row.serial.blankless fun _ => isBlank_of_head?_fields,
    words_fields]
  rfl

/-- A line begins with its serial, and that has no blank. -/
lemma isBlank_of_head?_core {c : Char} (h : row.core.head? = some c) : isBlank c = false := by
  unfold core at h
  rw [List.head?_append_of_ne_nil _ row.serial.ne_nil] at h
  exact row.serial.blankless c (List.mem_of_mem_head? h)

/-- A line ends with the word of its last field. -/
lemma isBlank_of_getLast?_core {c : Char} (h : row.core.getLast? = some c) :
    isBlank c = false := by
  obtain ⟨fields, last, hlast⟩ : ∃ fields last, row.state :: row.fields = fields ++ [last] :=
    ⟨_, _, (List.dropLast_append_getLast (List.cons_ne_nil _ _)).symm⟩
  have hcore : row.core =
      row.serial.chars ++ fields.flatMap Field.chars ++ last.gap.chars ++ last.word.chars := by
    unfold core
    rw [hlast, List.flatMap_append, List.flatMap_singleton, Field.chars]
    simp only [List.append_assoc]
  rw [hcore, List.getLast?_append_of_ne_nil _ last.word.ne_nil] at h
  exact last.word.blankless c (List.mem_of_mem_getLast? h)

lemma trim_chars : trim (Line.device row).chars = row.core :=
  trim_append row.before.blank row.after.blank (fun _ => row.isBlank_of_head?_core)
    (fun _ => row.isBlank_of_getLast?_core)

lemma words_chars : words (Line.device row).chars = words row.core := by
  rw [← words_trim, trim_chars]

/-- The line of a device is read as its entry. -/
lemma ofWords?_chars : Entry.ofWords? (Line.device row).chars = row.ready? := by
  unfold Entry.ofWords? ready?
  rw [words_chars, words_core, trim_chars]
  simp only [row.unstarred, ne_eq, not_false_eq_true, true_and, List.findSome?_map]
  rfl

end Row

/-- A notice is no entry, whatever it says. -/
lemma ofWords?_notice (before : Blanks) (rest : List Char) :
    Entry.ofWords? (before.chars ++ '*' :: rest) = none := by
  have hstar : firstWord ('*' :: rest) ≠ [] ∧ (firstWord ('*' :: rest)).head? = some '*' := by
    have hblank : isBlank '*' = false := by decide
    simp [firstWord, hblank]
  unfold Entry.ofWords?
  rw [words_blanks_append before.blank, words_eq_cons hstar.1]
  split
  · next hwords =>
    obtain ⟨rfl, -⟩ := List.cons.inj hwords
    exact if_neg fun h => h.1 hstar.2
  · rfl

/-- **One line** is read as the entry it was printed from, if it was printed from one. -/
lemma Line.ofWords?_chars (line : Line) : Entry.ofWords? line.chars = line.ready? := by
  cases line with
  | device row => exact row.ofWords?_chars
  | blank blanks =>
    unfold Entry.ofWords? chars
    rw [words_of_isBlank blanks.blank]
    rfl
  | notice before rest unbroken => exact ofWords?_notice before rest

/-! ### Line breaks -/

lemma Field.newline_notMem_chars (field : Field) : '\n' ∉ field.chars := by
  intro h
  rcases List.mem_append.1 h with h | h
  · exact field.gap.unbroken h
  · exact absurd (field.word.blankless _ h) (by decide)

lemma Line.newline_notMem_chars (line : Line) : '\n' ∉ line.chars := by
  cases line with
  | device row =>
    intro h
    rcases List.mem_append.1 h with h | h
    · exact row.before.unbroken h
    rcases List.mem_append.1 h with h | h
    · rcases List.mem_append.1 h with h | h
      · exact absurd (row.serial.blankless _ h) (by decide)
      · obtain ⟨field, -, hfield⟩ := List.mem_flatMap.1 h
        exact field.newline_notMem_chars hfield
    · exact row.after.unbroken h
  | blank blanks => exact blanks.unbroken
  | notice before rest unbroken =>
    intro h
    rcases List.mem_append.1 h with h | h
    · exact before.unbroken h
    rcases List.mem_cons.1 h with h | h
    · exact absurd h (by decide)
    · exact unbroken h

/-- The carriage return of an ending is not seen. -/
lemma ofWords?_append_carriage (line : List Char) (ending : Ending) :
    Entry.ofWords? (line ++ ending.carriage) = Entry.ofWords? line := by
  have hblank : ∀ c ∈ ending.carriage, isBlank c = true := by
    cases ending with
    | feed => exact fun c hc => absurd hc List.not_mem_nil
    | returnFeed => exact List.forall_mem_singleton.2 (by decide)
  have htrim : trim (line ++ ending.carriage) = trim line := by
    cases ending with
    | feed => rw [Ending.carriage, List.append_nil]
    | returnFeed => exact trim_append_singleton line (by decide)
  unfold Entry.ofWords?
  rw [words_append_blanks line hblank, htrim]

/-- A line that is ended by a line break is the first piece of the text. -/
lemma cut_line {line : List Char} (h : '\n' ∉ line) (ending : Ending) (rest : List Char) :
    cut '\n' (line ++ ending.carriage ++ '\n' :: rest) =
      (line ++ ending.carriage) :: cut '\n' rest := by
  have hline : ∀ c ∈ line ++ ending.carriage, (c == '\n') = false := by
    intro c hc
    refine beq_false_of_ne ?_
    rintro rfl
    rcases List.mem_append.1 hc with hc | hc
    · exact h hc
    · cases ending <;> revert hc <;> decide
  unfold cut
  rw [cutAt_append_cons (by rfl), cutAt_of_neg hline]
  rfl

/-- The pieces of a text are read as the lines it was written from. -/
lemma filterMap_cut_writeLines (ended : Bool) :
    ∀ {lines : List (List Char × Ending)}, (∀ line ∈ lines, '\n' ∉ line.1) →
      (cut '\n' (writeLines ended lines)).filterMap Entry.ofWords? =
        lines.filterMap fun line => Entry.ofWords? line.1
  | [], _ => rfl
  | [(line, ending)], h => by
    have hline : '\n' ∉ line := h _ (List.mem_singleton.2 rfl)
    cases ended with
    | true =>
      have hcut := cut_line hline ending []
      rw [writeLines, if_pos rfl, ← List.append_assoc, hcut, List.filterMap_cons,
        ofWords?_append_carriage]
      rfl
    | false =>
      have hpiece : cut '\n' line = [line] :=
        cutAt_of_neg fun c hc => beq_false_of_ne fun e => hline (e ▸ hc)
      rw [writeLines, if_neg Bool.false_ne_true, List.append_nil, hpiece]
      rfl
  | (line, ending) :: next :: lines, h => by
    have ih := filterMap_cut_writeLines ended fun other hother =>
      h other (List.mem_cons_of_mem _ hother)
    rw [writeLines, cut_line (h _ (List.mem_cons_self ..)), List.filterMap_cons,
      ofWords?_append_carriage, ih]
    rfl

/-- Lines that are written behind a header are read as entries one by one. -/
theorem entries_writeLines {header : List Char} {lines : List (List Char × Ending)}
    (hheader : '\n' ∉ header) (hlines : ∀ line ∈ lines, '\n' ∉ line.1) (ending : Ending)
    (ended : Bool) :
    entries (String.ofList (writeLines ended ((header, ending) :: lines))) =
      lines.filterMap fun line => Entry.ofWords? line.1 := by
  rw [entries_eq_filterMap_pieces, String.toList_ofList]
  cases lines with
  | nil =>
    cases ended with
    | true =>
      have hcut := cut_line hheader ending []
      rw [writeLines, if_pos rfl, ← List.append_assoc, hcut]
      rfl
    | false =>
      have hpiece : cut '\n' header = [header] :=
        cutAt_of_neg fun c hc => beq_false_of_ne fun e => hheader (e ▸ hc)
      rw [writeLines, if_neg Bool.false_ne_true, List.append_nil, hpiece]
      rfl
  | cons line lines =>
    rw [writeLines, cut_line hheader, List.drop_one, List.tail_cons]
    exact filterMap_cut_writeLines ended hlines

/-! ### The whole listing -/

/-- **Reading undoes printing.** The entries of a printed listing are those of its ready devices, in
order: blanks, line endings, blank lines, notices and devices in other states leave no trace. -/
theorem entries_text (printed : Printed) :
    entries printed.text = printed.lines.filterMap fun line => line.1.ready? := by
  have hlines : ∀ line ∈ printed.lines.map fun (line, ending) => (line.chars, ending),
      '\n' ∉ line.1 := by
    intro line hline
    obtain ⟨source, -, rfl⟩ := List.mem_map.1 hline
    exact source.1.newline_notMem_chars
  unfold Printed.text
  rw [entries_writeLines printed.unbroken hlines, List.filterMap_map]
  refine List.filterMap_congr fun line _ => ?_
  exact line.1.ofWords?_chars

end Screencast.Listing
