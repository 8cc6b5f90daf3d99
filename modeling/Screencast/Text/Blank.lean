import Screencast.Text.Pieces

/-!
White space: which characters are blank, the text without the blanks around it, and the words
between blanks.
-/

namespace Screencast.Text

/-- The characters with the Unicode property White_Space. -/
def isBlank (c : Char) : Bool :=
  let n := c.toNat
  (0x9 ≤ n && n ≤ 0xD) || n == 0x20 || n == 0x85 || n == 0xA0 || n == 0x1680 ||
    (0x2000 ≤ n && n ≤ 0x200A) || n == 0x2028 || n == 0x2029 || n == 0x202F || n == 0x205F ||
    n == 0x3000

/-- The longest beginning of a text without a blank. -/
def firstWord (cs : List Char) : List Char := cs.takeWhile fun c => !isBlank c

/-- What follows the first word and the blanks after it. -/
def afterFirstWord (cs : List Char) : List Char :=
  (cs.dropWhile fun c => !isBlank c).dropWhile isBlank

/-- The words of a text: its longest runs of characters that are not blank, in order. -/
def words (cs : List Char) : List (List Char) := (cutAt isBlank cs).filter (! ·.isEmpty)

/-- The text without its leading blanks. -/
def trimStart (cs : List Char) : List Char := cs.dropWhile isBlank

/-- The text without its trailing blanks. -/
def trimEnd (cs : List Char) : List Char := (cs.reverse.dropWhile isBlank).reverse

/-- The text without the blanks around it. -/
def trim (cs : List Char) : List Char := trimEnd (trimStart cs)

/-- The string without the blanks around it. -/
def trimString (s : String) : String := String.ofList (trim s.toList)

/-- No character of the first word is blank. -/
theorem not_isBlank_of_mem_firstWord {cs : List Char} {c : Char} (h : c ∈ firstWord cs) :
    isBlank c = false := by
  induction cs with
  | nil => simp [firstWord] at h
  | cons d ds ih =>
    rw [firstWord, List.takeWhile_cons] at h
    split at h
    · next hd =>
      rcases List.mem_cons.1 h with rfl | h
      · simpa using hd
      · exact ih h
    · simp at h

theorem words_cons_of_isBlank {c : Char} (h : isBlank c = true) (cs : List Char) :
    words (c :: cs) = words cs := by
  rw [words, cutAt_cons_of_pos h]
  rfl

theorem ne_nil_of_mem_words {cs word : List Char} (h : word ∈ words cs) : word ≠ [] := by
  have := (List.mem_filter.1 h).2
  intro e
  simp [e] at this

end Screencast.Text
