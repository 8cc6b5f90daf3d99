import Screencast.Pattern.Fault
import Screencast.Text.Blank

/-!
Reading a pattern from the left: what is left of it, and where that stands. A verbose pattern is
read without its blanks and without its comments, which go from a number sign to the line's end.
-/

namespace Screencast.Pattern

/-- What is left of a pattern. -/
structure Cursor where
  rest : List Char
  place : Place := {}
  verbose : Bool := false
deriving DecidableEq, Repr

namespace Cursor

/-- Nothing is left. -/
def atEnd (cur : Cursor) : Bool := cur.rest.isEmpty

/-- The next character. -/
def next? (cur : Cursor) : Option Char := cur.rest.head?

/-- Behind the next character. -/
def step (cur : Cursor) : Cursor :=
  match cur.rest with
  | [] => cur
  | c :: rest => { cur with rest := rest, place := cur.place.behind c }

/-- What is left behind blanks and comments; `comment` says that the text starts inside one. -/
def behindBlanks : Bool → List Char → Place → List Char × Place
  | _, [], place => ([], place)
  | true, c :: rest, place => behindBlanks (c ≠ '\n') rest (place.behind c)
  | false, c :: rest, place =>
    if Text.isBlank c then behindBlanks false rest (place.behind c)
    else if c = '#' then behindBlanks true rest (place.behind c)
    else (c :: rest, place)

/-- Behind the blanks and comments that are left out here. -/
def skip (cur : Cursor) : Cursor :=
  if cur.verbose then
    { cur with
      rest := (behindBlanks false cur.rest cur.place).1
      place := (behindBlanks false cur.rest cur.place).2 }
  else cur

/-- Behind the next character and what is left out after it. -/
def advance (cur : Cursor) : Cursor := cur.step.skip

theorem length_behindBlanks_le (comment : Bool) (rest : List Char) (place : Place) :
    (behindBlanks comment rest place).1.length ≤ rest.length := by
  induction rest generalizing comment place with
  | nil => cases comment <;> exact Nat.le_refl _
  | cons c rest ih =>
    have h := fun comment => Nat.le_succ_of_le (ih comment (place.behind c))
    cases comment with
    | true => exact h _
    | false =>
      rw [behindBlanks]
      split
      · exact h _
      · split
        · exact h _
        · exact Nat.le_refl _

theorem length_skip_le (cur : Cursor) : cur.skip.rest.length ≤ cur.rest.length := by
  rw [skip]
  split
  · exact length_behindBlanks_le ..
  · exact Nat.le_refl _

/-- Whoever advances has less to read. -/
theorem length_advance_lt {cur : Cursor} {c : Char} {rest : List Char} (h : cur.rest = c :: rest) :
    cur.advance.rest.length < cur.rest.length := by
  have := length_skip_le cur.step
  have e : cur.step.rest = rest := by rw [step, h]
  rw [e] at this
  rw [h]
  exact Nat.lt_succ_of_le this

/-- The characters from here on that satisfy `p`, and what is left behind them. -/
def collect (p : Char → Bool) (cur : Cursor) : List Char × Cursor :=
  match _h : cur.rest with
  | [] => ([], cur)
  | c :: _ =>
    if p c then
      let found := cur.advance.collect p
      (c :: found.1, found.2)
    else ([], cur)
termination_by cur.rest.length
decreasing_by exact length_advance_lt _h

/-- Behind a number of characters. -/
def steps : Nat → Cursor → Cursor
  | 0, cur => cur
  | n + 1, cur => steps n cur.step

/-- Behind a text, if it stands here. -/
def behind? (text : String) (cur : Cursor) : Option Cursor :=
  if text.toList.isPrefixOf cur.rest then some (steps text.length cur) else none

/-- The character behind the next one. -/
def second? (cur : Cursor) : Option Char := cur.rest.tail.head?

/-- The character behind the next one that is no blank, where blanks are left out; a single number
sign is passed over as well. -/
def secondVisible? (cur : Cursor) : Option Char :=
  if cur.verbose then
    match cur.rest.tail.dropWhile Text.isBlank with
    | '#' :: rest => (rest.dropWhile Text.isBlank).head?
    | rest => rest.head?
  else cur.second?

/-! ### Stretches -/

/-- The empty stretch here. -/
def here (cur : Cursor) : Extent := ⟨cur.place, cur.place⟩

/-- The stretch of the next character. -/
def atNext (cur : Cursor) : Extent := ⟨cur.place, cur.step.place⟩

/-- The stretch from an earlier place up to here. -/
def since (cur : Cursor) (start : Place) : Extent := ⟨start, cur.place⟩

/-! ### Numbers -/

/-- The greatest number of times that a pattern can ask for. -/
def largestCount : Nat := 0xFFFF_FFFF

/-- Reads a decimal number with blanks around it. What is left does not depend on whether there is
one. -/
def decimal (cur : Cursor) : Except Fault Nat × Cursor :=
  let first := (cur.collect Text.isBlank).2
  let digits := first.collect Char.isDigit
  let extent := digits.2.since first.place
  let value := digits.1.foldl (fun value c => 10 * value + (c.toNat - '0'.toNat)) 0
  ((if digits.1.isEmpty then .error { kind := .countEmpty, extent }
    else if largestCount < value then .error { kind := .decimalTooLarge, extent }
    else .ok value),
    (digits.2.collect Text.isBlank).2)

end Cursor

end Screencast.Pattern
