import Screencast.Text.CharSet

/-!
Sets of characters as sequences of bytes in UTF-8: the characters of a set are those of which each
byte lies in a range of one of the sequences.
-/

namespace Screencast.Text

/-- A sequence of bytes, each from a range. -/
abbrev ByteRanges := List (Nat × Nat)

/-- The sequences for the numbers from `low` to `high`, which have a leading digit and some
continuation digits to the base 64; `lead` is the byte of the leading digit zero. -/
def sequencesOf (lead : Nat) : Nat → Nat → Nat → List ByteRanges
  | 0, low, high => [[(lead + low, lead + high)]]
  | digits + 1, low, high =>
    let unit := 1 <<< (6 * (digits + 1))
    let (first, last) := (low / unit, high / unit)
    let within (digit low high : Nat) : List ByteRanges :=
      (sequencesOf 0x80 digits low high).map fun rest => (lead + digit, lead + digit) :: rest
    let full (first last : Nat) : List ByteRanges :=
      if first ≤ last then [(lead + first, lead + last) :: List.replicate (digits + 1) (0x80, 0xBF)]
      else []
    if first = last ∧ ¬(low % unit = 0 ∧ high % unit = unit - 1) then
      within first (low % unit) (high % unit)
    else
      let middleFirst := if low % unit = 0 then first else first + 1
      let middleLast := if high % unit = unit - 1 then last + 1 else last
      (if low % unit = 0 then [] else within first (low % unit) (unit - 1)) ++
        (if middleLast = 0 then [] else full middleFirst (middleLast - 1)) ++
        (if high % unit = unit - 1 then [] else within last 0 (high % unit))

/-- The code points of each length in UTF-8 without the surrogates: the byte of the leading digit
zero, the number of further digits, and the ends. -/
def lengthClasses : List (Nat × Nat × Nat × Nat) :=
  [(0x00, 0, 0x0, 0x7F), (0xC0, 1, 0x80, 0x7FF), (0xE0, 2, 0x800, 0xD7FF),
   (0xE0, 2, 0xE000, 0xFFFF), (0xF0, 3, 0x10000, 0x10FFFF)]

/-- The byte sequences of a range of code points, in order. -/
def rangeSequences (range : Nat × Nat) : List ByteRanges :=
  lengthClasses.flatMap fun (lead, digits, first, last) =>
    let low := max range.1 first
    let high := min range.2 last
    if low ≤ high then sequencesOf lead digits low high else []

/-- The byte sequences of a set, in order. -/
def CharSet.sequences (set : CharSet) : List ByteRanges := set.ranges.flatMap rangeSequences

end Screencast.Text
