/-!
Sets of characters as ranges of code points. The ranges of a set stand in order and leave gaps
between them, so that a set has one form.
-/

namespace Screencast.Text

/-- The code point lies in one of the ranges. -/
def within (ranges : List (Nat × Nat)) (n : Nat) : Bool :=
  ranges.any fun (low, high) => low ≤ n && n ≤ high

/-- A set of code points. -/
structure CharSet where
  /-- The ranges with both ends included, in order, with gaps between them. -/
  ranges : List (Nat × Nat)
deriving DecidableEq, Repr

namespace CharSet

/-- The last code point. -/
def lastPoint : Nat := 0x10FFFF

/-- The character belongs to the set. -/
def contains (set : CharSet) (c : Char) : Bool := within set.ranges c.toNat

/-- Joins a range to those behind it: the ones that it meets or touches become a part of it. -/
def glue (low high : Nat) : List (Nat × Nat) → List (Nat × Nat)
  | [] => [(low, high)]
  | (nextLow, nextHigh) :: ranges =>
    if nextLow ≤ high + 1 then glue low (max high nextHigh) ranges
    else (low, high) :: glue nextLow nextHigh ranges

/-- The set of ranges in any order. -/
def ofRanges (ranges : List (Nat × Nat)) : CharSet :=
  match ranges.mergeSort fun a b => a.1 ≤ b.1 with
  | [] => ⟨[]⟩
  | (low, high) :: ranges => ⟨glue low high ranges⟩

/-- The set of all code points in some tables. -/
def ofTables (tables : List (List (Nat × Nat))) : CharSet := ofRanges tables.flatten

/-- The set without members. -/
def empty : CharSet := ⟨[]⟩

/-- The set of one character. -/
def single (c : Char) : CharSet := ⟨[(c.toNat, c.toNat)]⟩

/-- The gaps between the ranges from a code point on. -/
def gaps (low : Nat) : List (Nat × Nat) → List (Nat × Nat)
  | [] => if low ≤ lastPoint then [(low, lastPoint)] else []
  | (nextLow, nextHigh) :: ranges =>
    if low < nextLow then (low, nextLow - 1) :: gaps (nextHigh + 1) ranges
    else gaps (nextHigh + 1) ranges

/-- The code points outside the set. -/
def complement (set : CharSet) : CharSet := ⟨gaps 0 set.ranges⟩

/-- The members of either set. -/
def union (a b : CharSet) : CharSet := ofRanges (a.ranges ++ b.ranges)

/-- The common members of two sets. -/
def inter (a b : CharSet) : CharSet := (a.complement.union b.complement).complement

/-- The members of the first set that are not in the second. -/
def diff (a b : CharSet) : CharSet := (a.complement.union b).complement

/-- The members of exactly one of two sets. -/
def symmDiff (a b : CharSet) : CharSet := (a.union b).diff (a.inter b)

/-- The only member of a set that has no other. -/
def single? (set : CharSet) : Option Nat :=
  match set.ranges with
  | [(low, high)] => if low = high then some low else none
  | _ => none

/-- All members of the set are ASCII characters. -/
def isAscii (set : CharSet) : Bool := set.ranges.all fun range => range.2 < 0x80

end CharSet

end Screencast.Text
