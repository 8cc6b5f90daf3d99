/-!
Places in the text of a pattern, and the stretches between them.
-/

namespace Screencast.Pattern

/-- A place in a text: the line and the column of a character, both counted from one. -/
structure Place where
  line : Nat := 1
  column : Nat := 1
deriving DecidableEq, Repr

namespace Place

/-- The place behind a character that stands here. -/
def behind (place : Place) (c : Char) : Place :=
  if c = '\n' then ⟨place.line + 1, 1⟩ else ⟨place.line, place.column + 1⟩

/-- The first place is before the second, or the same. -/
def atMost (a b : Place) : Bool := a.line < b.line || (a.line == b.line && a.column ≤ b.column)

end Place

/-- The stretch from a place up to another. -/
structure Extent where
  start : Place
  stop : Place
deriving DecidableEq, Repr

namespace Extent

/-- The stretch begins and ends on one line. -/
def isOneLine (extent : Extent) : Bool := extent.start.line == extent.stop.line

/-- The order of stretches: by the start, then by the end. -/
def atMost (a b : Extent) : Bool :=
  if a.start = b.start then a.stop.atMost b.stop else a.start.atMost b.start

end Extent

end Screencast.Pattern
