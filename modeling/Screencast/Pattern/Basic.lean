import Screencast.Text.Folding
import Screencast.Text.Property.Lookup

/-!
Patterns: what a text has to look like, put together from sets of characters and from conditions on
places.
-/

namespace Screencast

namespace Pattern

/-- Where a place stands towards words. -/
inductive WordEdge where
  | boundary
  | notBoundary
  | start
  | stop
  /-- No word is on the left. -/
  | startHalf
  /-- No word is on the right. -/
  | stopHalf
deriving DecidableEq, Repr

/-- A condition on a place in a text. -/
inductive Look where
  | textStart
  | textEnd
  /-- The start of a line; a carriage return may end the line before. -/
  | lineStart (crlf : Bool)
  | lineEnd (crlf : Bool)
  /-- An edge of a word, of all letters or of ASCII letters. -/
  | word (unicode : Bool) (edge : WordEdge)
deriving DecidableEq, Repr

end Pattern

open Pattern Text

/-- A pattern. -/
inductive Pattern where
  /-- Nothing. -/
  | empty
  /-- The characters one behind the other. -/
  | string (chars : List Char)
  /-- One character of a set; `ascii` says that it was written where classes hold ASCII
  characters only. -/
  | oneOf (chars : CharSet) (ascii : Bool)
  | look (look : Look)
  /-- A pattern and behind it the rest of a sequence. -/
  | seq (first rest : Pattern)
  /-- A pattern or one of the rest of some alternatives. -/
  | alt (first rest : Pattern)
  /-- A pattern several times: at least `low` times, and at most `high` times if there is a bound;
  a lazy one takes as few as it can. -/
  | times (low : Nat) (high : Option Nat) (isLazy : Bool) (body : Pattern)
  /-- A pattern whose text is remembered. -/
  | capture (body : Pattern)
deriving DecidableEq, Repr

namespace Pattern

/-! ### Characters of words -/

/-- Characters of words in any language. -/
def wordChars : CharSet :=
  CharSet.ofTables (Property.alphabetic ++ Property.marks ++
    [Category.decimalNumber, Category.connectorPunctuation, Property.joinControl])

/-- Characters of words in ASCII. -/
def asciiWordChars : CharSet :=
  ⟨[('0'.toNat, '9'.toNat), ('A'.toNat, 'Z'.toNat), ('_'.toNat, '_'.toNat),
    ('a'.toNat, 'z'.toNat)]⟩

/-! ### Places -/

/-- A place in a text, by the characters on both sides. -/
structure Gap where
  before : Option Char
  after : Option Char
deriving DecidableEq, Repr

/-- The places in a text, behind a character. -/
def gapsFrom (before : Option Char) : List Char → List Gap
  | [] => [⟨before, none⟩]
  | c :: text => ⟨before, some c⟩ :: gapsFrom (some c) text

/-- The places in a text, in order. -/
def gaps (text : List Char) : List Gap := gapsFrom none text

/-- The condition on both sides of a place: whether a word is on the left and on the right. -/
def WordEdge.holds : WordEdge → Bool → Bool → Bool
  | boundary, left, right => left != right
  | notBoundary, left, right => left == right
  | start, left, right => !left && right
  | stop, left, right => left && !right
  | startHalf, left, _ => !left
  | stopHalf, _, right => !right

/-- The characters of words, as a condition takes them. -/
def Look.words : Look → CharSet
  | word true _ => wordChars
  | _ => asciiWordChars

/-- The condition holds at a place. A pair of carriage return and line feed ends a line once. -/
def Look.holds (words : CharSet) : Look → Gap → Bool
  | textStart, gap => gap.before.isNone
  | textEnd, gap => gap.after.isNone
  | lineStart false, gap => gap.before.all (· == '\n')
  | lineEnd false, gap => gap.after.all (· == '\n')
  | lineStart true, gap =>
    gap.before.all fun c => c == '\n' || (c == '\r' && gap.after != some '\n')
  | lineEnd true, gap =>
    gap.after.all fun c => c == '\r' || (c == '\n' && gap.before != some '\r')
  | word _ edge, gap => edge.holds (gap.before.any words.contains) (gap.after.any words.contains)

end Pattern

end Screencast
