import Screencast.Pattern.Place

/-!
The syntax of patterns as a tree. Each part knows where it stands in the text, so that whoever finds
a fault in it can point there.
-/

namespace Screencast.Pattern

/-- What changes the reading of the pattern behind it. -/
inductive Flag where
  /-- Letters stand for both cases. -/
  | ignoreCase
  /-- The two anchors stand for the ends of each line. -/
  | multiLine
  /-- The dot stands for a line break too. -/
  | dotAll
  /-- Repetitions take as little as they can. -/
  | swapGreed
  /-- Classes go beyond ASCII. -/
  | unicode
  /-- A carriage return ends a line too. -/
  | crlf
  /-- Blanks are left out, and comments. -/
  | verbose
deriving DecidableEq, Repr

/-- A character that stands for itself. -/
structure Literal where
  extent : Extent
  char : Char
  /-- It is written by the two digits of a byte. -/
  isByte : Bool := false
deriving DecidableEq, Repr

/-- Conditions on a place in a text. -/
inductive Assertion where
  | startLine
  | endLine
  | startText
  | endText
  | wordBoundary
  | notWordBoundary
  | wordStart
  | wordEnd
  | wordStartHalf
  | wordEndHalf
deriving DecidableEq, Repr

/-- Classes of one letter. -/
inductive ShortClass where
  | digit
  | space
  | word
deriving DecidableEq, Repr

/-- Classes of ASCII characters with a name between colons. -/
inductive AsciiClass where
  | alnum
  | alpha
  | ascii
  | blank
  | cntrl
  | digit
  | graph
  | lower
  | print
  | punct
  | space
  | upper
  | word
  | xdigit
deriving DecidableEq, Repr

/-- What a property of characters is called. -/
inductive PropertyName where
  /-- By a name, or by the name of a value. -/
  | named (name : String)
  /-- By the names of a property and of its value, or of the one value that it has not. -/
  | valued (name value : String) (differs : Bool)
deriving DecidableEq, Repr

/-- How two classes are put together. -/
inductive ClassOp where
  | intersection
  | difference
  | symmetricDifference
deriving DecidableEq, Repr

/-- A class of characters. -/
inductive ClassTree where
  | literal (char : Literal)
  | range (extent : Extent) (low high : Literal)
  | ascii (extent : Extent) (negated : Bool) (name : AsciiClass)
  | short (extent : Extent) (negated : Bool) (name : ShortClass)
  | property (extent : Extent) (negated : Bool) (name : PropertyName)
  | bracket (extent : Extent) (negated : Bool) (body : ClassTree)
  | union (extent : Extent) (members : List ClassTree)
  | op (extent : Extent) (op : ClassOp) (left right : ClassTree)
deriving Repr

/-- Where a class stands. -/
def ClassTree.extent : ClassTree → Extent
  | .literal char => char.extent
  | .range extent .. | .ascii extent .. | .short extent ..
  | .property extent .. | .bracket extent .. | .union extent .. | .op extent .. => extent

/-- The kinds of groups. -/
inductive GroupKind where
  /-- The text that the group fits is remembered. -/
  | capturing
  /-- The flags hold up to the end of the group. -/
  | flagged (changes : List (Flag × Bool))
deriving DecidableEq, Repr

/-- A pattern as it is written. -/
inductive Tree where
  | empty (extent : Extent)
  | flags (extent : Extent) (changes : List (Flag × Bool))
  | literal (char : Literal)
  | dot (extent : Extent)
  | assertion (extent : Extent) (assertion : Assertion)
  | chars (set : ClassTree)
  | repetition (extent : Extent) (low : Nat) (high : Option Nat) (isLazy : Bool) (tree : Tree)
  | group (extent : Extent) (kind : GroupKind) (tree : Tree)
  | alternation (extent : Extent) (trees : List Tree)
  | sequence (extent : Extent) (trees : List Tree)
deriving Repr

/-- Where a tree stands. -/
def Tree.extent : Tree → Extent
  | .literal char => char.extent
  | .chars set => set.extent
  | .empty extent | .flags extent _ | .dot extent | .assertion extent _
  | .repetition extent .. | .group extent .. | .alternation extent _
  | .sequence extent _ => extent

end Screencast.Pattern
