import Screencast.Pattern.Place
import Screencast.Text.Numeral
import Screencast.Text.Pieces

/-!
What can be wrong with a pattern, and the picture that shows where: the lines of the pattern, with
carets under the stretches in question.
-/

namespace Screencast.Pattern

/-- What is wrong with a pattern. -/
inductive FaultKind where
  | classEscape
  | classRangeOrder
  | classRangeBoundary
  | classUnclosed
  | decimalTooLarge
  | hexEmpty
  | hexNoCharacter
  | hexDigit
  | escapeIncomplete
  | escapeUnknown
  | flagDanglingNegation
  | flagRepeated
  | flagNegatedTwice
  | flagMissing
  | flagUnknown
  | groupNameRepeated
  | groupNameEmpty
  | groupNameCharacter
  | groupNameUnclosed
  | groupUnclosed
  | groupUnopened
  | nestedTooDeep (limit : Nat)
  | countOrder
  | countEmpty
  | countUnclosed
  | repetitionOfNothing
  | boundaryUnclosed
  | boundaryUnknown
  | boundaryIncomplete
  | propertyInvalid
  | backreference
  | lookAround
  | unicodeNotAllowed
  | invalidUtf8
  | propertyUnknown
  | propertyValueUnknown
deriving DecidableEq, Repr

/-- What is wrong, in words. -/
def FaultKind.message : FaultKind → String
  | classEscape => "invalid escape sequence found in character class"
  | classRangeOrder => "invalid character class range, the start must be <= the end"
  | classRangeBoundary => "invalid range boundary, must be a literal"
  | classUnclosed => "unclosed character class"
  | decimalTooLarge => "decimal literal invalid"
  | hexEmpty => "hexadecimal literal empty"
  | hexNoCharacter => "hexadecimal literal is not a Unicode scalar value"
  | hexDigit => "invalid hexadecimal digit"
  | escapeIncomplete => "incomplete escape sequence, reached end of pattern prematurely"
  | escapeUnknown => "unrecognized escape sequence"
  | flagDanglingNegation => "dangling flag negation operator"
  | flagRepeated => "duplicate flag"
  | flagNegatedTwice => "flag negation operator repeated"
  | flagMissing => "expected flag but got end of regex"
  | flagUnknown => "unrecognized flag"
  | groupNameRepeated => "duplicate capture group name"
  | groupNameEmpty => "empty capture group name"
  | groupNameCharacter => "invalid capture group character"
  | groupNameUnclosed => "unclosed capture group name"
  | groupUnclosed => "unclosed group"
  | groupUnopened => "unopened group"
  | nestedTooDeep limit =>
    "exceed the maximum number of nested parentheses/brackets (" ++ Text.decimal limit ++ ")"
  | countOrder => "invalid repetition count range, the start must be <= the end"
  | countEmpty => "repetition quantifier expects a valid decimal"
  | countUnclosed => "unclosed counted repetition"
  | repetitionOfNothing => "repetition operator missing expression"
  | boundaryUnclosed =>
    "special word boundary assertion is either unclosed or contains an invalid character"
  | boundaryUnknown =>
    "unrecognized special word boundary assertion, valid choices are: start, end, start-half " ++
      "or end-half"
  | boundaryIncomplete =>
    "found either the beginning of a special word boundary or a bounded repetition on a \\b " ++
      "with an opening brace, but no closing brace"
  | propertyInvalid => "invalid Unicode character class"
  | backreference => "backreferences are not supported"
  | lookAround => "look-around, including look-ahead and look-behind, is not supported"
  | unicodeNotAllowed => "Unicode not allowed here"
  | invalidUtf8 => "pattern can match invalid UTF-8"
  | propertyUnknown => "Unicode property not found"
  | propertyValueUnknown => "Unicode property value not found"

/-- Something wrong at a place in a pattern. -/
structure Fault where
  kind : FaultKind
  extent : Extent
  /-- The earlier place that it is at odds with. -/
  earlier : Option Extent := none
deriving DecidableEq, Repr

namespace Fault

/-! ### The picture -/

/-- The stretches of a fault in order. -/
def extents (fault : Fault) : List Extent :=
  match fault.earlier with
  | none => [fault.extent]
  | some earlier =>
    if earlier.atMost fault.extent then [earlier, fault.extent] else [fault.extent, earlier]

/-- Characters in a row. -/
def row (n : Nat) (c : Char) : String := String.ofList (List.replicate n c)

/-- Carets under some stretches of a line, from a column on; an empty stretch has one too. -/
def carets (column : Nat) : List Extent → String
  | [] => ""
  | extent :: extents =>
    let left := max column extent.start.column
    let width := max 1 (extent.stop.column - extent.start.column)
    row (left - column) ' ' ++ row width '^' ++ carets (left + width) extents

/-- The lines of a pattern, each behind its number where there are several, and under them the
carets. -/
def picture (fault : Fault) (pattern : String) (numberWidth : Nat) : String :=
  let marked := fault.extents.filter Extent.isOneLine
  let margin (number : Nat) : String :=
    if numberWidth = 0 then row 4 ' '
    else
      let digits := Text.decimal number
      row (numberWidth - digits.length) ' ' ++ digits ++ ": "
  let indent := if numberWidth = 0 then 4 else numberWidth + 2
  String.join ((Text.textLines pattern).zipIdx.map fun (line, i) =>
    let here := marked.filter fun extent => extent.start.line == i + 1
    margin (i + 1) ++ line ++ "\n" ++
      (if here.isEmpty then "" else row indent ' ' ++ carets 1 here ++ "\n"))

/-- Where a stretch over several lines begins and ends. -/
def overLines (extent : Extent) : String :=
  "on line " ++ Text.decimal extent.start.line ++ " (column " ++
    Text.decimal extent.start.column ++ ") through line " ++ Text.decimal extent.stop.line ++
    " (column " ++ Text.decimal (extent.stop.column - 1) ++ ")"

/-- What is wrong with a pattern and where, in words and with the picture. -/
def message (fault : Fault) (pattern : String) : String :=
  let closing := "error: " ++ fault.kind.message
  if pattern.toList.contains '\n' then
    let last := if pattern.toList.getLast? = some '\n' then 1 else 0
    let count := (Text.textLines pattern).length + last
    let divider := row 79 '~' ++ "\n"
    let others := fault.extents.filter fun extent => !extent.isOneLine
    "regex parse error:\n" ++ divider ++ fault.picture pattern (Text.decimal count).length ++
      divider ++
      (if others.isEmpty then "" else Text.joinStrings "\n" (others.map overLines) ++ "\n") ++
      closing
  else "regex parse error:\n" ++ fault.picture pattern 0 ++ closing

end Fault

end Screencast.Pattern
