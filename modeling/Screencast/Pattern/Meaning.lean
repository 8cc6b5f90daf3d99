import Screencast.Pattern.Depth
import Screencast.Pattern.Join
import Screencast.Pattern.Reader

/-!
The pattern that a tree stands for. Flags change what is behind them, up to the end of the group
that they stand in. Without the flag for Unicode, classes hold ASCII characters only.
-/

namespace Screencast.Pattern

open Text

/-- How a part of a pattern is meant. -/
structure Mode where
  ignoreCase : Bool := false
  multiLine : Bool := false
  dotAll : Bool := false
  swapGreed : Bool := false
  unicode : Bool := true
  crlf : Bool := false
deriving DecidableEq, Repr

namespace Mode

/-- Puts a flag on or out. The flag for blanks concerns the reading only. -/
def change (mode : Mode) : Flag × Bool → Mode
  | (.ignoreCase, on) => { mode with ignoreCase := on }
  | (.multiLine, on) => { mode with multiLine := on }
  | (.dotAll, on) => { mode with dotAll := on }
  | (.unicode, on) => { mode with unicode := on }
  | (.crlf, on) => { mode with crlf := on }
  | (.swapGreed, on) => { mode with swapGreed := on }
  | (.verbose, _) => mode

/-- The set with the other cases of its letters, where case does not count. -/
def fold (mode : Mode) (set : CharSet) : CharSet :=
  if !mode.ignoreCase then set else if mode.unicode then set.foldCase else set.foldAsciiCase

/-- The set or, negated, all other characters. Without Unicode only ASCII characters are
allowed. -/
def close (mode : Mode) (extent : Extent) (negated : Bool) (set : CharSet) :
    Except Fault CharSet :=
  let set := if negated then set.complement else set
  if mode.unicode || set.isAscii then .ok set else .error { kind := .invalidUtf8, extent }

/-- Checks a character that is written as a byte: without Unicode it must be an ASCII one. -/
def checkByte (mode : Mode) (char : Literal) : Except Fault Unit :=
  if !mode.unicode && char.isByte && 0x80 ≤ char.char.toNat then
    .error { kind := .invalidUtf8, extent := char.extent }
  else .ok ()

/-- Checks a character of a class. -/
def checkMember (mode : Mode) (char : Literal) : Except Fault Unit := do
  mode.checkByte char
  if !mode.unicode && 0x80 ≤ char.char.toNat then
    throw { kind := .unicodeNotAllowed, extent := char.extent }

end Mode

/-! ### Classes -/

/-- Ranges of characters. -/
def charRanges (ranges : List (Char × Char)) : CharSet :=
  CharSet.ofRanges (ranges.map fun (low, high) => (low.toNat, high.toNat))

/-- The characters of a named class. -/
def AsciiClass.chars : AsciiClass → CharSet
  | alnum => charRanges [('0', '9'), ('A', 'Z'), ('a', 'z')]
  | alpha => charRanges [('A', 'Z'), ('a', 'z')]
  | ascii => charRanges [('\x00', '\x7f')]
  | blank => charRanges [('\t', '\t'), (' ', ' ')]
  | cntrl => charRanges [('\x00', '\x1f'), ('\x7f', '\x7f')]
  | digit => charRanges [('0', '9')]
  | graph => charRanges [('!', '~')]
  | lower => charRanges [('a', 'z')]
  | print => charRanges [(' ', '~')]
  | punct => charRanges [('!', '/'), (':', '@'), ('[', '\x60'), ('\x7b', '~')]
  | space => charRanges [('\t', '\r'), (' ', ' ')]
  | upper => charRanges [('A', 'Z')]
  | word => asciiWordChars
  | xdigit => charRanges [('0', '9'), ('A', 'F'), ('a', 'f')]

/-- The characters of a class of one letter. -/
def ShortClass.chars (unicode : Bool) : ShortClass → CharSet
  | digit => if unicode then CharSet.ofTables [Category.decimalNumber] else AsciiClass.digit.chars
  | space => if unicode then CharSet.ofTables [Property.whiteSpace] else AsciiClass.space.chars
  | word => if unicode then wordChars else asciiWordChars

/-- The characters of a property by its name. -/
def PropertyName.chars (extent : Extent) (name : PropertyName) : Except Fault CharSet :=
  let found :=
    match name with
    | named name => Property.lookUp name
    | valued name value _ => Property.lookUpValue name value
  match found with
  | .ok set => .ok set
  | .error .unknownProperty => .error { kind := .propertyUnknown, extent }
  | .error .unknownValue => .error { kind := .propertyValueUnknown, extent }

/-- The name stands for the characters that do not have the value. -/
def PropertyName.isNegated : PropertyName → Bool
  | named _ => false
  | valued _ _ differs => differs

/-- Puts two sets together. -/
def ClassOp.apply : ClassOp → CharSet → CharSet → CharSet
  | intersection => CharSet.inter
  | difference => CharSet.diff
  | symmetricDifference => CharSet.symmDiff

mutual

/-- The characters of a class. -/
def ClassTree.chars (mode : Mode) : ClassTree → Except Fault CharSet
  | .literal char => do
    mode.checkMember char
    return CharSet.single char.char
  | .range _ low high => do
    mode.checkMember low
    mode.checkMember high
    return charRanges [(low.char, high.char)]
  | .ascii extent negated name => mode.close extent negated (mode.fold name.chars)
  | .short extent negated name => mode.close extent negated (name.chars mode.unicode)
  | .property extent negated name => do
    if !mode.unicode then throw { kind := .unicodeNotAllowed, extent }
    mode.close extent (negated != name.isNegated) (mode.fold (← name.chars extent))
  | .bracket extent negated body => do
    mode.close extent negated (mode.fold (← body.chars mode))
  | .union _ members => return CharSet.ofRanges (← ClassTree.allRanges mode members)
  | .op _ operator left right => do
    let left ← left.chars mode
    let right ← right.chars mode
    return operator.apply (mode.fold left) (mode.fold right)

/-- The ranges of several classes. -/
def ClassTree.allRanges (mode : Mode) : List ClassTree → Except Fault (List (Nat × Nat))
  | [] => return []
  | tree :: trees => do
    let set ← tree.chars mode
    return set.ranges ++ (← ClassTree.allRanges mode trees)

end

/-! ### Trees -/

/-- What the dot stands for. -/
def Mode.dot (mode : Mode) (extent : Extent) : Except Fault CharSet :=
  if !mode.unicode then .error { kind := .invalidUtf8, extent }
  else if mode.dotAll then .ok CharSet.empty.complement
  else if mode.crlf then .ok (charRanges [('\n', '\n'), ('\r', '\r')]).complement
  else .ok (CharSet.single '\n').complement

/-- What an anchor or another condition stands for. -/
def Mode.look (mode : Mode) : Assertion → Look
  | .startLine => if mode.multiLine then .lineStart mode.crlf else .textStart
  | .endLine => if mode.multiLine then .lineEnd mode.crlf else .textEnd
  | .startText => .textStart
  | .endText => .textEnd
  | .wordBoundary => .word mode.unicode .boundary
  | .notWordBoundary => .word mode.unicode .notBoundary
  | .wordStart => .word mode.unicode .start
  | .wordEnd => .word mode.unicode .stop
  | .wordStartHalf => .word mode.unicode .startHalf
  | .wordEndHalf => .word mode.unicode .stopHalf

mutual

/-- The pattern of a tree, and the mode behind it. -/
def Tree.toPattern (mode : Mode) : Tree → Except Fault (Pattern × Mode)
  | .empty _ => return (.empty, mode)
  | .flags _ changes => return (.empty, changes.foldl Mode.change mode)
  | .literal char => do
    mode.checkByte char
    return (ofSet (!mode.unicode) (mode.fold (CharSet.single char.char)), mode)
  | .dot extent => return (ofSet false (← mode.dot extent), mode)
  | .assertion _ condition => return (.look (mode.look condition), mode)
  | .chars set => return (ofSet (!mode.unicode) (← set.chars mode), mode)
  | .repetition _ low high isLazy tree => do
    let (body, mode) ← tree.toPattern mode
    return (Pattern.repetition low high (isLazy != mode.swapGreed) body, mode)
  | .group _ .capturing tree => do
    let (body, _) ← tree.toPattern mode
    return (.capture body, mode)
  | .group _ (.flagged changes) tree => do
    let (body, _) ← tree.toPattern (changes.foldl Mode.change mode)
    return (body, mode)
  | .alternation _ trees => do
    let (patterns, mode) ← Tree.allToPatterns mode trees
    return (alternatives patterns, mode)
  | .sequence _ trees => do
    let (patterns, mode) ← Tree.allToPatterns mode trees
    return (Pattern.sequence patterns, mode)

/-- The patterns of several trees, one behind the other. -/
def Tree.allToPatterns (mode : Mode) : List Tree → Except Fault (List Pattern × Mode)
  | [] => return ([], mode)
  | tree :: trees => do
    let (pattern, mode) ← tree.toPattern mode
    let (patterns, mode) ← Tree.allToPatterns mode trees
    return (pattern :: patterns, mode)

end

/-- The pattern that a text stands for. -/
def ofText (text : String) : Except Fault Pattern := do
  let tree ← Tree.read text
  tree.checkDepth
  return (← tree.toPattern {}).1

end Screencast.Pattern
