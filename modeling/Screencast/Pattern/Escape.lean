import Screencast.Pattern.Cursor
import Screencast.Pattern.Syntax

/-!
Escapes: a backslash and what follows it, which stand for a character, a class or a condition.
-/

namespace Screencast.Pattern

/-! ### Characters by their code points -/

/-- A hexadecimal digit. -/
def isHexDigit (c : Char) : Bool :=
  c.isDigit || ('a' ≤ c && c ≤ 'f') || ('A' ≤ c && c ≤ 'F')

/-- The value of a hexadecimal digit. -/
def hexDigitValue (c : Char) : Nat :=
  if c.isDigit then c.toNat - '0'.toNat else c.toLower.toNat - 'a'.toNat + 10

/-- The character at a code point. -/
def charAt? (digits : List Char) : Option Char :=
  let point := digits.foldl (fun value c => 16 * value + hexDigitValue c) 0
  if point.isValidChar then some (Char.ofNat point) else none

/-- Reads a fixed number of hexadecimal digits. -/
def readHexDigits : Nat → Cursor → Except Fault (List Char × Cursor)
  | 0, cur => .ok ([], cur)
  | n + 1, cur =>
    match cur.next? with
    | none => .error { kind := .escapeIncomplete, extent := cur.here }
    | some c =>
      if isHexDigit c then
        (readHexDigits n cur.advance).map fun (digits, cur) => (c :: digits, cur)
      else .error { kind := .hexDigit, extent := cur.atNext }

/-- Reads a code point of a fixed number of digits, in an escape from a place on. -/
def readFixedPoint (start : Place) (count : Nat) (cur : Cursor) :
    Except Fault (Literal × Cursor) := do
  let (digits, after) ← readHexDigits count cur
  match charAt? digits with
  | some c => return (⟨after.since start, c, count = 2⟩, after)
  | none => throw { kind := .hexNoCharacter, extent := after.since cur.place }

/-- Reads a code point in braces, in an escape from a place on. -/
def readBracedPoint (start : Place) (cur : Cursor) : Except Fault (Literal × Cursor) :=
  let (digits, stop) := cur.advance.collect isHexDigit
  match stop.next? with
  | none => .error { kind := .escapeIncomplete, extent := stop.since cur.place }
  | some '\x7d' =>
    let after := stop.advance
    if digits.isEmpty then .error { kind := .hexEmpty, extent := after.since cur.place }
    else
      match charAt? digits with
      | some c => .ok (⟨after.since start, c, false⟩, after)
      | none => .error { kind := .hexNoCharacter, extent := stop.since cur.step.place }
  | some _ => .error { kind := .hexDigit, extent := stop.atNext }

/-- Reads a code point behind the letter for its form. -/
def readPoint (start : Place) (count : Nat) (cur : Cursor) : Except Fault (Literal × Cursor) :=
  let first := cur.advance
  match first.next? with
  | none => .error { kind := .escapeIncomplete, extent := first.here }
  | some '\x7b' => readBracedPoint start first
  | some _ => readFixedPoint start count first

/-! ### Properties -/

/-- The text before the first occurrence of another, and the text behind that. -/
def cutOnce (separator : List Char) : List Char → Option (List Char × List Char)
  | [] => none
  | c :: cs =>
    if separator.isPrefixOf (c :: cs) then some ([], (c :: cs).drop separator.length)
    else (cutOnce separator cs).map fun (before, behind) => (c :: before, behind)

/-- The name of a property as it stands in braces. -/
def PropertyName.ofText (text : List Char) : PropertyName :=
  let signs := [(['!', '='], true), ([':'], false), (['='], false)]
  let parts := signs.findSome? fun (sign, differs) =>
    (cutOnce sign text).map fun (name, value) =>
      PropertyName.valued (String.ofList name) (String.ofList value) differs
  parts.getD (.named (String.ofList text))

/-- Reads a property behind the letter for it: a name in braces, or one letter. -/
def readProperty (start : Place) (negated : Bool) (cur : Cursor) :
    Except Fault (ClassTree × Cursor) :=
  let first := cur.advance
  match first.next? with
  | none => .error { kind := .escapeIncomplete, extent := first.here }
  | some '\x7b' =>
    let (name, stop) := first.advance.collect (· ≠ '\x7d')
    if stop.atEnd then .error { kind := .escapeIncomplete, extent := stop.here }
    else .ok (.property (stop.step.since start) negated (.ofText name), stop.step)
  | some '\\' => .error { kind := .propertyInvalid, extent := first.atNext }
  | some c =>
    .ok (.property (first.advance.since start) negated (.named (String.ofList [c])), first.advance)

/-! ### Conditions -/

/-- A character in the name of a word boundary. -/
def isBoundaryLetter (c : Char) : Bool := c.isAlpha || c = '-'

/-- The word boundaries with a name. -/
def boundaryOfName? (name : List Char) : Option Assertion :=
  match String.ofList name with
  | "start" => some .wordStart
  | "end" => some .wordEnd
  | "start-half" => some .wordStartHalf
  | "end-half" => some .wordEndHalf
  | _ => none

/-- Reads the name of a word boundary in braces, in an escape from a place on; there is none where
the braces hold no name. -/
def readBoundaryName? (start : Place) (cur : Cursor) :
    Except Fault (Option (Assertion × Cursor)) :=
  let first := cur.advance
  match first.next? with
  | none => .error { kind := .boundaryIncomplete, extent := first.since start }
  | some c =>
    if !isBoundaryLetter c then .ok none
    else
      let (name, stop) := first.collect isBoundaryLetter
      if stop.next? ≠ some '\x7d' then
        .error { kind := .boundaryUnclosed, extent := stop.since cur.place }
      else
        match boundaryOfName? name with
        | some assertion => .ok (some (assertion, stop.step))
        | none => .error { kind := .boundaryUnknown, extent := stop.since first.place }

/-- Reads what follows the letter for a word boundary. -/
def readBoundary (start : Place) (cur : Cursor) : Except Fault (Tree × Cursor) := do
  let simple := (Tree.assertion (cur.since start) .wordBoundary, cur)
  if cur.next? = some '\x7b' then
    match ← readBoundaryName? start cur with
    | some (assertion, after) => return (.assertion (after.since start) assertion, after)
    | none => return simple
  else return simple

/-! ### All escapes -/

/-- The controls with a letter of their own. -/
def controlOfLetter? : Char → Option Char
  | 'a' => some '\x07'
  | 'f' => some '\x0c'
  | 't' => some '\t'
  | 'n' => some '\n'
  | 'r' => some '\r'
  | 'v' => some '\x0b'
  | _ => none

/-- The classes with a letter of their own; the capital letter is for all other characters. -/
def classOfLetter? : Char → Option (Bool × ShortClass)
  | 'd' => some (false, .digit)
  | 'D' => some (true, .digit)
  | 's' => some (false, .space)
  | 'S' => some (true, .space)
  | 'w' => some (false, .word)
  | 'W' => some (true, .word)
  | _ => none

/-- The conditions with a sign of their own. -/
def assertionOfSign? : Char → Option Assertion
  | 'A' => some .startText
  | 'z' => some .endText
  | 'B' => some .notWordBoundary
  | '<' => some .wordStart
  | '>' => some .wordEnd
  | _ => none

/-- A character that stands for itself behind a backslash. -/
def isEscapable (c : Char) : Bool :=
  c.toNat < 0x80 && !c.isAlphanum && c ≠ '<' && c ≠ '>'

/-- Reads an escape of one sign. -/
def readSign (start : Place) (c : Char) (after : Cursor) : Except Fault (Tree × Cursor) :=
  let extent := after.since start
  if isEscapable c then .ok (.literal ⟨extent, c, false⟩, after)
  else
    match controlOfLetter? c, classOfLetter? c, assertionOfSign? c with
    | some control, _, _ => .ok (.literal ⟨extent, control, false⟩, after)
    | _, some (negated, name), _ => .ok (.chars (.short extent negated name), after)
    | _, _, some assertion => .ok (.assertion extent assertion, after)
    | _, _, _ => .error { kind := .escapeUnknown, extent }

/-- Reads an escape. -/
def readEscape (cur : Cursor) : Except Fault (Tree × Cursor) :=
  let start := cur.place
  let sign := cur.step
  let literal (found : Except Fault (Literal × Cursor)) :=
    found.map fun (char, after) => (Tree.literal char, after)
  let property (found : Except Fault (ClassTree × Cursor)) :=
    found.map fun (set, after) => (Tree.chars set, after)
  match sign.next? with
  | none => .error { kind := .escapeIncomplete, extent := sign.since start }
  | some 'x' => literal (readPoint start 2 sign)
  | some 'u' => literal (readPoint start 4 sign)
  | some 'U' => literal (readPoint start 8 sign)
  | some 'p' => property (readProperty start false sign)
  | some 'P' => property (readProperty start true sign)
  | some 'b' => readBoundary start sign.step
  | some c =>
    if c.isDigit then .error { kind := .backreference, extent := ⟨start, sign.atNext.stop⟩ }
    else readSign start c sign.step

end Screencast.Pattern
