import Screencast.Pattern.Find
import Screencast.Pattern.Join
import Screencast.Text.Blank

/-!
The listing of attached devices: a header line, then a line for each device with its serial, its
state and its fields, among blank lines and notices. Only the lines of ready devices count, and a
pattern tells which these are.
-/

namespace Screencast.Listing

open Pattern Text

/-- A line of the listing that reports a ready device. -/
structure Entry where
  /-- The first word of the line. -/
  serial : String
  /-- The model, where a field names one. -/
  model : Option String
  /-- The line without the blanks around it. -/
  line : String
deriving DecidableEq, Repr

/-! ### The form of a line -/

/-- A blank. -/
def blank : CharSet := CharSet.ofTables [Property.whiteSpace]

/-- A run of characters that are no blanks. -/
def word : Pattern := .times 1 none false (ofSet false blank.complement)

/-- The blanks between two words. -/
def space : Pattern := .times 1 none false (ofSet false blank)

/-- All up to the end of the line. -/
def restOfLine : Pattern := .times 0 none false (ofSet false (CharSet.single '\n').complement)

/-- The word for the state of a device that can be used. -/
def ready : List Char := ['d', 'e', 'v', 'i', 'c', 'e']

/-- The line of a device that can be used. Its serial is the first group, its fields are the
second one. -/
def readyLine : Pattern :=
  ofParts
    [.look .textStart, .capture word, space, .string ready,
     .times 0 (some 1) false (.seq space (.capture restOfLine)), .look .textEnd]

/-- The mark of a field that names the model. -/
def modelMark : List Char := ['m', 'o', 'd', 'e', 'l', ':']

/-- A field that names the model, and the name as its group. -/
def modelField : Pattern :=
  ofParts [.alt (.look .textStart) (ofSet false blank), .string modelMark, .capture word]

/-! ### Reading lines -/

/-- Reads a line that reports a ready device. -/
def Entry.ofLine? (line : String) : Option Entry :=
  let line := trimString line
  (readyLine.find line).map fun found =>
    { serial := (found.group? 1).getD ""
      model := ((found.group? 2).bind modelField.find).bind (·.group? 1)
      line := line }

/-- A line that may report a device: there is something in it, and it is no notice of the bridge
itself. -/
def mayReport (line : String) : Bool := !line.isEmpty && line.toList.head? != some '*'

/-- The entries of a listing, in order; its first line is a header. -/
def entries (listing : String) : List Entry :=
  ((((textLines listing).drop 1).map trimString).filter mayReport).filterMap Entry.ofLine?

end Screencast.Listing
