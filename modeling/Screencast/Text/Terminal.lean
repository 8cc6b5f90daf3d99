/-!
Text for a terminal without its control sequences: what remains is what a reader would see, with
the line breaks and tabs in it. Names and answers of foreign tools go through here before they are
shown in a message, so that they cannot move the cursor or recolour the screen.

A line break or a tab inside a sequence shows. In a stream, what follows it shows as plain text
does, up to the first character that does not, and there the sequence goes on. In a text that is
given out as a whole, the sequence ends with the first character that shows.
-/

namespace Screencast.Text

/-- Where a terminal stands in its input: in plain text, after an escape, in a sequence that a
letter ends, in the head of a device control, in text that is not shown, or in a title. -/
inductive TerminalMode where
  | plain
  | escape
  | escapeMiddle
  | sequence
  | deviceStart
  | deviceNumbers
  | deviceMiddle
  | hidden
  | title
deriving DecidableEq, Repr

namespace TerminalMode

/-- Spaces and controls that a reader sees as spacing. -/
def isSpacing (c : Char) : Bool :=
  c == ' ' || c == '\t' || c == '\n' || c == '\x0c' || c == '\r'

/-- The byte that ends hidden text occurs in the character's bytes. -/
def endsHidden (c : Char) : Bool := (String.utf8EncodeChar c).contains 0x9C

/-- The mode after a character that begins no new sequence, and whether it shows. -/
def take (mode : TerminalMode) (c : Char) : TerminalMode × Bool :=
  let n := c.toNat
  match mode with
  | plain => (plain, isSpacing c || (0x20 < n && n != 0x7F))
  | escape =>
    if n < 0x20 then (escape, isSpacing c)
    else if n < 0x30 then (escapeMiddle, false)
    else if 0x7F ≤ n then (escape, false)
    else
      match c with
      | '[' => (sequence, false)
      | ']' => (title, false)
      | 'P' => (deviceStart, false)
      | 'X' | '^' | '_' => (hidden, false)
      | _ => (plain, false)
  | escapeMiddle =>
    if n < 0x20 then (escapeMiddle, isSpacing c)
    else if 0x30 ≤ n && n < 0x7F then (plain, false)
    else (escapeMiddle, false)
  | sequence =>
    if n < 0x20 then (sequence, isSpacing c)
    else if 0x40 ≤ n && n < 0x7F then (plain, false)
    else (sequence, false)
  | deviceStart =>
    if n < 0x20 || 0x7F ≤ n then (deviceStart, false)
    else if n < 0x30 then (deviceMiddle, false)
    else if n < 0x40 then (deviceNumbers, false)
    else (hidden, false)
  | deviceNumbers =>
    if n < 0x20 || 0x7F ≤ n then (deviceNumbers, false)
    else if n < 0x30 then (deviceMiddle, false)
    else if n < 0x3C then (deviceNumbers, false)
    else (hidden, false)
  | deviceMiddle =>
    if n < 0x30 || 0x7F ≤ n then (deviceMiddle, false) else (hidden, false)
  | hidden => (if endsHidden c then plain else hidden, false)
  | title => (if c == '\x07' then plain else title, false)

/-- The mode after a character, and whether it shows. An escape begins anew from every mode, and
the two cancelling controls lead back to plain text. -/
def step (mode : TerminalMode) (c : Char) : TerminalMode × Bool :=
  match c with
  | '\x1b' => (escape, false)
  | '\x18' | '\x1a' => (plain, false)
  | c => mode.take c

/-- The character shows in plain text. -/
def showsPlain (c : Char) : Bool := (plain.step c).2

/-- The mode after a character that shows though the terminal stands inside a sequence: one of
several bytes ends the sequence. -/
def passing (mode : TerminalMode) (c : Char) : TerminalMode :=
  if c.toNat < 0x80 then mode else plain

/-- The characters of a stream that show; `showing` says that the one before them did. -/
def shown : TerminalMode → Bool → List Char → List Char
  | _, _, [] => []
  | mode, showing, c :: cs =>
    if showing && showsPlain c then c :: shown (mode.passing c) true cs
    else if (mode.step c).2 then c :: shown (mode.step c).1 true cs
    else shown (mode.step c).1 false cs

/-- The characters of a whole text that show; each leads back to plain text. -/
def shownWhole : TerminalMode → List Char → List Char
  | _, [] => []
  | mode, c :: cs =>
    if (mode.step c).2 then c :: shownWhole plain cs else shownWhole (mode.step c).1 cs

end TerminalMode

/-- What a stream shows of a text without terminal control sequences. -/
def stripControls (s : String) : String :=
  String.ofList (TerminalMode.plain.shown false s.toList)

/-- What shows of a text that is given out as a whole. -/
def visibleText (s : String) : String := String.ofList (TerminalMode.plain.shownWhole s.toList)

end Screencast.Text
