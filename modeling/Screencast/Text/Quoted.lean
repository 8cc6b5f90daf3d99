import Screencast.Text.Property

/-!
Quoted text on one line: double quotes around it, a backslash form for each character that could
break the line, end the quotes or hide, and all others as they are.
-/

namespace Screencast.Text

/-- The fillers of the Hangul syllables, letters that show nothing. -/
def fillers : List (Nat × Nat) := [(0x115F, 0x1160), (0x3164, 0x3164), (0xFFA0, 0xFFA0)]

/-- The sound marks of half width, which take a place of their own although they extend. -/
def soundMarks : List (Nat × Nat) := [(0xFF9E, 0xFF9F)]

/-- The tables of the characters that hide: those without a glyph, those that only show on
another one, the fillers, and all blanks but the space. -/
def hidden : List (List (Nat × Nat)) :=
  fillers :: Category.spaceSeparator :: Property.unprinted ++ Property.extending

/-- A character that shows by itself and stands on its own, as Unicode 17 has it. -/
def isVisible (c : Char) : Bool :=
  let n := c.toNat
  (0x20 ≤ n && n ≤ 0x7E) || within soundMarks n || within Addition.glyph n ||
    !(hidden.any (within · n))

/-- A character inside double quotes; what does not show is written by its code point. -/
def escape (c : Char) : List Char :=
  match c with
  | '\x00' => ['\\', '0']
  | '\t' => ['\\', 't']
  | '\n' => ['\\', 'n']
  | '\r' => ['\\', 'r']
  | '"' => ['\\', '"']
  | '\\' => ['\\', '\\']
  | c =>
    if isVisible c then [c]
    else ['\\', 'u', '\x7b'] ++ Nat.toDigits 16 c.toNat ++ ['\x7d']

/-- The text in double quotes. -/
def quote (s : String) : String :=
  String.ofList ('"' :: s.toList.flatMap escape ++ ['"'])

end Screencast.Text
