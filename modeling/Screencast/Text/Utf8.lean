/-!
UTF-8 bytes: the bytes of a text, and the text of any bytes. Reading never fails: each longest
damaged piece becomes one replacement character. It is a machine that takes one byte at a time, so
that what it does with a sequence does not depend on the bytes behind it, and a line break always
brings it back to the beginning.
-/

namespace Screencast.Text

/-- The bytes of a text. -/
def utf8 (s : String) : List UInt8 := s.toList.flatMap String.utf8EncodeChar

/-- The character that stands for a damaged piece. -/
def replacement : Char := '\ufffd'

/-- The six bits that a continuation byte carries. -/
def continuation? (b : UInt8) : Option Nat :=
  if 0x80 ≤ b ∧ b ≤ 0xBF then some (b.toNat - 0x80) else none

/-- Where a reader stands between two bytes: at a character's end, or inside one, with the bits
read so far, the range of the next six bits, and the number of bytes that follow those. -/
inductive Utf8State where
  | boundary
  | inside (bits low high more : Nat)
deriving DecidableEq, Repr

namespace Utf8State

/-- Reads the first byte of a character. The ranges of the next bits leave out the forms that are
longer than they need be, the surrogates, and all above U+10FFFF. -/
def start (b : UInt8) : List Char × Utf8State :=
  if b < 0x80 then ([Char.ofNat b.toNat], boundary)
  else if b < 0xC2 then ([replacement], boundary)
  else if b < 0xE0 then ([], inside (b.toNat - 0xC0) 0x00 0x3F 0)
  else if b = 0xE0 then ([], inside 0x0 0x20 0x3F 1)
  else if b = 0xED then ([], inside 0xD 0x00 0x1F 1)
  else if b < 0xF0 then ([], inside (b.toNat - 0xE0) 0x00 0x3F 1)
  else if b = 0xF0 then ([], inside 0x0 0x10 0x3F 2)
  else if b < 0xF4 then ([], inside (b.toNat - 0xF0) 0x00 0x3F 2)
  else if b = 0xF4 then ([], inside 0x4 0x00 0x0F 2)
  else ([replacement], boundary)

/-- Reads one byte. A byte that cannot go on ends the character before it as a damaged piece and
is itself read afresh. -/
def step : Utf8State → UInt8 → List Char × Utf8State
  | boundary, b => start b
  | inside bits low high more, b =>
    match continuation? b with
    | none => (replacement :: (start b).1, (start b).2)
    | some next =>
      if low ≤ next ∧ next ≤ high then
        match more with
        | 0 => ([Char.ofNat (bits * 64 + next)], boundary)
        | more + 1 => ([], inside (bits * 64 + next) 0x00 0x3F more)
      else (replacement :: (start b).1, (start b).2)

/-- The text of the bytes that follow. -/
def read : Utf8State → List UInt8 → List Char
  | boundary, [] => []
  | inside .., [] => [replacement]
  | state, b :: bs => (state.step b).1 ++ read (state.step b).2 bs

theorem read_cons (state : Utf8State) (b : UInt8) (bs : List UInt8) :
    state.read (b :: bs) = (state.step b).1 ++ read (state.step b).2 bs := by
  cases state <;> rfl

/-- A line break ends whatever stands before it. -/
theorem step_newline (state : Utf8State) :
    state.step 10 = (state.read [] ++ ['\n'], boundary) := by
  cases state <;> rfl

/-- The text before a line break and the text after it are read independently. -/
theorem read_append_newline (state : Utf8State) (before after : List UInt8) :
    state.read (before ++ 10 :: after) = state.read before ++ '\n' :: boundary.read after := by
  induction before generalizing state with
  | nil => rw [List.nil_append, read_cons, step_newline]; simp
  | cons b bs ih => rw [List.cons_append, read_cons, ih, read_cons, List.append_assoc]

end Utf8State

/-- The text of any bytes, with one replacement character for each longest damaged piece. -/
def decodeUtf8 (bytes : List UInt8) : String := String.ofList (Utf8State.boundary.read bytes)

end Screencast.Text
