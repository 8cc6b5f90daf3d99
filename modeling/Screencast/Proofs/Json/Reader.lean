import Mathlib.Tactic.Common

/-!
A reader of JSON documents, as any reader of the format does it. It takes one character at a time
and remembers the arrays and objects that are still open, so that it needs no bound on how deep they
stand in each other. A text is read as one document or not at all.
-/

namespace Screencast.Json

/-- A value that is read. A number is a whole number times a power of ten, and the members of an
object stand in the order of the text. -/
inductive Value where
  | null
  | bool (value : Bool)
  | number (digits power : Int)
  | string (value : String)
  | array (items : List Value)
  | object (members : List (String × Value))

/-- The characters that may stand between the parts of a document. -/
def isSpace (c : Char) : Bool := c = ' ' || c = '\t' || c = '\n' || c = '\r'

/-- The value of a decimal digit. -/
def digit? (c : Char) : Option Nat :=
  if '0' ≤ c ∧ c ≤ '9' then some (c.toNat - '0'.toNat) else none

/-- The value of a hexadecimal digit, in letters of either case. -/
def hexDigit? (c : Char) : Option Nat :=
  if '0' ≤ c ∧ c ≤ '9' then some (c.toNat - '0'.toNat)
  else if 'a' ≤ c ∧ c ≤ 'f' then some (c.toNat - 'a'.toNat + 10)
  else if 'A' ≤ c ∧ c ≤ 'F' then some (c.toNat - 'A'.toNat + 10)
  else none

/-! ### Numerals -/

/-- The part of a numeral that was read last. -/
inductive NumeralPart where
  | minus
  | zero
  | whole
  | point
  | fraction
  | mark
  | markSign
  | power
deriving DecidableEq

/-- A numeral on the way: its digits so far, how many of them stand behind the point, and the power
of ten behind the mark. -/
structure Numeral where
  last : NumeralPart
  negative : Bool
  digits : Nat := 0
  places : Nat := 0
  powerNegative : Bool := false
  power : Nat := 0

namespace Numeral

/-- The first digit of a numeral; behind a zero there is no other. -/
def ofDigit? (negative : Bool) (c : Char) : Option Numeral :=
  (digit? c).map fun d => { last := if d = 0 then .zero else .whole, negative, digits := d }

/-- A numeral by its first character. -/
def ofFirst? (c : Char) : Option Numeral :=
  if c = '-' then some { last := .minus, negative := true } else ofDigit? false c

/-- The mark of a power of ten. -/
def mark? (n : Numeral) (c : Char) : Option Numeral :=
  if c = 'e' ∨ c = 'E' then some { n with last := .mark } else none

/-- What may follow the whole part of a numeral. -/
def afterWhole? (n : Numeral) (c : Char) : Option Numeral :=
  if c = '.' then some { n with last := .point } else n.mark? c

/-- One digit more behind the point. -/
def place? (n : Numeral) (c : Char) : Option Numeral :=
  (digit? c).map fun d =>
    { n with last := .fraction, digits := 10 * n.digits + d, places := n.places + 1 }

/-- One digit more of the power of ten. -/
def powerDigit? (n : Numeral) (c : Char) : Option Numeral :=
  (digit? c).map fun d => { n with last := .power, power := 10 * n.power + d }

/-- A numeral with one character more, if that can belong to it. -/
def next? (n : Numeral) (c : Char) : Option Numeral :=
  match n.last with
  | .minus => ofDigit? n.negative c
  | .zero => n.afterWhole? c
  | .whole =>
    match digit? c with
    | some d => some { n with digits := 10 * n.digits + d }
    | none => n.afterWhole? c
  | .point => n.place? c
  | .fraction => n.place? c <|> n.mark? c
  | .mark =>
    if c = '+' then some { n with last := .markSign }
    else if c = '-' then some { n with last := .markSign, powerNegative := true }
    else n.powerDigit? c
  | .markSign => n.powerDigit? c
  | .power => n.powerDigit? c

/-- A number with its sign. -/
def signed (negative : Bool) (n : Nat) : Int := if negative then -(n : Int) else n

/-- The number of a numeral that may end here. -/
def value? (n : Numeral) : Option Value :=
  match n.last with
  | .zero | .whole | .fraction | .power =>
    some (.number (signed n.negative n.digits) (signed n.powerNegative n.power - n.places))
  | .minus | .point | .mark | .markSign => none

end Numeral

/-! ### Strings -/

/-- A string on the way, with the characters so far, the last one first. An escape by its code may
need a second one: then the first is the high half of a pair. -/
inductive Spelling where
  | plain (before : List Char)
  | escape (before : List Char)
  | code (before : List Char) (high : Option Nat) (missing value : Nat)
  | half (before : List Char) (high : Nat)
  | halfEscape (before : List Char) (high : Nat)

namespace Spelling

/-- The character of an escape of two characters. -/
def unescape? : Char → Option Char
  | '"' => some '"'
  | '\\' => some '\\'
  | '/' => some '/'
  | 'b' => some '\x08'
  | 'f' => some '\x0c'
  | 'n' => some '\n'
  | 'r' => some '\r'
  | 't' => some '\t'
  | _ => none

/-- The first half of a pair of codes. -/
def isHigh (code : Nat) : Bool := 0xD800 ≤ code && code ≤ 0xDBFF

/-- The second half of a pair of codes. -/
def isLow (code : Nat) : Bool := 0xDC00 ≤ code && code ≤ 0xDFFF

/-- What a whole code comes to: a character by itself, or half of a pair. -/
def ofCode? (before : List Char) (high : Option Nat) (code : Nat) : Option Spelling :=
  match high with
  | none =>
    if isHigh code then some (.half before code)
    else if isLow code then none
    else some (.plain (Char.ofNat code :: before))
  | some high =>
    if isLow code then
      some (.plain (Char.ofNat (0x10000 + (high - 0xD800) * 0x400 + (code - 0xDC00)) :: before))
    else none

/-- A string with one character more, if that can belong to it. -/
def next? : Spelling → Char → Option Spelling
  | plain before, c =>
    if c = '\\' then some (escape before)
    else if c = '"' ∨ c.toNat < 0x20 then none
    else some (plain (c :: before))
  | escape before, c =>
    if c = 'u' then some (code before none 4 0)
    else (unescape? c).map fun d => plain (d :: before)
  | code before high missing value, c =>
    (hexDigit? c).bind fun d =>
      if missing ≤ 1 then ofCode? before high (16 * value + d)
      else some (code before high (missing - 1) (16 * value + d))
  | half before high, c => if c = '\\' then some (halfEscape before high) else none
  | halfEscape before high, c => if c = 'u' then some (code before (some high) 4 0) else none

/-- The text of a string that may end here. -/
def text? : Spelling → Option String
  | plain before => some (String.ofList before.reverse)
  | _ => none

end Spelling

/-! ### Documents -/

/-- An array or an object that is still open, with what stands in it so far, the last first. In an
object, the value of a key is on the way. -/
inductive Scope where
  | array (items : List Value)
  | object (members : List (String × Value)) (key : String)

/-- What is on the way. -/
inductive Phase where
  /-- A value must follow, or the end of an array that has just begun. -/
  | value
  /-- A key must follow, or the end of an object that has just begun. -/
  | key (members : List (String × Value))
  | inKey (members : List (String × Value)) (spelling : Spelling)
  | colon (members : List (String × Value)) (key : String)
  | inString (spelling : Spelling)
  | inWord (missing : List Char) (value : Value)
  | inNumeral (numeral : Numeral)
  /-- A value has just ended. -/
  | behind (value : Value)

/-- Where a reader stands between two characters: what is on the way, and the arrays and objects
around it, from the inside out. -/
structure State where
  phase : Phase
  scopes : List Scope

namespace State

/-- The first character of a value. -/
def begin? (scopes : List Scope) (c : Char) : Option State :=
  match c with
  | '"' => some ⟨.inString (.plain []), scopes⟩
  | '[' => some ⟨.value, .array [] :: scopes⟩
  | '\x7b' => some ⟨.key [], scopes⟩
  | 'n' => some ⟨.inWord ['u', 'l', 'l'] .null, scopes⟩
  | 't' => some ⟨.inWord ['r', 'u', 'e'] (.bool true), scopes⟩
  | 'f' => some ⟨.inWord ['a', 'l', 's', 'e'] (.bool false), scopes⟩
  | c => (Numeral.ofFirst? c).map fun n => ⟨.inNumeral n, scopes⟩

/-- A character where a value must follow. -/
def stepValue (scopes : List Scope) (c : Char) : Option State :=
  if isSpace c then some ⟨.value, scopes⟩
  else
    match scopes, c with
    | .array [] :: scopes, ']' => some ⟨.behind (.array []), scopes⟩
    | scopes, c => begin? scopes c

/-- A character where a key must follow. -/
def stepKey (members : List (String × Value)) (scopes : List Scope) (c : Char) : Option State :=
  if isSpace c then some ⟨.key members, scopes⟩
  else
    match members, c with
    | [], '\x7d' => some ⟨.behind (.object []), scopes⟩
    | members, '"' => some ⟨.inKey members (.plain []), scopes⟩
    | _, _ => none

/-- A character behind a value. -/
def stepBehind (value : Value) (scopes : List Scope) (c : Char) : Option State :=
  if isSpace c then some ⟨.behind value, scopes⟩
  else
    match scopes, c with
    | .array items :: scopes, ',' => some ⟨.value, .array (value :: items) :: scopes⟩
    | .array items :: scopes, ']' => some ⟨.behind (.array (value :: items).reverse), scopes⟩
    | .object members key :: scopes, ',' => some ⟨.key ((key, value) :: members), scopes⟩
    | .object members key :: scopes, '\x7d' =>
      some ⟨.behind (.object ((key, value) :: members).reverse), scopes⟩
    | _, _ => none

/-- Reads one character. -/
def step (s : State) (c : Char) : Option State :=
  match s.phase with
  | .value => stepValue s.scopes c
  | .key members => stepKey members s.scopes c
  | .inKey members spelling =>
    match spelling.next? c with
    | some spelling => some ⟨.inKey members spelling, s.scopes⟩
    | none =>
      if c = '"' then spelling.text?.map fun key => ⟨.colon members key, s.scopes⟩ else none
  | .colon members key =>
    if isSpace c then some s
    else if c = ':' then some ⟨.value, .object members key :: s.scopes⟩
    else none
  | .inString spelling =>
    match spelling.next? c with
    | some spelling => some ⟨.inString spelling, s.scopes⟩
    | none =>
      if c = '"' then spelling.text?.map fun text => ⟨.behind (.string text), s.scopes⟩ else none
  | .inWord missing value =>
    match missing with
    | [] => none
    | d :: missing =>
      if c ≠ d then none
      else if missing = [] then some ⟨.behind value, s.scopes⟩
      else some ⟨.inWord missing value, s.scopes⟩
  | .inNumeral numeral =>
    match numeral.next? c with
    | some numeral => some ⟨.inNumeral numeral, s.scopes⟩
    | none => numeral.value?.bind fun value => stepBehind value s.scopes c
  | .behind value => stepBehind value s.scopes c

/-- Reads characters one after the other. -/
def run (s : State) (cs : List Char) : Option State := cs.foldlM step s

/-- The value of a document that may end here. -/
def value? (s : State) : Option Value :=
  match s.scopes, s.phase with
  | [], .behind value => some value
  | [], .inNumeral numeral => numeral.value?
  | _, _ => none

end State

/-- Reads a text that is one document. -/
def read (text : String) : Option Value :=
  (State.run ⟨.value, []⟩ text.toList).bind State.value?

/-- A pair of codes is one character, and a number keeps its point and its power. -/
example : read "[\"\\ud83d\\uDE00\", -1.50e2 , true]" =
    some (.array [.string "😀", .number (-150) 0, .bool true]) := by
  cbv

/-- What is nearly a document is none. -/
example : ["[1,]", "01", "\"\\ud83d\"", "[1] 2", "\x7b\"a\":1,\x7d", "+1", "1."].filterMap read =
    [] := by
  cbv

end Screencast.Json
