/-!
JSON documents and their printed form: two spaces of indentation a level, one item or member a
line, members in their given order.
-/

namespace Screencast

/-- A JSON value; the members of an object keep their order. -/
inductive Json where
  | null
  | bool (value : Bool)
  | number (value : Nat)
  | string (value : String)
  | array (items : List Json)
  | object (members : List (String × Json))

namespace Json

/-- A character inside a JSON string: the quote, the backslash and the controls are escaped. -/
def escape (c : Char) : List Char :=
  match c with
  | '"' => ['\\', '"']
  | '\\' => ['\\', '\\']
  | '\x08' => ['\\', 'b']
  | '\x0c' => ['\\', 'f']
  | '\n' => ['\\', 'n']
  | '\r' => ['\\', 'r']
  | '\t' => ['\\', 't']
  | c =>
    if c.toNat < 0x20 then
      ['\\', 'u', '0', '0', Nat.digitChar (c.toNat / 16), Nat.digitChar (c.toNat % 16)]
    else [c]

/-- A JSON string with its quotes. -/
def quoted (s : String) : List Char := '"' :: s.toList.flatMap escape ++ ['"']

/-- A line break and the indentation of a level. -/
def newline (depth : Nat) : List Char := '\n' :: List.replicate (2 * depth) ' '

mutual

/-- The printed form of a value that begins on a line of the given level. -/
def print (depth : Nat) : Json → List Char
  | null => "null".toList
  | bool true => "true".toList
  | bool false => "false".toList
  | number n => Nat.toDigits 10 n
  | string s => quoted s
  | array [] => ['[', ']']
  | array (item :: items) =>
    '[' :: printItems (depth + 1) (item :: items) ++ newline depth ++ [']']
  | object [] => ['\x7b', '\x7d']
  | object (member :: members) =>
    '\x7b' :: printMembers (depth + 1) (member :: members) ++ newline depth ++ ['\x7d']

/-- The items of an array, each on its line. -/
def printItems (depth : Nat) : List Json → List Char
  | [] => []
  | [item] => newline depth ++ print depth item
  | item :: items => newline depth ++ print depth item ++ ',' :: printItems depth items

/-- The members of an object, each on its line. -/
def printMembers (depth : Nat) : List (String × Json) → List Char
  | [] => []
  | [(key, value)] => newline depth ++ quoted key ++ [':', ' '] ++ print depth value
  | (key, value) :: members =>
    newline depth ++ quoted key ++ [':', ' '] ++ print depth value ++
      ',' :: printMembers depth members

end

/-- The printed document. -/
def render (document : Json) : String := String.ofList (document.print 0)

end Json

end Screencast
