import Screencast.Pattern.Basic

/-!
Putting patterns together in a simple form. In a sequence no part is empty or a sequence itself and
no two strings are neighbours; alternatives between single characters are a set of characters, and
what all alternatives begin with stands in front of them.
-/

namespace Screencast.Pattern

open Text

/-- The pattern fits nothing but the empty text. -/
def isEmptyOnly : Pattern → Bool
  | empty | look _ => true
  | string _ | oneOf .. => false
  | seq first rest | alt first rest => first.isEmptyOnly && rest.isEmptyOnly
  | times _ high _ body => body.isEmptyOnly && high.isSome
  | capture body => body.isEmptyOnly

/-- A part of the text that fits is remembered. -/
def hasCapture : Pattern → Bool
  | empty | string _ | oneOf .. | look _ => false
  | seq first rest | alt first rest => first.hasCapture || rest.hasCapture
  | times _ _ _ body => body.hasCapture
  | capture _ => true

/-! ### Sets -/

/-- The pattern for one character of a set; a set of one character is a string. -/
def ofSet (ascii : Bool) (chars : CharSet) : Pattern :=
  let chars := chars.diff (CharSet.ofTables [Category.surrogate])
  match chars.single? with
  | some n => string [Char.ofNat n]
  | none => oneOf chars ascii

/-- The character of a string that has no other. -/
def single? : Pattern → Option Char
  | string [c] => some c
  | _ => none

/-- The set of a pattern for one of its characters. -/
def set? : Pattern → Option CharSet
  | oneOf chars _ => some chars
  | _ => none

/-! ### Sequences -/

/-- The parts of a sequence. -/
def parts : Pattern → List Pattern
  | empty => []
  | seq first rest => first :: rest.parts
  | pattern => [pattern]

/-- The pattern of the parts of a sequence. -/
def ofParts : List Pattern → Pattern
  | [] => empty
  | [part] => part
  | part :: parts => seq part (ofParts parts)

/-- The parts with neighbouring strings as one. -/
def mergeStrings : List Pattern → List Pattern
  | [] => []
  | string chars :: parts =>
    match mergeStrings parts with
    | string more :: parts => string (chars ++ more) :: parts
    | parts => string chars :: parts
  | part :: parts => part :: mergeStrings parts

/-- Patterns one behind the other. -/
def sequence (patterns : List Pattern) : Pattern :=
  ofParts (mergeStrings (patterns.flatMap parts))

/-! ### Alternatives -/

/-- The alternatives of a choice. -/
def branches : Pattern → List Pattern
  | alt first rest => first :: rest.branches
  | pattern => [pattern]

/-- The choice between alternatives as they are. -/
def ofBranches : List Pattern → Pattern
  | [] => oneOf CharSet.empty false
  | [branch] => branch
  | branch :: branches => alt branch (ofBranches branches)

/-- The set for alternatives that are all strings of one character, or all sets. -/
def mergedSet? (branches : List Pattern) : Option Pattern :=
  let sets :=
    match branches.mapM single? with
    | some chars => some (chars.map CharSet.single)
    | none => branches.mapM set?
  sets.map fun sets => ofSet false (CharSet.ofRanges (sets.flatMap (·.ranges)))

/-- A choice in which the alternatives have no common beginning. -/
def choice (patterns : List Pattern) : Pattern :=
  match patterns.flatMap branches with
  | [branch] => branch
  | branches => (mergedSet? branches).getD (ofBranches branches)

/-- The parts that two sequences begin with in common. Parts that remember their text are never
the same. -/
def sharedParts : List Pattern → List Pattern → List Pattern
  | a :: as, b :: bs => if a = b ∧ !a.hasCapture then a :: sharedParts as bs else []
  | _, _ => []

/-- The parts that all alternatives begin with, if each of them is a sequence. -/
def commonParts : List Pattern → List Pattern
  | [] => []
  | first :: others =>
    if (first :: others).all (· matches seq ..) then
      others.foldl (fun shared branch => sharedParts shared branch.parts) first.parts
    else []

/-- Alternatives. Behind their common beginning they have none any more. -/
def alternatives (patterns : List Pattern) : Pattern :=
  let branches := patterns.flatMap branches
  match branches, commonParts branches with
  | [_], _ | _, [] => choice branches
  | branches, shared =>
    sequence (shared ++ [choice (branches.map fun branch =>
      sequence (branch.parts.drop shared.length))])

/-! ### Repetitions -/

/-- A pattern several times. More than one empty text is as good as one, none of a pattern is
empty, and once a pattern is itself. -/
def repetition (low : Nat) (high : Option Nat) (isLazy : Bool) (body : Pattern) : Pattern :=
  let low := if body.isEmptyOnly then min low 1 else low
  let high := if body.isEmptyOnly then some (min (high.getD 1) 1) else high
  if high = some 0 then empty
  else if low = 1 ∧ high = some 1 then body
  else times low high isLazy body

end Screencast.Pattern
