import Screencast.Pattern.Join
import Screencast.Pattern.Machine.Set
import Screencast.Pattern.Machine.Strings

/-!
The machines that look for a pattern: one goes forwards over the bytes of a text, and one goes
backwards from where the first one ends. A part that is repeated a number of times has as many
copies in them. A pattern whose machines would be too large is refused.
-/

namespace Screencast.Pattern

/-- The least number of characters in a text that fits; there is none where a set in the pattern has
no characters. -/
def shortest? : Pattern → Option Nat
  | empty | look _ => some 0
  | string chars => some chars.length
  | oneOf chars _ => if chars.ranges.isEmpty then none else some 1
  | seq first rest => do return (← first.shortest?) + (← rest.shortest?)
  | alt first rest => do return min (← first.shortest?) (← rest.shortest?)
  | times low _ _ body => body.shortest?.map (low * ·)
  | capture body => body.shortest?

/-- Each text that fits begins where a condition holds. -/
def beginsWith (condition : Look) : Pattern → Bool
  | look here => here = condition
  | seq first rest =>
    first.beginsWith condition || (first.isEmptyOnly && rest.beginsWith condition)
  | alt first rest => first.beginsWith condition && rest.beginsWith condition
  | times low _ _ body => 0 < low && body.beginsWith condition
  | capture body => body.beginsWith condition
  | empty | string _ | oneOf .. => false

/-- Each text that fits ends where a condition holds. -/
def endsWith (condition : Look) : Pattern → Bool
  | look here => here = condition
  | seq first rest =>
    rest.endsWith condition || (rest.isEmptyOnly && first.endsWith condition)
  | alt first rest => first.endsWith condition && rest.endsWith condition
  | times low _ _ body => 0 < low && body.endsWith condition
  | capture body => body.endsWith condition
  | empty | string _ | oneOf .. => false

namespace Build

/-! ### Repetitions

A part tells by a Boolean whether it ends in a choice between states. -/

/-- A part a number of times, at least once. -/
def exactly (part : Build Bool) (count : Nat) : Build Bool := do
  several (do join (← part)) (count - 1)
  part

/-- A part a number of times more, where each time may be left out; `endsInChoice` says so of the
part before. -/
def optionally (part : Build Bool) : Bool → Nat → Machine → Option (Bool × Machine)
  | endsInChoice, 0, machine => some (endsInChoice, machine)
  | endsInChoice, n + 1, machine =>
    let once : Build Bool := do
      grow 1 (2 * linkSize)
      join endsInChoice
      part
    match once machine with
    | some (endsInChoice, machine) => optionally part endsInChoice n machine
    | none => none

/-- A part any number of times; `advances` says that it fits no empty text. -/
def anyNumber (part : Build Bool) (advances : Bool) : Build Bool := do
  if advances then
    grow 1 linkSize
    join (← part)
    return true
  else
    join (← part)
    grow 3 (4 * linkSize)
    return false

/-- A part several times. -/
def times (part : Build Bool) (advances : Bool) : Nat → Option Nat → Build Bool
  | 0, none => anyNumber part advances
  | low, none => do
    join (← exactly part low)
    grow 1 linkSize
    return true
  | 0, some 1 => do
    grow 2 (2 * linkSize)
    join (← part)
    return false
  | low, some high => do
    let endsInChoice ← if low = 0 then (do grow 1 0; return false) else exactly part low
    if low = high then return endsInChoice
    grow 1 0
    join (← optionally part endsInChoice (high - low))
    return false

/-! ### Whole patterns -/

/-- Goes on behind a part of a choice; `earlier` parts of it were built before. -/
def endBranch (earlier : Nat) (endsInChoice : Bool) : Build Unit := do
  join endsInChoice
  grow (if earlier = 1 then 2 else 0) linkSize

/-- Builds a part, or the next part of a choice of which `earlier` parts were built before. -/
def branch (earlier : Nat) (part : Build Bool) : Build Bool := do
  let endsInChoice ← part
  if earlier = 0 then return endsInChoice
  endBranch earlier endsInChoice
  return false

/-- The strings of a choice, if all parts are strings. -/
def strings? (pattern : Pattern) : Option (List (List Char)) :=
  pattern.branches.mapM fun
    | .string chars => some chars
    | _ => none

/-- Builds the part for a pattern, behind some parts of the same choice. Only forwards the texts of
captures are remembered. -/
def pattern (direction : Direction) : Pattern → Nat → Build Bool
  | .empty, earlier | .look _, earlier => branch earlier do grow 1 0; return false
  | .string chars, earlier => branch earlier do
    grow (chars.foldl (fun count c => count + c.utf8Size) 0) 0
    return false
  | .oneOf chars _, earlier => branch earlier do set direction chars; return false
  | .seq first rest, earlier => branch earlier do
    match direction with
    | .forwards =>
      join (← pattern direction first 0)
      pattern direction rest 0
    | .backwards =>
      join (← pattern direction rest 0)
      pattern direction first 0
  | .alt first rest, earlier => do
    match if earlier = 0 then strings? (.alt first rest) else none with
    | some all =>
      strings direction all
      return false
    | none =>
      endBranch earlier (← pattern direction first 0)
      pattern direction rest (earlier + 1)
  | .times low high _ body, earlier =>
    branch earlier (times (pattern direction body 0) (body.shortest?.any (0 < ·)) low high)
  | .capture body, earlier => branch earlier do
    match direction with
    | .forwards =>
      grow 1 0
      join (← pattern direction body 0)
      grow 1 0
      return false
    | .backwards => pattern direction body 0

/-- Builds a whole machine. It passes over any beginning of the text, unless the pattern stands at
the end from which it comes, and has a state for where the pattern fits. -/
def whole (direction : Direction) (body : Pattern) : Build Unit := do
  let anchored :=
    match direction with
    | .forwards => body.beginsWith .textStart
    | .backwards => body.endsWith .textEnd
  if anchored then grow 1 0 else grow 3 (edgeSize + 2 * linkSize)
  join (← pattern direction (.capture body) 0)
  grow 1 0

end Build

/-- The machines for a pattern keep to the limit. -/
def keepsToLimit (pattern : Pattern) : Bool :=
  [Direction.forwards, .backwards].all fun direction =>
    (Build.whole direction pattern {}).isSome

end Screencast.Pattern
