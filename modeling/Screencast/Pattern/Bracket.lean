import Screencast.Pattern.Escape

/-!
Classes in brackets: characters, ranges, other classes, and the operators between them, which bind
weaker than anything else and are read from the left.
-/

namespace Screencast.Pattern

/-- The members of a class that were read last, the latest in front, and where they stand. -/
structure Members where
  extent : Extent
  members : List ClassTree := []
deriving Repr

namespace Members

/-- Adds a member. -/
def push (these : Members) (member : ClassTree) : Members :=
  let start := if these.members.isEmpty then member.extent.start else these.extent.start
  ⟨⟨start, member.extent.stop⟩, member :: these.members⟩

/-- The class of the members. -/
def toTree (these : Members) : ClassTree :=
  match these.members with
  | [member] => member
  | members => .union these.extent members.reverse

end Members

/-- A part of a class that is not finished. -/
inductive OpenClass where
  /-- A bracket that opened, inside a class with some members. -/
  | bracket (outside : Members) (opening : Extent) (negated : Bool)
  /-- An operator that waits for what is on its right. -/
  | op (op : ClassOp) (left : ClassTree)
deriving Repr

/-- A class as far as it was read: what is open, the innermost in front, the last members, and
what is left of the pattern. -/
structure Bracketing where
  stack : List OpenClass
  members : Members
  cur : Cursor
deriving Repr

/-- A bracket that does not close: the fault points to the innermost one. -/
def unclosedClass (stack : List OpenClass) (cur : Cursor) : Fault :=
  let openings := stack.filterMap fun
    | .bracket _ opening _ => some opening
    | .op .. => none
  { kind := .classUnclosed, extent := openings.head?.getD cur.here }

/-- Applies the operator that waits, if one does. -/
def applyOp (stack : List OpenClass) (right : ClassTree) : List OpenClass × ClassTree :=
  match stack with
  | .op op left :: stack => (stack, .op ⟨left.extent.start, right.extent.stop⟩ op left right)
  | _ => (stack, right)

/-! ### The beginning of a bracket -/

/-- Reads the hyphens at the beginning of a bracket, which stand for themselves. -/
def readHyphens (start : Place) (these : Members) (cur : Cursor) :
    Except Fault (Members × Cursor) :=
  match _h : cur.rest with
  | '-' :: _ =>
    if cur.advance.atEnd then .error { kind := .classUnclosed, extent := ⟨start, start⟩ }
    else readHyphens start (these.push (.literal ⟨cur.atNext, '-', false⟩)) cur.advance
  | _ => .ok (these, cur)
termination_by cur.rest.length
decreasing_by exact Cursor.length_advance_lt _h

/-- Reads a closing bracket that comes first and stands for itself. -/
def readFirstBracket (start : Place) (these : Members) (cur : Cursor) :
    Except Fault (Members × Cursor) :=
  if these.members.isEmpty ∧ cur.next? = some ']' then
    if cur.advance.atEnd then
      .error { kind := .classUnclosed, extent := cur.advance.since start }
    else .ok (these.push (.literal ⟨cur.atNext, ']', false⟩), cur.advance)
  else .ok (these, cur)

/-- Reads the beginning of a bracket. -/
def openBracket (stack : List OpenClass) (outside : Members) (cur : Cursor) :
    Except Fault Bracketing := do
  let unclosed (after : Cursor) : Fault :=
    { kind := .classUnclosed, extent := after.since cur.place }
  let inside := cur.advance
  if inside.atEnd then throw (unclosed inside)
  let negated := inside.next? = some '^'
  let first := if negated then inside.advance else inside
  if first.atEnd then throw (unclosed first)
  let (these, after) ← readHyphens cur.place ⟨first.here, []⟩ first
  let (these, after) ← readFirstBracket cur.place these after
  return ⟨.bracket outside (after.since cur.place) negated :: stack, these, after⟩

/-! ### Members -/

/-- The named classes of ASCII characters. -/
def asciiClassOfName? (name : List Char) : Option AsciiClass :=
  match String.ofList name with
  | "alnum" => some .alnum
  | "alpha" => some .alpha
  | "ascii" => some .ascii
  | "blank" => some .blank
  | "cntrl" => some .cntrl
  | "digit" => some .digit
  | "graph" => some .graph
  | "lower" => some .lower
  | "print" => some .print
  | "punct" => some .punct
  | "space" => some .space
  | "upper" => some .upper
  | "word" => some .word
  | "xdigit" => some .xdigit
  | _ => none

/-- Reads a named class of ASCII characters, if one stands here. -/
def asciiClass? (cur : Cursor) : Option (ClassTree × Cursor) :=
  match cur.rest with
  | '[' :: ':' :: rest =>
    let negated := rest.head? = some '^'
    let name := ((if negated then rest.tail else rest).takeWhile (· ≠ ':'))
    let after := Cursor.steps ((if negated then 3 else 2) + name.length) cur
    match after.behind? ":]", asciiClassOfName? name with
    | some after, some found => some (.ascii (after.since cur.place) negated found, after)
    | _, _ => none
  | _ => none

/-- Reads a character or an escape in a bracket. -/
def readMember (cur : Cursor) : Except Fault (Tree × Cursor) :=
  match cur.next? with
  | some '\\' => readEscape cur
  | some c => .ok (.literal ⟨cur.atNext, c, false⟩, cur.step)
  | none => .error { kind := .classUnclosed, extent := cur.here }

/-- What was read as a member of a class; a condition cannot be one. -/
def asMember : Tree → Except Fault ClassTree
  | .literal char => .ok (.literal char)
  | .chars set => .ok set
  | tree => .error { kind := .classEscape, extent := tree.extent }

/-- What was read as the end of a range; only a character can be one. -/
def asBoundary : Tree → Except Fault Literal
  | .literal char => .ok char
  | tree => .error { kind := .classRangeBoundary, extent := tree.extent }

/-- Reads a member of a class: a hyphen behind it makes a range, unless the class ends or another
hyphen follows. -/
def readRange (stack : List OpenClass) (cur : Cursor) : Except Fault (ClassTree × Cursor) := do
  let (first, after) ← readMember cur
  let hyphen := after.skip
  if hyphen.atEnd then throw (unclosedClass stack hyphen)
  if hyphen.next? ≠ some '-' ∨ hyphen.secondVisible? = some ']' ∨
      hyphen.secondVisible? = some '-' then
    return (← asMember first, hyphen)
  let second := hyphen.advance
  if second.atEnd then throw (unclosedClass stack second)
  let (last, after) ← readMember second
  let low ← asBoundary first
  let high ← asBoundary last
  let extent := ⟨low.extent.start, high.extent.stop⟩
  if high.char < low.char then throw { kind := .classRangeOrder, extent }
  return (.range extent low high, after)

/-! ### Whole classes -/

/-- The operator that stands here. -/
def classOp? (cur : Cursor) : Option ClassOp :=
  match cur.rest with
  | '&' :: '&' :: _ => some .intersection
  | '-' :: '-' :: _ => some .difference
  | '~' :: '~' :: _ => some .symmetricDifference
  | _ => none

/-- Reads on: a class that is finished, or one that is not. -/
def Bracketing.next (state : Bracketing) : Except Fault (ClassTree × Cursor ⊕ Bracketing) := do
  let ⟨stack, members, cur⟩ := state
  match classOp? cur with
  | some op =>
    let (stack, left) := applyOp stack members.toTree
    let after := cur.step.step
    return .inr ⟨.op op left :: stack, ⟨after.here, []⟩, after⟩
  | none =>
    match cur.next? with
    | some '[' =>
      match asciiClass? cur with
      | some (named, after) => return .inr ⟨stack, members.push named, after⟩
      | none => return .inr (← openBracket stack members cur)
    | some ']' =>
      let (stack, body) := applyOp stack members.toTree
      let after := cur.step
      match stack with
      | .bracket outside opening negated :: stack =>
        let found := ClassTree.bracket (after.since opening.start) negated body
        if stack.isEmpty then return .inl (found, after)
        else return .inr ⟨stack, outside.push found, after⟩
      | _ => throw (unclosedClass stack cur)
    | some _ =>
      let (member, after) ← readRange stack cur
      return .inr ⟨stack, members.push member, after⟩
    | none => throw (unclosedClass stack cur)

/-- Reads on to the end of the class. Each part takes something off the pattern, so that as many
rounds as it has characters are enough. -/
def Bracketing.finish : Nat → Bracketing → Except Fault (ClassTree × Cursor)
  | 0, state => .error (unclosedClass state.stack state.cur)
  | rounds + 1, state => do
    match ← Bracketing.next { state with cur := state.cur.skip } with
    | .inl found => return found
    | .inr next => next.finish rounds

/-- Reads a class in brackets, in at most some rounds. -/
def readBracket (rounds : Nat) (cur : Cursor) : Except Fault (ClassTree × Cursor) := do
  (← openBracket [] ⟨cur.here, []⟩ cur).finish rounds

end Screencast.Pattern
