import Screencast.Pattern.Bracket
import Screencast.Pattern.Group

/-!
Reading a pattern into its tree: single parts, repetitions of the part before them, groups, and
alternatives between bars.
-/

namespace Screencast.Pattern

/-- A sequence as far as it was read, the latest part in front. -/
structure Sequence where
  start : Place
  parts : List Tree := []
deriving Repr

/-- The tree of a sequence that ends at a place. -/
def Sequence.toTree (these : Sequence) (stop : Place) : Tree :=
  match these.parts with
  | [] => .empty ⟨these.start, stop⟩
  | [part] => part
  | parts => .sequence ⟨these.start, stop⟩ parts.reverse

/-- A part of a pattern that is not finished. -/
inductive OpenTree where
  /-- A group that opened, behind a sequence; blanks are read outside of it as `verbose` says. -/
  | group (outside : Sequence) (opening : Extent) (kind : GroupKind) (verbose : Bool)
  /-- Alternatives, the latest in front. -/
  | alternatives (start : Place) (trees : List Tree)
deriving Repr

/-- A pattern as far as it was read: what is open, the innermost in front, the sequence in it, the
names of groups, and what is left. -/
structure Reading where
  stack : List OpenTree := []
  these : Sequence
  names : List GroupName := []
  cur : Cursor
deriving Repr

namespace Reading

/-- Adds a part that was read. -/
def push (state : Reading) (part : Tree) (cur : Cursor) : Reading :=
  { state with these.parts := part :: state.these.parts, cur := cur }

/-- Goes on with another alternative. -/
def pushBar (state : Reading) : Reading :=
  let place := state.cur.place
  let tree := state.these.toTree place
  let stack :=
    match state.stack with
    | .alternatives start trees :: stack => .alternatives start (tree :: trees) :: stack
    | stack => .alternatives state.these.start [tree] :: stack
  { state with stack, these := ⟨state.cur.step.place, []⟩, cur := state.cur.step }

/-- The sequence with the alternatives before it, and what is open around them. -/
def closeAlternatives (state : Reading) : List OpenTree × Tree :=
  let place := state.cur.place
  let tree := state.these.toTree place
  match state.stack with
  | .alternatives start trees :: stack =>
    (stack, .alternation ⟨start, place⟩ (tree :: trees).reverse)
  | stack => (stack, tree)

/-- Sets whether blanks are left out, if the flags say so. -/
def verboseAfter (changes : List (Flag × Bool)) (verbose : Bool) : Bool :=
  (changes.lookup .verbose).getD verbose

/-- Goes into a group, or takes the flags that stand in place of one. -/
def openGroup (state : Reading) : Except Fault Reading := do
  let start := state.cur
  match ← readOpening start with
  | (.flags changes, after) =>
    let after := { after with verbose := verboseAfter changes after.verbose }
    return state.push (.flags (after.since start.place) changes) after
  | (.group kind name, after) =>
    if let some new := name then
      if let some old := state.names.find? (·.name = new.name) then
        throw { kind := .groupNameRepeated, extent := new.extent, earlier := some old.extent }
    let verbose :=
      match kind with
      | .flagged changes => verboseAfter changes start.verbose
      | .capturing => start.verbose
    return {
      stack := .group state.these start.atNext kind start.verbose :: state.stack
      these := ⟨after.place, []⟩
      names := state.names ++ name.toList
      cur := { after with verbose } }

/-- Leaves a group. -/
def closeGroup (state : Reading) : Except Fault Reading :=
  match state.closeAlternatives with
  | (.group outside opening kind verbose :: stack, tree) =>
    let after := state.cur.step
    let group := Tree.group (after.since opening.start) kind tree
    .ok { state with
      stack
      these := { outside with parts := group :: outside.parts }
      cur := { after with verbose } }
  | _ => .error { kind := .groupUnopened, extent := state.cur.atNext }

/-! ### Repetitions -/

/-- The part that is repeated; it must be there, and flags cannot be repeated. -/
def repeated (state : Reading) : Except Fault (Tree × List Tree) :=
  match state.these.parts with
  | [] | .flags .. :: _ =>
    .error { kind := .repetitionOfNothing, extent := state.cur.here }
  | part :: parts => .ok (part, parts)

/-- Repeats the last part. A question mark behind the sign for it asks for little. -/
def repeatLast (state : Reading) (part : Tree) (parts : List Tree) (low : Nat)
    (high : Option Nat) (cur : Cursor) : Reading :=
  let isLazy := cur.next? = some '?'
  let after := if isLazy then cur.step else cur
  let tree := Tree.repetition (after.since part.extent.start) low high isLazy part
  { state with these.parts := tree :: parts, cur := after }

/-- Reads a repetition of one sign. -/
def readRepetition (state : Reading) (low : Nat) (high : Option Nat) : Except Fault Reading := do
  let (part, parts) ← state.repeated
  return state.repeatLast part parts low high state.cur.step

/-- Reads the bounds of a repetition in braces, up to the closing one. -/
def readBounds (cur : Cursor) : Except Fault ((Nat × Option Nat) × Cursor) := do
  let unclosed (after : Cursor) : Fault :=
    { kind := .countUnclosed, extent := after.since cur.place }
  let first := cur.advance
  if first.atEnd then throw (unclosed first)
  let (low, after) := first.decimal
  if after.atEnd then throw (unclosed after)
  if after.next? ≠ some ',' then
    let low ← low
    return ((low, some low), after)
  let second := after.advance
  if second.atEnd then throw (unclosed second)
  if second.next? = some '\x7d' then
    return ((← low, none), second)
  let low ← low
  let (high, after) := second.decimal
  return ((low, some (← high)), after)

/-- Reads a repetition with bounds in braces. -/
def readCounted (state : Reading) : Except Fault Reading := do
  let (part, parts) ← state.repeated
  let start := state.cur.place
  let ((low, high), stop) ← readBounds state.cur
  if stop.next? ≠ some '\x7d' then
    throw { kind := .countUnclosed, extent := stop.since start }
  let after := state.repeatLast part parts low high stop.advance
  if high.any (· < low) then throw { kind := .countOrder, extent := after.cur.since start }
  return after

/-! ### The whole pattern -/

/-- Reads a part that is no group and no repetition; a class is read in at most some rounds. -/
def readSingle (rounds : Nat) (c : Char) (cur : Cursor) : Except Fault (Tree × Cursor) :=
  let extent := cur.atNext
  match c with
  | '\\' => readEscape cur
  | '[' => (readBracket rounds cur).map fun (set, after) => (.chars set, after)
  | '.' => .ok (.dot extent, cur.step)
  | '^' => .ok (.assertion extent .startLine, cur.step)
  | '$' => .ok (.assertion extent .endLine, cur.step)
  | c => .ok (.literal ⟨extent, c, false⟩, cur.step)

/-- Reads on from a character. -/
def next (rounds : Nat) (state : Reading) (c : Char) : Except Fault Reading :=
  match c with
  | '(' => state.openGroup
  | ')' => state.closeGroup
  | '|' => .ok state.pushBar
  | '?' => state.readRepetition 0 (some 1)
  | '*' => state.readRepetition 0 none
  | '+' => state.readRepetition 1 none
  | '\x7b' => state.readCounted
  | c => (readSingle rounds c state.cur).map fun (tree, after) => state.push tree after

/-- The tree of what was read, where no group is open. -/
def close (state : Reading) : Except Fault Tree :=
  match state.closeAlternatives with
  | (.group _ opening .. :: _, _) => .error { kind := .groupUnclosed, extent := opening }
  | (_, tree) => .ok tree

/-- Reads on to the end. Each part takes something off the pattern, so that as many rounds as it has
characters are enough. -/
def finish : Nat → Reading → Except Fault Tree
  | 0, state => state.close
  | rounds + 1, state => do
    let here := { state with cur := state.cur.skip }
    match here.cur.next? with
    | none => here.close
    | some c => (← here.next rounds c).finish rounds

end Reading

/-- Reads the tree of a pattern. -/
def Tree.read (text : String) : Except Fault Tree :=
  let chars := text.toList
  Reading.finish chars.length { these := ⟨{}, []⟩, cur := { rest := chars } }

end Screencast.Pattern
