import Screencast.Pattern.Fault
import Screencast.Pattern.Syntax

/-!
The depth of a pattern: how many groups, repetitions, sequences, alternatives and brackets stand
inside one another. There is a limit to it.
-/

namespace Screencast.Pattern

/-- The greatest depth. -/
def depthLimit : Nat := 250

mutual

/-- The first class inside a depth that goes beyond the limit. -/
def ClassTree.tooDeep? (depth : Nat) : ClassTree → Option Extent
  | .bracket extent _ body =>
    if depthLimit ≤ depth then some extent else body.tooDeep? (depth + 1)
  | .union _ [] => none
  | .union extent members =>
    if depthLimit ≤ depth then some extent else ClassTree.anyTooDeep? (depth + 1) members
  | .op extent _ left right =>
    if depthLimit ≤ depth then some extent
    else (left.tooDeep? (depth + 1)).or (right.tooDeep? (depth + 1))
  | .literal _ | .range .. | .ascii .. | .short .. | .property .. => none

/-- The first of several classes inside a depth that goes beyond the limit. -/
def ClassTree.anyTooDeep? (depth : Nat) : List ClassTree → Option Extent
  | [] => none
  | tree :: trees => (tree.tooDeep? depth).or (ClassTree.anyTooDeep? depth trees)

end

mutual

/-- The first tree inside a depth that goes beyond the limit. -/
def Tree.tooDeep? (depth : Nat) : Tree → Option Extent
  | .chars set => set.tooDeep? depth
  | .repetition extent _ _ _ tree | .group extent _ tree =>
    if depthLimit ≤ depth then some extent else tree.tooDeep? (depth + 1)
  | .alternation extent trees | .sequence extent trees =>
    if depthLimit ≤ depth then some extent else Tree.anyTooDeep? (depth + 1) trees
  | .empty _ | .flags .. | .literal _ | .dot _ | .assertion .. => none

/-- The first of several trees inside a depth that goes beyond the limit. -/
def Tree.anyTooDeep? (depth : Nat) : List Tree → Option Extent
  | [] => none
  | tree :: trees => (tree.tooDeep? depth).or (Tree.anyTooDeep? depth trees)

end

/-- Checks that a tree keeps to the limit. -/
def Tree.checkDepth (tree : Tree) : Except Fault Unit :=
  match tree.tooDeep? 0 with
  | some extent => .error { kind := .nestedTooDeep depthLimit, extent }
  | none => .ok ()

end Screencast.Pattern
