import Screencast.Pattern.Machine.Basic
import Screencast.Text.ByteRange
import Std.Data.HashMap

/-!
The part of a machine for a set of characters. Its states go over the bytes of a character, and
states from which the machine would go on in the same way are one, as far as they are remembered:
each is kept in one of a number of slots, and the last one in a slot is remembered.
-/

namespace Screencast.Pattern

open Text

/-- The states that are remembered, by slots: what leads on from each, and its number. -/
abbrev Slots := Std.HashMap Nat (List Nat × Nat)

/-- A step in the building of the part for a set. -/
abbrev BuildSet := StateT Slots Build

namespace BuildSet

/-- The slot of a state, of some, for what leads on from it. -/
def slot (count : Nat) (key : List Nat) : Nat :=
  let mixed := key.foldl
    (fun (mixed : UInt64) n => (mixed ^^^ n.toUInt64) * 1099511628211) 14695981039346656037
  mixed.toNat % count

/-- The state for what leads on from it: the one that is remembered, or a new one. -/
def stateFor (count : Nat) (key : List Nat) (extra : Nat) : BuildSet Nat := do
  let slot := slot count key
  match (← get)[slot]? with
  | some (known, state) =>
    if known = key then return state
  | none => pure ()
  let state ← (Build.newState extra : Build Nat)
  modify (·.insert slot (key, state))
  return state

/-! ### Forwards -/

/-- A state to which sequences may still be added. -/
structure OpenState where
  /-- The edges that lead on: for each the ends of its range, and the state that it leads to. -/
  edges : List Nat := []
  /-- The range of the last edge, if the state that it leads to is open too. -/
  last : Option (Nat × Nat)

/-- The edges, where the last one leads to some state. -/
def OpenState.close (node : OpenState) (next : Nat) : List Nat :=
  match node.last with
  | some (low, high) => node.edges ++ [low, high, next]
  | none => node.edges

/-- The number of slots for states forwards. -/
def forwardSlots : Nat := 10000

/-- The state for a row of open ones, of which each leads to the next one and the last one to the
end. -/
def close (stop : Nat) : List OpenState → BuildSet Nat
  | [] => return stop
  | node :: deeper => do
    let next ← close stop deeper
    let edges := node.close next
    stateFor forwardSlots edges (edgeSize * (edges.length / 3))

/-- Adds a sequence of bytes. The states behind its common beginning with the last one are
finished. -/
def add (stop : Nat) : List OpenState → ByteRanges → BuildSet (List OpenState)
  | node :: deeper, range :: ranges => do
    if node.last = some range then return node :: (← add stop deeper ranges)
    let next ← close stop deeper
    return ⟨node.close next, some range⟩ :: ranges.map fun range => { last := some range }
  | _, ranges => return ranges.map fun range => { last := some range }

/-- Builds the part for some sequences forwards. -/
def forwards (sequences : List ByteRanges) : BuildSet Unit := do
  let stop ← (Build.newState 0 : Build Nat)
  let row ← sequences.foldlM (add stop) [{ last := none }]
  let _ ← close stop row

/-! ### Backwards -/

/-- The number of slots for states backwards. -/
def backwardSlots : Nat := 1000

/-- Builds the part for some sequences backwards: a choice between them, where sequences that begin
alike share their states. -/
def backwards (sequences : List ByteRanges) : BuildSet Unit := do
  (Build.grow 1 0 : Build Unit)
  let stop ← (Build.newState 0 : Build Nat)
  for sequence in sequences do
    let _ ← sequence.foldlM
      (fun next (low, high) => stateFor backwardSlots [next, low, high] 0) stop
    (Build.grow 0 linkSize : Build Unit)

end BuildSet

/-- Builds the part for a set. -/
def Build.set (direction : Direction) (chars : CharSet) : Build Unit :=
  if chars.isAscii then grow 2 (edgeSize * chars.ranges.length)
  else
    let sequences := chars.sequences
    let part :=
      match direction with
      | .forwards => BuildSet.forwards sequences
      | .backwards => BuildSet.backwards sequences
    part.run' {}

end Screencast.Pattern
