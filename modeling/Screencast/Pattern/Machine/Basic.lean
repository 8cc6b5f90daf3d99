/-!
The machine that looks for a pattern, as far as its size goes. It is built state by state, and the
building stops as soon as the machine is too large.
-/

namespace Screencast.Pattern

/-- The bytes of a state. -/
def stateSize : Nat := 32

/-- The bytes of a range of bytes that leads to another state, where a state has several. -/
def edgeSize : Nat := 8

/-- The bytes of a choice between states. -/
def linkSize : Nat := 4

/-- The greatest size of a machine. -/
def sizeLimit : Nat := 10485760

/-- A machine that is being built. -/
structure Machine where
  states : Nat := 0
  /-- The bytes of all edges and links. -/
  extra : Nat := 0
deriving DecidableEq, Repr

/-- The bytes of a machine. -/
def Machine.size (machine : Machine) : Nat := stateSize * machine.states + machine.extra

/-- A step in the building of a machine, which fails where the machine gets too large. -/
abbrev Build := StateT Machine Option

/-- The direction in which a machine goes over a text. -/
inductive Direction where
  | forwards
  | backwards
deriving DecidableEq, Repr

namespace Build

/-- Adds states, and bytes for edges and links. -/
def grow (states extra : Nat) : Build Unit := fun machine =>
  let machine := ⟨machine.states + states, machine.extra + extra⟩
  if machine.size ≤ sizeLimit then some ((), machine) else none

/-- Adds a state with some bytes for edges and links, and gives its number. -/
def newState (extra : Nat) : Build Nat := do
  let machine ← get
  grow 1 extra
  return machine.states

/-- Leads from the end of a part to what is behind it: a part that ends in a choice gets a link
more. -/
def join (endsInChoice : Bool) : Build Unit := if endsInChoice then grow 0 linkSize else pure ()

/-- Does the same a number of times. -/
def several (part : Build Unit) : Nat → Machine → Option (Unit × Machine)
  | 0, machine => some ((), machine)
  | n + 1, machine =>
    match part machine with
    | some (_, machine) => several part n machine
    | none => none

end Build

end Screencast.Pattern
