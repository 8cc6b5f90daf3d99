import Screencast.Pattern.Basic

/-!
Whether a pattern fits somewhere in a text. A set of places in the text is a number whose bits are
its members, and a pattern leads from the places where it can begin to those where it can end. A
loop keeps in mind from which places it was gone through, so that each place counts once however
deep loops stand inside one another.
-/

namespace Screencast.Pattern

open Text

/-- A set of places in a text: the bit of each member is one. -/
abbrev PlaceSet := Nat

/-- The places that satisfy `p`. -/
def placesWhere (p : Gap → Bool) : List Gap → PlaceSet
  | [] => 0
  | gap :: gaps => 2 * placesWhere p gaps + (if p gap then 1 else 0)

/-- The members of the first set that are not in the second. -/
def PlaceSet.diff (a b : PlaceSet) : PlaceSet := a ^^^ (a &&& b)

/-- The way of a pattern through one text: its sets and conditions as the places they allow. -/
inductive Route where
  /-- Over the character behind one of some places. -/
  | step (allowed : PlaceSet)
  /-- Nowhere from one of some places, and nowhere at all from others. -/
  | stay (allowed : PlaceSet)
  | seq (first second : Route)
  | alt (left right : Route)
  /-- A way once or more times. -/
  | loop (body : Route)

namespace Route

/-! ### The way of a pattern -/

/-- A way a number of times. -/
def copies (body : Route) (rest : Route) : Nat → Route
  | 0 => rest
  | n + 1 => seq body (copies body rest n)

/-- A way at most a number of times, where `skip` leads nowhere. -/
def upTo (skip body : Route) : Nat → Route
  | 0 => skip
  | n + 1 => alt skip (seq body (upTo skip body n))

/-- A way several times in a text of some places. Since the empty text can be taken any number of
times where it can be taken at all, more times than there are places make no difference. -/
def times (places : Nat) (skip body : Route) (low : Nat) : Option Nat → Route
  | some high =>
    copies body (upTo skip body (min (high - low) places)) (min low places)
  | none =>
    match min low places with
    | 0 => alt skip (loop body)
    | n + 1 => copies body (loop body) n

end Route

/-- A text as patterns go through it. -/
structure Terrain where
  gaps : List Gap
  /-- The places before each character of the text. -/
  places : List (Char × PlaceSet)

/-- The terrain of a text. -/
def Terrain.of (text : List Char) : Terrain :=
  let gaps := Pattern.gaps text
  ⟨gaps, text.eraseDups.map fun c => (c, placesWhere (·.after == some c) gaps)⟩

/-- All places. -/
def Terrain.everywhere (terrain : Terrain) : PlaceSet :=
  placesWhere (fun _ => true) terrain.gaps

/-- The way of a pattern through a text. -/
def route (terrain : Terrain) : Pattern → Route
  | empty => .stay terrain.everywhere
  | string chars =>
    chars.foldr (fun c rest => .seq (.step ((terrain.places.lookup c).getD 0)) rest)
      (.stay terrain.everywhere)
  | oneOf chars _ =>
    .step (placesWhere (fun gap => gap.after.any chars.contains) terrain.gaps)
  | look condition => .stay (placesWhere (condition.holds condition.words) terrain.gaps)
  | seq first rest => .seq (route terrain first) (route terrain rest)
  | alt first rest => .alt (route terrain first) (route terrain rest)
  | times low high _ body =>
    Route.times terrain.gaps.length (.stay terrain.everywhere) (route terrain body) low high
  | capture body => route terrain body

/-! ### Going the way -/

/-- What was seen along a way: for each loop the places from which it was gone through. -/
inductive Memory where
  | nothing
  | seen (places : PlaceSet) (first second : Memory)

namespace Memory

/-- The places from which a loop was gone through. -/
def places : Memory → PlaceSet
  | nothing => 0
  | seen places .. => places

/-- The memory of the first part of a way. -/
def first : Memory → Memory
  | nothing => nothing
  | seen _ first _ => first

/-- The memory of the second part of a way. -/
def second : Memory → Memory
  | nothing => nothing
  | seen _ _ second => second

end Memory

namespace Route

/-- Goes through a loop again from the places that are new, until there are none; `places` are the
places to go on from, and the places where the loop was left are collected. In a text with at most
`rounds` places, more rounds find no new ones. -/
def goOn (go : Memory → PlaceSet → Memory × PlaceSet) :
    Nat → Memory → PlaceSet → PlaceSet → PlaceSet → Memory × PlaceSet
  | 0, memory, seen, _, found => (.seen seen memory .nothing, found)
  | rounds + 1, memory, seen, places, found =>
    let new := places.diff seen
    if new = 0 then (.seen seen memory .nothing, found)
    else
      let (memory, reached) := go memory new
      goOn go rounds memory (seen ||| new) reached (found ||| reached)

/-- Goes a way from some places; the outcome is the places where it ends that were not reached
from the places in memory before. -/
def go (rounds : Nat) : Route → Memory → PlaceSet → Memory × PlaceSet
  | _, memory, 0 => (memory, 0)
  | step allowed, memory, places => (memory, 2 * (places &&& allowed))
  | stay allowed, memory, places => (memory, places &&& allowed)
  | seq first second, memory, places =>
    let (memory₁, middle) := first.go rounds memory.first places
    let (memory₂, reached) := second.go rounds memory.second middle
    (.seen 0 memory₁ memory₂, reached)
  | alt left right, memory, places =>
    let (memory₁, reached₁) := left.go rounds memory.first places
    let (memory₂, reached₂) := right.go rounds memory.second places
    (.seen 0 memory₁ memory₂, reached₁ ||| reached₂)
  | loop body, memory, places =>
    goOn (body.go rounds) rounds memory.first memory.places places 0

end Route

/-- The pattern fits a part of the text. -/
def occursIn (pattern : Pattern) (text : String) : Bool :=
  let terrain := Terrain.of text.toList
  ((route terrain pattern).go terrain.gaps.length .nothing terrain.everywhere).2 != 0

end Screencast.Pattern
