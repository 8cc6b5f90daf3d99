import Screencast.Pattern.Machine.Basic

/-!
The part of a machine for alternatives that are all strings: a tree in which strings that begin
alike share their states. A string that ends inside the tree divides what is added before it from
what is added behind it, since the alternatives keep their order.
-/

namespace Screencast.Pattern.Build

/-- The strings between empty ones. -/
def runs : List (List UInt8) → List (List (List UInt8))
  | [] => [[]]
  | [] :: strings => [] :: runs strings
  | string :: strings =>
    match runs strings with
    | run :: others => (string :: run) :: others
    | [] => [[string]]

/-- What is left of the strings that begin with a byte. -/
def behind (first : UInt8) (strings : List (List UInt8)) : List (List UInt8) :=
  strings.filterMap fun
    | byte :: string => if byte = first then some string else none
    | [] => none

/-- The strings, where of the empty ones in front only one is left. -/
def endOnce : List (List UInt8) → List (List UInt8)
  | [] :: strings => [] :: strings.dropWhile (· = [])
  | strings => strings

/-- Builds the tree of strings that are not all empty, up to a depth: a choice between the end, for
each empty string, and the strings of each run, where each of their first bytes leads to a tree of
its own, or to the end. -/
def tree : Nat → List (List UInt8) → Build Unit
  | 0, _ => pure ()
  | depth + 1, strings => do
    let runs := runs (endOnce strings)
    let choices := runs.filter (· ≠ [])
    grow 1 (linkSize * (runs.length - 1 + choices.length))
    for run in choices do
      let firsts := (run.filterMap List.head?).eraseDups
      grow 1 (if firsts.length = 1 then 0 else edgeSize * firsts.length)
      for first in firsts do
        let rests := behind first run
        if rests.any (· ≠ []) then tree depth rests

/-- Builds the part for alternatives that are all strings. -/
def strings (direction : Direction) (strings : List (List Char)) : Build Unit := do
  let bytes := strings.map fun chars =>
    let bytes := chars.flatMap String.utf8EncodeChar
    match direction with
    | .forwards => bytes
    | .backwards => bytes.reverse
  grow 1 0
  tree (bytes.foldl (fun depth string => max depth string.length) 0) bytes

end Screencast.Pattern.Build
