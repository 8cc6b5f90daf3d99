import Screencast.Pattern.Basic

/-!
Where a pattern fits in a text first, and the parts of the text that it remembers. From one place
a pattern can fit in several ways, which stand in an order: the first of two alternatives comes
before the second, and a repetition that is not lazy goes on before it stops. The first way counts
on which all that follows fits as well.
-/

namespace Screencast.Pattern

/-- A place in a text: how many characters are before it, the last of these, and all behind it. -/
structure Spot where
  index : Nat
  before : Option Char
  rest : List Char
deriving DecidableEq, Repr

/-- The characters on both sides of a place. -/
def Spot.gap (spot : Spot) : Gap := ⟨spot.before, spot.rest.head?⟩

/-- A part of a text, from a place up to an index. -/
structure Span where
  start : Spot
  stop : Nat
deriving DecidableEq, Repr

/-- The characters of a part. -/
def Span.text (span : Span) : List Char := span.start.rest.take (span.stop - span.start.index)

/-- How far a text is fitted, and the parts remembered so far by the number of their group, the
latest first. -/
structure Progress where
  spot : Spot
  groups : List (Nat × Span)
deriving DecidableEq, Repr

/-- The number of groups in a pattern. -/
def groupCount : Pattern → Nat
  | seq first rest | alt first rest => first.groupCount + rest.groupCount
  | times _ _ _ body => body.groupCount
  | capture body => body.groupCount + 1
  | _ => 0

section Fit

variable {α : Type}

/-- Goes over one character that is allowed. -/
def Progress.char (allowed : Char → Bool) (progress : Progress) (next : Progress → Option α) :
    Option α :=
  match progress.spot.rest with
  | [] => none
  | c :: rest =>
    if allowed c then next { progress with spot := ⟨progress.spot.index + 1, some c, rest⟩ }
    else none

/-- Goes over characters one behind the other. -/
def Progress.string : List Char → Progress → (Progress → Option α) → Option α
  | [], progress, next => next progress
  | c :: cs, progress, next => progress.char (· == c) fun progress => progress.string cs next

/-- Goes a way a number of times. -/
def repeatExactly (go : Progress → (Progress → Option α) → Option α) :
    Nat → Progress → (Progress → Option α) → Option α
  | 0, progress, next => next progress
  | n + 1, progress, next => go progress fun progress => repeatExactly go n progress next

/-- Goes a way at most a number of times. Where the way leads nowhere, it is not gone again. -/
def repeatUpTo (go : Progress → (Progress → Option α) → Option α) (isLazy : Bool) :
    Nat → Progress → (Progress → Option α) → Option α
  | 0, progress, next => next progress
  | n + 1, progress, next =>
    let again (_ : Unit) := go progress fun reached =>
      if reached.spot.index = progress.spot.index then next reached
      else repeatUpTo go isLazy n reached next
    if isLazy then next progress <|> again () else again () <|> next progress

/-- Fits a pattern whose first group has a number, and what follows. More repetitions than there
are characters lead nowhere. -/
def fit : Pattern → Nat → Progress → (Progress → Option α) → Option α
  | empty, _, progress, next => next progress
  | string chars, _, progress, next => progress.string chars next
  | oneOf chars _, _, progress, next => progress.char chars.contains next
  | look condition, _, progress, next =>
    if condition.holds condition.words progress.spot.gap then next progress else none
  | seq first rest, number, progress, next =>
    first.fit number progress fun progress => rest.fit (number + first.groupCount) progress next
  | alt first rest, number, progress, next =>
    first.fit number progress next <|> rest.fit (number + first.groupCount) progress next
  | times low high isLazy body, number, progress, next =>
    repeatExactly (body.fit number) low progress fun progress =>
      let more :=
        match high with
        | some high => high - low
        | none => progress.spot.rest.length
      repeatUpTo (body.fit number) isLazy more progress next
  | capture body, number, progress, next =>
    body.fit (number + 1) progress fun reached =>
      next { reached with groups := (number, ⟨progress.spot, reached.spot.index⟩) :: reached.groups }

end Fit

/-- The parts of a text that a pattern remembers, by the number of their group. -/
structure Match where
  groups : List (Nat × Span)
deriving DecidableEq, Repr

/-- The text of a group, if the group took part. -/
def Match.group? (found : Match) (number : Nat) : Option String :=
  (found.groups.lookup number).map fun span => String.ofList span.text

/-- Fits a pattern from the first place on from which it fits. -/
def findFrom (pattern : Pattern) (index : Nat) (before : Option Char) :
    List Char → Option Match
  | [] => pattern.fit 1 ⟨⟨index, before, []⟩, []⟩ fun progress => some ⟨progress.groups⟩
  | c :: rest =>
    (pattern.fit 1 ⟨⟨index, before, c :: rest⟩, []⟩ fun progress => some ⟨progress.groups⟩) <|>
      pattern.findFrom (index + 1) (some c) rest

/-- Where a pattern fits in a text first. -/
def find (pattern : Pattern) (text : String) : Option Match :=
  pattern.findFrom 0 none text.toList

end Screencast.Pattern
