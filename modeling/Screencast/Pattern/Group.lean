import Screencast.Pattern.Cursor
import Screencast.Pattern.Syntax
import Screencast.Text.Property

/-!
The openings of groups: a bracket alone, a name for the group, or flags, which hold either in the
group or, without one, up to the end of the group around them.
-/

namespace Screencast.Pattern

/-- The name of a group, and where it stands. -/
structure GroupName where
  extent : Extent
  name : List Char
deriving DecidableEq, Repr

/-- What an opening bracket begins. -/
inductive Opening where
  | group (kind : GroupKind) (name : Option GroupName)
  | flags (changes : List (Flag × Bool))
deriving DecidableEq, Repr

/-! ### Names -/

/-- A character that a name can start with. -/
def isNameStart (c : Char) : Bool :=
  c = '_' || Text.Property.isAlphabetic c

/-- A character that a name can go on with. -/
def isNamePart (c : Char) : Bool :=
  c = '_' || c = '.' || c = '[' || c = ']' || Text.Property.isAlphabetic c ||
    Text.Property.isNumeric c

/-- Reads the name of a group up to its end. -/
def readGroupName (cur : Cursor) : Except Fault (GroupName × Cursor) :=
  let isFirst := cur.next?.any isNameStart
  let length := if isFirst then (cur.rest.takeWhile isNamePart).length else 0
  let stop := Cursor.steps length cur
  match stop.next? with
  | none => .error { kind := .groupNameUnclosed, extent := stop.here }
  | some '>' =>
    if length = 0 then .error { kind := .groupNameEmpty, extent := cur.here }
    else .ok (⟨stop.since cur.place, cur.rest.take length⟩, stop.step)
  | some _ => .error { kind := .groupNameCharacter, extent := stop.atNext }

/-! ### Flags -/

/-- The flag with a letter. -/
def flagOfLetter? : Char → Option Flag
  | 'i' => some .ignoreCase
  | 'm' => some .multiLine
  | 's' => some .dotAll
  | 'U' => some .swapGreed
  | 'u' => some .unicode
  | 'R' => some .crlf
  | 'x' => some .verbose
  | _ => none

/-- A sign among flags: a flag, or the hyphen before those that are put out. -/
inductive FlagSign where
  | negation
  | flag (flag : Flag)
deriving DecidableEq, Repr

/-- The sign that a character stands for. -/
def FlagSign.ofChar? (c : Char) : Option FlagSign :=
  if c = '-' then some .negation else (flagOfLetter? c).map .flag

/-- Reads signs up to the end of the flags; none may come twice. -/
def readFlagSigns (seen : List (FlagSign × Extent)) (cur : Cursor) :
    Except Fault (List (FlagSign × Extent) × Cursor) :=
  match _h : cur.rest with
  | [] => .error { kind := .flagMissing, extent := cur.here }
  | c :: _ =>
    if c = ':' ∨ c = ')' then .ok (seen, cur)
    else
      match FlagSign.ofChar? c with
      | none => .error { kind := .flagUnknown, extent := cur.atNext }
      | some sign =>
        match seen.find? (·.1 = sign) with
        | some (_, earlier) =>
          let kind := if sign = .negation then .flagNegatedTwice else .flagRepeated
          .error { kind, extent := cur.atNext, earlier := some earlier }
        | none => readFlagSigns (seen ++ [(sign, cur.atNext)]) cur.step
termination_by cur.rest.length
decreasing_by
  rw [Cursor.step, _h]
  exact Nat.lt_succ_self _

/-- The changes that signs stand for; those behind the hyphen put a flag out. -/
def flagChanges (on : Bool) : List FlagSign → List (Flag × Bool)
  | [] => []
  | .negation :: signs => flagChanges false signs
  | .flag flag :: signs => (flag, on) :: flagChanges on signs

/-- Reads flags, up to the character that ends them. -/
def readFlags (cur : Cursor) : Except Fault (List (Flag × Bool) × Cursor) := do
  let (signs, stop) ← readFlagSigns [] cur
  match signs.getLast? with
  | some (.negation, extent) => throw { kind := .flagDanglingNegation, extent }
  | _ => return (flagChanges true (signs.map (·.1)), stop)

/-! ### Openings -/

/-- Reads what an opening bracket begins. -/
def readOpening (cur : Cursor) : Except Fault (Opening × Cursor) := do
  let inside := cur.step.skip
  match ["?=", "?!", "?<=", "?<!"].findSome? inside.behind? with
  | some after => throw { kind := .lookAround, extent := after.since cur.place }
  | none =>
    match ["?P<", "?<"].findSome? inside.behind?, inside.behind? "?" with
    | some named, _ =>
      let (name, after) ← readGroupName named
      return (.group .capturing (some name), after)
    | none, some flagged =>
      if flagged.atEnd then throw { kind := .groupUnclosed, extent := cur.atNext }
      let (changes, stop) ← readFlags flagged
      if stop.next? = some ':' then return (.group (.flagged changes) none, stop.step)
      if changes.isEmpty then throw { kind := .repetitionOfNothing, extent := inside.here }
      return (.flags changes, stop.step)
    | none, none => return (.group .capturing none, inside)

end Screencast.Pattern
