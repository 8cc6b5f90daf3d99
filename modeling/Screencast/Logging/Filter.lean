import Screencast.Pattern.Occurrence
import Screencast.Pattern.Parse
import Screencast.Session.Record
import Screencast.Text.Blank

/-!
Which log records are shown. A filter is written as a comma list of levels and of `target=level`
pairs, with a pattern behind a slash that must fit a part of the message. Of the rules that fit a
record the one with the longest target decides.
-/

namespace Screencast.Logging

/-- A rule: records of the targets that begin with the name are shown up to a level. -/
structure Rule where
  /-- The beginning of the targets; every target, where it is left out. -/
  target : Option String
  /-- The rank of the last level that is shown; zero shows none. -/
  rank : Nat
deriving DecidableEq, Repr

/-- A filter of log records. -/
structure Filter where
  /-- The rules, those with longer targets behind. -/
  rules : List Rule
  /-- A pattern that must fit a part of the message. -/
  pattern : Option Pattern := none
deriving DecidableEq, Repr

/-- The rank that a word for a level, in letters of either case, stands for. -/
def rankOf? (word : String) : Option Nat :=
  match String.ofList (word.toList.map Char.toLower) with
  | "off" => some 0
  | "error" => some LogLevel.error.rank
  | "warn" => some LogLevel.warn.rank
  | "info" => some LogLevel.info.rank
  | "debug" => some LogLevel.debug.rank
  | "trace" => some LogLevel.trace.rank
  | _ => none

/-! ### Reading a filter -/

/-- A part of a filter that cannot be read. -/
inductive FilterError where
  | invalidPart (part : String)
  | invalidPattern (error : Pattern.ParseError)
  | extraSlash (filter : String)
deriving DecidableEq, Repr

/-- What is wrong, in words. -/
def FilterError.message : FilterError → String
  | invalidPart part => "invalid logging spec '" ++ part ++ "'"
  | invalidPattern error => "invalid regex filter - " ++ error.message
  | extraSlash filter => "invalid logging spec '" ++ filter ++ "' (too many '/'s)"

/-- Reads one part of the comma list. A target alone, or with nothing behind its equals sign, has
all its records shown. -/
def readRule (part : String) : Except FilterError Rule :=
  match Text.cutString '=' part with
  | [word] => .ok (((rankOf? word).map (⟨none, ·⟩)).getD ⟨some word, LogLevel.trace.rank⟩)
  | [target, word] =>
    let word := Text.trimString word
    if word = "" then .ok ⟨some target, LogLevel.trace.rank⟩
    else
      match rankOf? word with
      | some rank => .ok ⟨some target, rank⟩
      | none => .error (.invalidPart word)
  | _ => .error (.invalidPart part)

/-- Adds a rule; it replaces one for the same target. -/
def addRule (rules : List Rule) (rule : Rule) : List Rule :=
  if rules.any (·.target = rule.target) then
    rules.map fun old => if old.target = rule.target then rule else old
  else rules ++ [rule]

/-- The length in bytes of the beginning that a rule asks for. -/
def Rule.weight (rule : Rule) : Nat := (rule.target.map String.utf8ByteSize).getD 0

/-- Puts a rule before the first that is not outweighed by it. -/
def insertRule (rule : Rule) : List Rule → List Rule
  | [] => [rule]
  | next :: rules =>
    if rule.weight ≤ next.weight then rule :: next :: rules else next :: insertRule rule rules

/-- The rules by weight; those of one weight keep their order. -/
def sortRules (rules : List Rule) : List Rule := rules.foldr insertRule []

/-- The filter of some rules; without any, only errors are shown. -/
def Filter.ofRules (rules : List Rule) (pattern : Option Pattern) : Filter where
  rules := if rules.isEmpty then [⟨none, LogLevel.error.rank⟩] else sortRules rules
  pattern := pattern

/-- The parts of a comma list that are not empty. -/
def listParts (list : String) : List String :=
  ((Text.cutString ',' list).map Text.trimString).filter (· ≠ "")

/-- The error of a part that cannot be read. -/
def error? {α : Type} : Except FilterError α → Option FilterError
  | .error error => some error
  | .ok _ => none

/-- The rules of a comma list, and the errors of the parts that cannot be read. -/
def readRules (list : String) : List Rule × List FilterError :=
  let parts := (listParts list).map readRule
  ((parts.filterMap Except.toOption).foldl addRule [], parts.filterMap error?)

/-- Reads the text of a pattern. -/
def readPattern (text : String) : Except FilterError Pattern :=
  (Pattern.parse text).mapError .invalidPattern

/-- Reads a filter. A pattern that cannot be read is left out, and with more than one slash in it,
a filter counts as empty. -/
def Filter.read (filter : String) : Filter × List FilterError :=
  match Text.cutString '/' filter with
  | [list] => (ofRules (readRules list).1 none, (readRules list).2)
  | [list, text] =>
    let pattern := readPattern text
    (ofRules (readRules list).1 pattern.toOption, (readRules list).2 ++ (error? pattern).toList)
  | _ => (ofRules [] none, [.extraSlash filter])

/-! ### Applying a filter -/

/-- The rule holds for a target. -/
def Rule.fits (rule : Rule) (target : String) : Bool :=
  match rule.target with
  | none => true
  | some start => start.toList.isPrefixOf target.toList

/-- The record is shown. -/
def Filter.shows (filter : Filter) (record : LogRecord) : Bool :=
  (match filter.rules.reverse.find? (·.fits record.source.target) with
    | some rule => record.level.rank ≤ rule.rank
    | none => false) &&
  filter.pattern.all (·.occursIn record.message)

end Screencast.Logging
