import Screencast.CommandLine.Draft

/-!
Scanning a command line from the left. A value that is written on to its flag is set at once. A
value that is a word of its own belongs to the flag before it, and is set only when the next flag is
met or the words end, so that a word out of place is reported before such a value that is wrong.
Behind a double dash, all words are passed on as they are.
-/

namespace Screencast.CommandLine

/-- A word of the command line by its form. -/
inductive Word where
  /-- The double dash that ends the flags. -/
  | ending
  /-- A long name, with the value behind its equals sign. -/
  | long (name : String) (value? : Option String)
  /-- Letters behind a single dash. -/
  | short (letters : List Char)
  /-- Any other word. -/
  | plain
deriving DecidableEq, Repr

/-- The text before the first equals sign, and the text behind it. -/
def splitEquals (cs : List Char) : String × Option String :=
  match cs.dropWhile (· ≠ '=') with
  | [] => (String.ofList cs, none)
  | _ :: value => (String.ofList (cs.takeWhile (· ≠ '=')), some (String.ofList value))

/-- The form of a word. -/
def Word.ofString (word : String) : Word :=
  match word.toList with
  | ['-', '-'] => .ending
  | '-' :: '-' :: body => .long (splitEquals body).1 (splitEquals body).2
  | '-' :: letter :: letters => .short (letter :: letters)
  | _ => .plain

/-- Why scanning stops before the words end. -/
inductive Stop where
  | help (long : Bool)
  | version
  | usage (error : UsageError)
deriving DecidableEq, Repr

/-- A setting that was named and not set yet. -/
inductive Pending where
  | nothing
  | awaiting (setting : Setting)
  | given (setting : Setting) (text : String)
deriving DecidableEq, Repr

/-- What the words so far have set, and the setting they leave open. -/
structure Scan where
  draft : Draft := {}
  pending : Pending := .nothing
deriving DecidableEq, Repr

namespace Scan

/-- Sets the open setting. -/
def settle (scan : Scan) : Except UsageError Draft :=
  match scan.pending with
  | .nothing => .ok scan.draft
  | .awaiting setting => .error (.missingValue setting)
  | .given setting text => scan.draft.set setting text

/-- Settles, then leaves a setting open for the next word. -/
def await (scan : Scan) (setting : Setting) : Except Stop Scan :=
  match scan.settle with
  | .ok draft => .ok ⟨draft, .awaiting setting⟩
  | .error error => .error (.usage error)

/-- Settles, then sets a setting. -/
def assign (scan : Scan) (setting : Setting) (text : String) : Except Stop Scan :=
  match scan.settle.bind (·.set setting text) with
  | .ok draft => .ok ⟨draft, .nothing⟩
  | .error error => .error (.usage error)

/-- Settles, then turns a switch on. -/
def flip (scan : Scan) (switch : Switch) : Except Stop Scan :=
  match scan.settle.bind (·.switch switch) with
  | .ok draft => .ok ⟨draft, .nothing⟩
  | .error error => .error (.usage error)

/-- Settles, then stops to tell about the program. -/
def halt (scan : Scan) (stop : Stop) : Stop :=
  match scan.settle with
  | .ok _ => stop
  | .error error => .usage error

/-- Reads a long name. -/
def long (scan : Scan) (name : String) (value? : Option String) : Except Stop Scan :=
  match Flag.ofName? name, value? with
  | none, _ => .error (.usage (.unexpectedWord ("--" ++ name)))
  | some (.setting setting), none => scan.await setting
  | some (.setting setting), some value => scan.assign setting value
  | some flag, some value => .error (.usage (.unexpectedValue flag value))
  | some (.switch switch), none => scan.flip switch
  | some .help, none => .error (scan.halt (.help true))
  | some .version, none => .error (scan.halt .version)

/-- The letters behind that of a setting are its value, an equals sign in front left out. -/
def attach (scan : Scan) (setting : Setting) : List Char → Except Stop Scan
  | [] => scan.await setting
  | '=' :: value => scan.assign setting (String.ofList value)
  | value => scan.assign setting (String.ofList value)

/-- Reads letters behind a single dash. -/
def letters (scan : Scan) : List Char → Except Stop Scan
  | [] => .ok scan
  | letter :: rest =>
    match Flag.ofLetter? letter with
    | none => .error (.usage (.unexpectedWord (String.ofList ['-', letter])))
    | some (.setting setting) => scan.attach setting rest
    | some (.switch switch) =>
      match scan.flip switch with
      | .ok scan => scan.letters rest
      | .error stop => .error stop
    | some .help => .error (scan.halt (.help false))
    | some .version => .error (scan.halt .version)

/-- Reads a word that is no flag. -/
def plain (scan : Scan) (word : String) : Except Stop Scan :=
  match scan.pending with
  | .awaiting setting => .ok { scan with pending := .given setting word }
  | _ => .error (.usage (.unexpectedWord word))

/-- Reads the words up to the double dash, and keeps those behind it. -/
def run (scan : Scan) : List String → Except Stop (Scan × List String)
  | [] => .ok (scan, [])
  | word :: words =>
    match Word.ofString word with
    | .ending => .ok (scan, words)
    | .long name value? => (scan.long name value?).bind fun scan => scan.run words
    | .short letters => (scan.letters letters).bind fun scan => scan.run words
    | .plain => (scan.plain word).bind fun scan => scan.run words

end Scan

end Screencast.CommandLine
