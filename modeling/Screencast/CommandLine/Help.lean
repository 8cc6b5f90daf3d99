import Screencast.CommandLine.Environment
import Screencast.CommandLine.Flag
import Screencast.Request.Basic
import Screencast.Text.Terminal

/-!
The help of the program, with a line or a paragraph for each flag, and its version. The text is
made for a terminal, with the names of the flags in bold, and given out without the control
sequences. The values of environment variables that stand in for flags are shown in it.
-/

namespace Screencast.CommandLine

namespace Help

/-- The name of the program. -/
def programName : String := "scrcpy-launch"

/-- The answer to a question for the version. -/
def versionLine : String := programName ++ " 0.1.0\n"

/-- The beginning of the help. -/
def head : String :=
  "List attached Android devices and launch scrcpy with forwarded options\n\nUsage: " ++
    programName ++ " [OPTIONS] [-- <EXTRA_ARGS>...]\n\nArguments:\n  [EXTRA_ARGS]..."

/-- What is said of the words behind the double dash. -/
def aboutExtra : String := "Extra arguments passed to scrcpy unchanged"

/-- A text in bold. -/
def bold (text : String) : String := "\x1b[1m" ++ text ++ "\x1b[0m"

/-- A flag as the help writes it: the letter, where it has one, the name, and the value. -/
def form (flag : Flag) : String :=
  (match flag.letter? with
    | some letter => bold (String.ofList ['-', letter]) ++ ", "
    | none => "    ") ++
    bold ("--" ++ flag.name) ++ flag.valueForm

/-- The width of a flag as the help shows it. -/
def formWidth (flag : Flag) : Nat := 4 + flag.label.length

/-- A name and its value, in brackets. -/
def note (name value : String) : String := "[" ++ name ++ ": " ++ value ++ "]"

/-- What a flag falls back on: a variable, where there is one, and a default. -/
def fallbacks (env : Environment) : Flag → List String
  | .setting .keyboard => [note "default" Keyboard.default.name]
  | .setting .bridge =>
    [note "env" ("ADB=" ++ env.bridge.getD ""), note "default" Bridge.defaultPath.text]
  | .setting .castTool =>
    [note "env" ("SCRCPY=" ++ env.castTool.getD ""), note "default" CastOptions.defaultTool.text]
  | _ => []

/-- Spaces. -/
def spaces (n : Nat) : String := String.ofList (List.replicate n ' ')

/-- A text with its lines but the first indented. -/
def hang (indent : Nat) (text : String) : String :=
  Text.joinStrings ("\n" ++ spaces indent) (Text.cutString '\n' text)

/-! ### One line for each flag -/

/-- The column at which the descriptions start. -/
def column : Nat := 39

/-- The values that a flag can have. -/
def possibleValues : Flag → List String
  | .setting .keyboard =>
    [note "possible values" (Text.joinStrings ", " (Keyboard.all.map Keyboard.name))]
  | _ => []

/-- What the short help says of a flag. -/
def aboutShort (env : Environment) (flag : Flag) : String :=
  match flag with
  | .setting s => Text.joinStrings " " (s.about :: fallbacks env flag ++ possibleValues flag)
  | .switch s => s.about
  | .help => "Print help (see more with '--help')"
  | .version => "Print version"

/-- The line of a flag in the short help. -/
def line (env : Environment) (flag : Flag) : String :=
  "  " ++ form flag ++ spaces (column - 2 - formWidth flag) ++
    hang column (aboutShort env flag) ++ "\n"

/-- The short help as it is made for a terminal. -/
def styledShort (env : Environment) : String :=
  head ++ "  " ++ aboutExtra ++ "\n\nOptions:\n" ++ String.join (Flag.all.map (line env))

/-- The short help. -/
def short (env : Environment) : String := Text.stripControls (styledShort env)

/-! ### A paragraph for each flag -/

/-- What the long help says of a flag. -/
def aboutLong : Flag → String
  | .setting s => s.about
  | .switch s => s.about
  | .help => "Print help (see a summary with '-h')"
  | .version => "Print version"

/-- A line of a paragraph; the lines of its text behind the first are indented as well. -/
def indented (text : String) : String := spaces 10 ++ hang 10 text ++ "\n"

/-- What is said of a keyboard mode, behind its name. -/
def choice (keyboard : Keyboard) : String :=
  let name := keyboard.name ++ ":"
  "- " ++ name ++ spaces (9 - name.length) ++ keyboard.about

/-- The values that a flag can have, behind an empty line. -/
def choices : Flag → String
  | .setting .keyboard =>
    "\n" ++ indented "Possible values:" ++
      String.join (Keyboard.all.map fun keyboard => indented (choice keyboard))
  | _ => ""

/-- What a flag falls back on, behind a line of spaces. -/
def fallbackLines (env : Environment) (flag : Flag) : String :=
  match fallbacks env flag with
  | [] => ""
  | lines => indented "" ++ String.join (lines.map indented)

/-- The paragraph of a flag in the long help. -/
def paragraph (env : Environment) (flag : Flag) : String :=
  "  " ++ form flag ++ "\n" ++ indented (aboutLong flag) ++ choices flag ++
    fallbackLines env flag

/-- The long help. -/
def long (env : Environment) : String :=
  Text.stripControls
    (head ++ "\n" ++ indented aboutExtra ++ "\nOptions:\n" ++
      Text.joinStrings "\n" (Flag.all.map (paragraph env)))

end Help

end Screencast.CommandLine
