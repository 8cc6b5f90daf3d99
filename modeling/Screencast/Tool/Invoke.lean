import Screencast.Session.Basic
import Screencast.Text.Blank
import Screencast.Tool.Search

/-!
Starting tools and waiting for their end, either to read what they write or to let it through.
Both ways start the same program and report the same errors.
-/

namespace Screencast

/-- Why a program is not started. -/
inductive StartError where
  | missing
  | notADirectory
  | notPermitted
  | nameTooLong
  | argumentTooLong
  | malformed
  /-- A NUL stands in the path or in an argument. -/
  | nulInText
  /-- Another reason, in the words of the system. -/
  | other (reason : String)
deriving DecidableEq, Repr

namespace StartError

/-- The reason in words, where the tool is not simply missing. -/
def reason? : StartError → Option String
  | missing => none
  | notADirectory => some "Not a directory (os error 20)"
  | notPermitted => some "Permission denied (os error 13)"
  | nameTooLong => some "File name too long (os error 36)"
  | argumentTooLong => some "Argument list too long (os error 7)"
  | malformed => some "Exec format error (os error 8)"
  | nulInText => some "nul byte found in provided data"
  | other reason => some reason

/-- The same failure as an error of a tool. -/
def toToolError (error : StartError) (tool : ToolPath) : ToolError :=
  match error.reason? with
  | none => .notFound tool.label
  | some reason => .notStarted tool.label reason

/-- A search goes on behind a directory where a program is not to be had. -/
def allowsNext : StartError → Bool
  | missing | notADirectory | notPermitted => true
  | nameTooLong | argumentTooLong | malformed | nulInText | other _ => false

end StartError

/-- The file of a script is not started for the same reason as its interpreter. -/
def InterpreterError.toStartError : InterpreterError → StartError
  | notADirectory => .notADirectory
  | notPermitted => .notPermitted
  | other reason => .other reason

/-- A program that was started: the name of its file, and what it answers. -/
structure Started where
  name : String
  response : Response
deriving DecidableEq, Repr

namespace Host

/-- The most bytes that an argument can have. -/
def longestArgument : Nat := 131071

/-- Starts the file that a path names. -/
def startAt (host : Host) (path : ToolPath) (args : List String) : Except StartError Started :=
  match host.look path with
  | .error .missing => .error .missing
  | .error .notADirectory => .error .notADirectory
  | .error .nameTooLong => .error .nameTooLong
  | .ok (_, .directory) => .error .notPermitted
  | .ok (_, .file false _) => .error .notPermitted
  | .ok (place, .file true program) =>
    if args.any fun arg => longestArgument < arg.utf8ByteSize then .error .argumentTooLong
    else
      match program with
      | .answering respond => .ok ⟨place.getLast?.getD "", respond args⟩
      | .malformed => .error .malformed
      | .uninterpreted => .error .missing
      | .barred error => .error error.toStartError

/-- Starts the first of several files that can be started. When none can, a missing permission
outweighs the failure of the last one. -/
def startFirst (host : Host) (args : List String) (failure : StartError) :
    List ToolPath → Except StartError Started
  | [] => .error failure
  | path :: paths =>
    match host.startAt path args with
    | .ok started => .ok started
    | .error error =>
      if error.allowsNext then
        host.startFirst args (if failure = .notPermitted then failure else error) paths
      else .error error

/-- Starts a tool by its path: a single name is looked for in the search path. -/
def start (host : Host) (tool : ToolPath) (args : List String) : Except StartError Started :=
  if (tool.text :: args).any fun text => text.toList.contains '\x00' then .error .nulInText
  else if tool.text = "" ∨ tool.text.toList.contains '/' then host.startAt tool args
  else
    host.startFirst args .missing
      (host.searchDirectories.map fun directory => directory.join tool)

end Host

/-- A command line as it is shown: the path and the arguments, with spaces between them. -/
def showCommand (tool : ToolPath) (args : List String) : String :=
  Text.joinStrings " " (tool.text :: args)

namespace Host

/-- Runs a tool and reads what it writes; its output goes nowhere else. -/
def capture (host : Host) (tool : ToolPath) (args : List String) :
    Session (Except ToolError String) := do
  Session.log .debug .tools ("Running: " ++ showCommand tool args)
  match host.start tool args with
  | .error error => return .error (error.toToolError tool)
  | .ok ⟨name, response⟩ =>
    Session.call name args
    if response.exit.isSuccess then return .ok (Text.decodeUtf8 response.stdout)
    else
      Session.log .debug .tools
        (tool.label ++ " stderr: " ++ Text.trimString (Text.decodeUtf8 response.stderr))
      return .error (.failed tool.label response.exit.code?)

/-- Runs a tool whose output is let through. -/
def passThrough (host : Host) (tool : ToolPath) (args : List String) :
    Session (Except ToolError Unit) := do
  match host.start tool args with
  | .error error => return .error (error.toToolError tool)
  | .ok ⟨name, response⟩ =>
    Session.call name args
    Session.write response.stdout
    Session.complain response.stderr
    if response.exit.isSuccess then return .ok ()
    else return .error (.failed tool.label response.exit.code?)

end Host

end Screencast
