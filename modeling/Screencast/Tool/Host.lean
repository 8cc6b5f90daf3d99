import Screencast.Tool.Path

/-!
The host on which tools are looked up and started: a tree of directories and files, a working
directory, a home directory, a search path, and what each program answers to its arguments.

A host stays as it is. No file is changed or open for writing while tools are started, and what a
tool answers does not depend on the calls before. Paths and arguments are Unicode text, and there
is always a search path. A single argument has a limit, but the one that the system sets to all
arguments and the environment together, which differs from process to process, is left out.
-/

namespace Screencast

/-- How a program ended. -/
inductive Exit where
  | code (value : Int)
  | signal (number : Nat)
deriving DecidableEq, Repr

namespace Exit

/-- The program ended by itself and reports success. -/
def isSuccess : Exit → Bool
  | code 0 => true
  | _ => false

/-- The code of a program that ended by itself. -/
def code? : Exit → Option Int
  | code value => some value
  | signal _ => none

end Exit

/-- What a program wrote, and how it ended. -/
structure Response where
  stdout : List UInt8
  stderr : List UInt8
  exit : Exit
deriving DecidableEq, Repr

/-- Why an interpreter that is not simply missing cannot be executed. -/
inductive InterpreterError where
  /-- It would lie below a file. -/
  | notADirectory
  /-- It is a directory, or a file that may not be executed. -/
  | notPermitted
  /-- Any other reason, in the words of the system, as when scripts are each other's interpreters. -/
  | other (reason : String)
deriving DecidableEq, Repr

/-- The contents of a file, as far as starting it goes. -/
inductive Program where
  /-- A program that answers the same arguments in the same way. -/
  | answering (respond : List String → Response)
  /-- No program at all. -/
  | malformed
  /-- A script whose interpreter is missing. -/
  | uninterpreted
  /-- A script whose interpreter cannot be executed for another reason. -/
  | barred (error : InterpreterError)

/-- What a name stands for in the tree. -/
inductive Node where
  | directory
  | file (executable : Bool) (program : Program)

/-- A host. Places in its tree are given by the names on the way from the root. -/
structure Host where
  /-- The place from which relative paths start. -/
  workingPlace : List String
  /-- The home directory of the user. -/
  home : ToolPath
  /-- Directories to search for bare names, between colons. -/
  searchPath : String
  /-- What stands at a place. -/
  node? : List String → Option Node

namespace Host

/-- Why nothing is found along a path. -/
inductive LookupError where
  | missing
  | notADirectory
  | nameTooLong
deriving DecidableEq, Repr

/-- What stands at a place; the root is always a directory. -/
def at? (host : Host) : List String → Option Node
  | [] => some .directory
  | place => host.node? place

/-- The most bytes that a name can have. -/
def longestName : Nat := 255

/-- The most bytes that a path can have. -/
def longestPath : Nat := 4095

/-- Walks from a place along the pieces of a path. Each piece, even an empty one, needs a
directory to start from. -/
def walk (host : Host) (place : List String) : List String →
    Except LookupError (List String × Node)
  | [] =>
    match host.at? place with
    | none => .error .missing
    | some node => .ok (place, node)
  | piece :: pieces =>
    match host.at? place with
    | none => .error .missing
    | some (.file ..) => .error .notADirectory
    | some .directory =>
      if piece = "" ∨ piece = "." then host.walk place pieces
      else if piece = ".." then host.walk place.dropLast pieces
      else if longestName < piece.utf8ByteSize then .error .nameTooLong
      else host.walk (place ++ [piece]) pieces

/-- What stands at the end of a path, and its place. -/
def look (host : Host) (path : ToolPath) : Except LookupError (List String × Node) :=
  if path.text = "" then .error .missing
  else if longestPath < path.text.utf8ByteSize then .error .nameTooLong
  else if path.isAbsolute then host.walk [] path.pieces
  else host.walk host.workingPlace path.pieces

/-- The path names a file that may be started. -/
def isExecutable (host : Host) (path : ToolPath) : Bool :=
  !path.text.toList.contains '\x00' &&
    match host.look path with
    | .ok (_, .file executable _) => executable
    | _ => false

/-- The directories of the search path, in order. -/
def searchDirectories (host : Host) : List ToolPath :=
  (Text.cutString ':' host.searchPath).map ToolPath.mk

end Host

end Screencast
