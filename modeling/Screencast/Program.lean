import Screencast.CommandLine.Parse
import Screencast.Logging.Filter
import Screencast.Logging.Line
import Screencast.Request.Run

/-!
The program as a whole: from the words of a command line, the environment and a host to the exit
code, the two output streams and the tools started. Log records are shown on the standard error
where the filter lets them through, and have no other effect.
-/

namespace Screencast

open CommandLine Logging

/-- What a run of the program leaves behind. -/
structure Completion where
  exitCode : Nat
  stdout : List UInt8
  stderr : List UInt8
  /-- The tools started, with their arguments. -/
  calls : List (String × List String)
deriving DecidableEq, Repr

namespace Program

/-- The filter used where the environment gives none. -/
def defaultFilter (verbose : Bool) : String := if verbose then "debug" else "info"

/-- What an event writes to the standard error. -/
def shown (filter : Filter) (time : Option String) : Event → List UInt8
  | .complaint bytes => bytes
  | .log record => if filter.shows record then Text.utf8 (line time record) else []
  | _ => []

/-- What is told of a part of the filter that cannot be read. -/
def ignoredLine (error : FilterError) : String :=
  "warning: " ++ error.message ++ ", ignoring it\n"

/-- The filter that the environment asks for, and the errors in it. -/
def filterOf (env : Environment) (verbose : Bool) : Filter × List FilterError :=
  Filter.read (env.logFilter.getD (defaultFilter verbose))

/-- What is told where neither a device nor a listing is asked for. -/
def missingSerialText (env : Environment) : String :=
  "error: --serial is required unless --list-devices is given\n\n" ++
    Text.visibleText (Help.styledShort env) ++ "\n"

/-- A run that only answers on the standard output. -/
def answer (text : String) : Completion := ⟨0, Text.utf8 text, [], []⟩

/-- A run that stops at the command line. -/
def stopped (env : Environment) : Stop → Completion
  | .help true => answer (Help.long env)
  | .help false => answer (Help.short env)
  | .version => answer Help.versionLine
  | .usage error => ⟨2, [], Text.utf8 ("error: " ++ error.message ++ "\n"), []⟩

/-- What is told at the end of the work on a request. -/
def closing (env : Environment) : Except RequestError Outcome → String
  | .error error => "Error: " ++ error.message ++ "\n"
  | .ok .missingSerial => missingSerialText env
  | .ok _ => ""

/-- The exit code at the end of the work on a request. -/
def exitCode : Except RequestError Outcome → Nat
  | .error _ => 1
  | .ok outcome => outcome.exitCode

/-- A run that works on a request. -/
def performed (host : Host) (env : Environment) (time : Option String) (request : Request) :
    Completion :=
  let filter := filterOf env request.verbose
  let session := request.run host
  { exitCode := exitCode session.value
    stdout := session.stdout
    stderr := filter.2.flatMap (fun error => Text.utf8 (ignoredLine error)) ++
      session.events.flatMap (shown filter.1 time) ++ Text.utf8 (closing env session.value)
    calls := session.calls }

/-- A run of the program. -/
def run (host : Host) (env : Environment) (time : Option String) (words : List String) :
    Completion :=
  match CommandLine.parse env words with
  | .ok request => performed host env time request
  | .error stop => stopped env stop

end Program

end Screencast
