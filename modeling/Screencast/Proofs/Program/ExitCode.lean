import Screencast.Proofs.CommandLine.Extra
import Screencast.Proofs.CommandLine.Serial

/-!
What the exit code of the program tells. There are three of them, whatever the words, the
environment and the tools are, and no tool can choose another one: zero is for work that was done,
two for words that cannot be read, and one for all that went wrong behind them.
-/

namespace Screencast

open CommandLine Request Text

/-! ### Calls for a listing -/

namespace Request

end Request

namespace Program

variable {host : Host} {env : Environment} {time : Option String} {words : List String}

/-! ### How a run ends -/

/-- The words ask for a text about the program. -/
inductive Answers (env : Environment) (words : List String) : String → Prop
  | help (stops : parse env words = .error (.help true)) : Answers env words (Help.long env)
  | shortHelp (stops : parse env words = .error (.help false)) : Answers env words (Help.short env)
  | version (stops : parse env words = .error .version) : Answers env words Help.versionLine

lemma run_of_stop {stop : Stop} (h : parse env words = .error stop) :
    run host env time words = stopped env stop := by
  unfold run
  rw [h]

lemma run_of_parse {request : Request} (h : parse env words = .ok request) :
    run host env time words = performed host env time request := by
  unfold run
  rw [h]

lemma exitCode_run_of_ends {request : Request} {outcome : Outcome}
    (h : parse env words = .ok request) (hends : Ends host request outcome) :
    (run host env time words).exitCode = outcome.exitCode := by
  rw [run_of_parse h]
  change exitCode (request.run host).value = outcome.exitCode
  rw [value_run_eq_ok.2 hends]
  rfl

/-! ### The calls of a run that is cut short -/

/-- A host whose bridge ends with two, whatever it is asked. -/
def refusingHost : Host where
  workingPlace := []
  home := ⟨"/"⟩
  searchPath := "/"
  node? place :=
    if place = ["adb"] then some (.file true (.answering fun _ => ⟨[], [], .code 2⟩)) else none

/-- The exit code of a tool is not passed on. -/
example : (run refusingHost {} none ["-l"]).exitCode = 1 := by decide +kernel

end Program

end Screencast
