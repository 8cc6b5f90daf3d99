import Screencast.Proofs.Tool.Invoke

/-!
That reading from a tool and letting it through agree. The two are written apart, and each settles
for itself whether the tool did its work; both report what the one start of the tool comes to, so
they return the same errors and differ in what can be seen of them only.
-/

namespace Screencast

/-! ### Why a tool is not started -/

namespace StartError

variable {error : StartError} {tool : ToolPath} {label : String}

/-- Of all reasons, only a missing file has no words of its own. -/
lemma reason?_eq_none : error.reason? = none ↔ error = .missing := by
  cases error <;> simp [reason?]

lemma toToolError_eq_notFound :
    error.toToolError tool = .notFound label ↔ label = tool.label ∧ error = .missing := by
  unfold toToolError
  rw [← reason?_eq_none]
  rcases error.reason? with _ | reason
  · simp [eq_comm]
  · simp

lemma toToolError_eq_notStarted {reason : String} :
    error.toToolError tool = .notStarted label reason ↔
      label = tool.label ∧ error.reason? = some reason := by
  unfold toToolError
  rcases error.reason? with _ | reason'
  · simp
  · simp [eq_comm]

/-- A tool that is not started has no code. -/
lemma toToolError_ne_failed {code : Option Int} : error.toToolError tool ≠ .failed label code := by
  unfold toToolError
  split
  · exact nofun
  · exact nofun

end StartError

lemma Exit.code?_eq_some {exit : Exit} {code : Int} :
    exit.code? = some code ↔ exit = .code code := by
  cases exit <;> simp [code?]

lemma Exit.code?_eq_none {exit : Exit} : exit.code? = none ↔ ∃ number, exit = .signal number := by
  cases exit <;> simp [code?]

namespace Host

open Session

variable {α : Type} {host : Host} {tool : ToolPath} {args : List String} {label : String}

/-! ### What refusing comes to -/

/-- A tool is refused for a missing file where its start misses one. -/
lemma refuses_notFound_iff :
    host.Refuses tool args (.notFound label) ↔
      label = tool.label ∧ host.start tool args = .error .missing := by
  constructor
  · intro h
    generalize hfailure : ToolError.notFound label = failure at h
    cases h with
    | notStarted start =>
      obtain ⟨hlabel, rfl⟩ := StartError.toToolError_eq_notFound.1 hfailure.symm
      exact ⟨hlabel, start⟩
    | notSuccessful => cases hfailure
  · rintro ⟨rfl, start⟩
    exact .notStarted start

lemma refuses_notStarted_iff {reason : String} :
    host.Refuses tool args (.notStarted label reason) ↔
      label = tool.label ∧
        ∃ error, host.start tool args = .error error ∧ error.reason? = some reason := by
  constructor
  · intro h
    generalize hfailure : ToolError.notStarted label reason = failure at h
    cases h with
    | notStarted start =>
      obtain ⟨hlabel, hreason⟩ := StartError.toToolError_eq_notStarted.1 hfailure.symm
      exact ⟨hlabel, _, start, hreason⟩
    | notSuccessful => cases hfailure
  · rintro ⟨hlabel, error, start, hreason⟩
    rw [← StartError.toToolError_eq_notStarted.2 ⟨hlabel, hreason⟩]
    exact .notStarted start

lemma refuses_failed_iff {code : Option Int} :
    host.Refuses tool args (.failed label code) ↔
      label = tool.label ∧ ∃ started, host.start tool args = .ok started ∧
        started.response.exit ≠ .code 0 ∧ started.response.exit.code? = code := by
  constructor
  · intro h
    generalize hfailure : ToolError.failed label code = failure at h
    cases h with
    | notStarted => exact absurd hfailure.symm StartError.toToolError_ne_failed
    | notSuccessful start exit =>
      cases hfailure
      exact ⟨rfl, _, start, exit, rfl⟩
  · rintro ⟨rfl, started, start, exit, rfl⟩
    exact .notSuccessful start exit

/-! ### Both ways -/

/-- A result goes by how the tool was started and how it ended, error by error. -/
structure Reports (host : Host) (tool : ToolPath) (args : List String)
    (result : Except ToolError α) : Prop where
  ok : (∃ a, result = .ok a) ↔
    ∃ started, host.start tool args = .ok started ∧ started.response.exit = .code 0
  exited : ∀ label code, result = .error (.failed label (some code)) ↔
    label = tool.label ∧ code ≠ 0 ∧
      ∃ started, host.start tool args = .ok started ∧ started.response.exit = .code code
  killed : ∀ label, result = .error (.failed label none) ↔
    label = tool.label ∧
      ∃ started number, host.start tool args = .ok started ∧ started.response.exit = .signal number
  missing : ∀ label, result = .error (.notFound label) ↔
    label = tool.label ∧ host.start tool args = .error .missing
  notStarted : ∀ label reason, result = .error (.notStarted label reason) ↔
    label = tool.label ∧
      ∃ error, host.start tool args = .error error ∧ error.reason? = some reason
  exitCode : ∀ failure code, result = .error failure → failure.exitCode? = some code →
    ∃ started, host.start tool args = .ok started ∧ started.response.exit = .code code

/-- Whatever is made of the response of a tool, the errors are those of the tool. -/
lemma reports_map (f : Response → α) : Reports host tool args ((host.respond tool args).map f) := by
  have herror : ∀ failure, (host.respond tool args).map f = .error failure ↔
      host.Refuses tool args failure := by
    intro failure
    rw [← respond_eq_error]
    cases host.respond tool args <;> simp [Except.map]
  have hok : (∃ a, (host.respond tool args).map f = .ok a) ↔
      ∃ response, host.respond tool args = .ok response := by
    cases host.respond tool args <;> simp [Except.map]
  have hexited : ∀ label code, (host.respond tool args).map f = .error (.failed label (some code)) ↔
      label = tool.label ∧ code ≠ 0 ∧
        ∃ started, host.start tool args = .ok started ∧ started.response.exit = .code code := by
    intro label code
    rw [herror, refuses_failed_iff]
    simp only [Exit.code?_eq_some]
    constructor
    · rintro ⟨hlabel, started, start, exit, hcode⟩
      refine ⟨hlabel, ?_, started, start, hcode⟩
      rintro rfl
      exact exit hcode
    · rintro ⟨hlabel, hcode, started, start, exit⟩
      refine ⟨hlabel, started, start, ?_, exit⟩
      rw [exit]
      exact fun hzero => hcode (Exit.code.inj hzero)
  refine ⟨?_, hexited, ?_, ?_, ?_, ?_⟩
  · rw [hok]
    simp only [respond_eq_ok]
    exact ⟨fun ⟨_, started, start, exit, _⟩ => ⟨started, start, exit⟩,
      fun ⟨started, start, exit⟩ => ⟨_, started, start, exit, rfl⟩⟩
  · intro label
    rw [herror, refuses_failed_iff]
    simp only [Exit.code?_eq_none]
    constructor
    · rintro ⟨hlabel, started, start, -, number, hsignal⟩
      exact ⟨hlabel, started, number, start, hsignal⟩
    · rintro ⟨hlabel, started, number, start, hsignal⟩
      refine ⟨hlabel, started, start, ?_, number, hsignal⟩
      rw [hsignal]
      exact nofun
  · intro label
    rw [herror, refuses_notFound_iff]
  · intro label reason
    rw [herror, refuses_notStarted_iff]
  · intro failure code hfailure hcode
    cases failure with
    | failed label code' =>
      obtain rfl : code' = some code := hcode
      exact ((hexited label code).1 hfailure).2.2
    | notFound | notStarted => cases hcode

/-- **The two ways of running a tool agree.** Reading from a tool and letting it through succeed
together, fail with the same error, and start the same. Both report how the tool ended: its code, if
it ended with one other than zero, that there is none, if it was killed, that it is missing, or why
it was not started. Reading writes nothing and returns all that the tool wrote to its output;
letting through writes what the tool writes and logs nothing. -/
theorem two_ways_of_running_agree (host : Host) (tool : ToolPath) (args : List String) :
    ((host.passThrough tool args).value = (host.capture tool args).value.map fun _ => ()) ∧
    (host.passThrough tool args).calls = (host.capture tool args).calls ∧
    Reports host tool args (host.capture tool args).value ∧
    Reports host tool args (host.passThrough tool args).value ∧
    (∀ started, host.start tool args = .ok started →
      (host.capture tool args).calls = [(started.name, args)] ∧
      (host.passThrough tool args).stdout = started.response.stdout ∧
      (host.passThrough tool args).stderr = started.response.stderr) ∧
    (∀ error, host.start tool args = .error error →
      (host.capture tool args).calls = [] ∧ (host.passThrough tool args).Quiet) ∧
    (∀ text, (host.capture tool args).value = .ok text ↔
      ∃ started, host.start tool args = .ok started ∧ started.response.exit = .code 0 ∧
        Text.decodeUtf8 started.response.stdout = text) ∧
    (host.capture tool args).Quiet ∧ (host.passThrough tool args).records = [] := by
  have hcapture := value_capture host tool args
  have hpass := value_passThrough host tool args
  refine ⟨?_, ?_, ?_, ?_, ?_, ?_, fun text => value_capture_eq_ok, quiet_capture .., ?_⟩
  · rw [hcapture, hpass]
    cases host.respond tool args <;> rfl
  · rw [calls_capture, calls_passThrough]
  · rw [hcapture]
    exact reports_map _
  · rw [hpass]
    exact reports_map _
  · intro started h
    refine ⟨?_, stdout_passThrough h, stderr_passThrough h⟩
    rw [calls_capture, h]
    rfl
  · intro error h
    refine ⟨?_, ?_⟩
    · rw [calls_capture, h]
      rfl
    · rw [passThrough_of_error h]
      exact ⟨rfl, rfl⟩
  · exact records_passThrough ..

end Host

end Screencast
