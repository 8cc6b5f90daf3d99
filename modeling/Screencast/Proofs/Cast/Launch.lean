import Mathlib.Tactic.Common
import Screencast.Cast.Launch
import Screencast.Proofs.Tool.Invoke

/-!
What launching a cast comes to: it returns, starts and writes what letting the casting tool through
does, once that tool is found.
-/

namespace Screencast

open Session

namespace CastOptions

variable {host : Host} {tool : ToolPath} {options : CastOptions}

lemma launch_of_error {error : ToolError} (h : host.find tool = .error error) :
    options.launch host tool = pure (.error error) := by
  unfold launch
  rw [h]

lemma value_launch_of_ok {path : ToolPath} (h : host.find tool = .ok path) :
    (options.launch host tool).value = (host.passThrough path options.toArgs).value := by
  unfold launch
  rw [h]
  simp only [value_bind]
  rcases (host.passThrough path options.toArgs).value with error | ⟨⟩ <;> rfl

lemma calls_launch_of_ok {path : ToolPath} (h : host.find tool = .ok path) :
    (options.launch host tool).calls = (host.passThrough path options.toArgs).calls := by
  unfold launch
  rw [h]
  simp only [calls_bind, calls_log, List.nil_append]
  rcases (host.passThrough path options.toArgs).value with error | ⟨⟩ <;>
    simp only [calls_bind, calls_log, calls_pure, List.append_nil]

/-- A launch succeeds where the casting tool runs and reports success. -/
theorem value_launch_eq_ok :
    (options.launch host tool).value = .ok () ↔
      ∃ started, host.Runs tool options.toArgs started ∧ started.response.exit = .code 0 := by
  unfold Host.Runs
  rcases h : host.find tool with error | path
  · rw [launch_of_error h]
    simp
  · rw [value_launch_of_ok h, Host.value_passThrough_eq_ok]
    simp

/-- A launch fails where the casting tool does. -/
theorem value_launch_eq_error {failure : ToolError} :
    (options.launch host tool).value = .error failure ↔
      host.Fails tool options.toArgs failure := by
  constructor
  · intro hvalue
    rcases h : host.find tool with error | path
    · rw [launch_of_error h] at hvalue
      obtain rfl := Except.error.inj hvalue
      exact .notFound h
    · rw [value_launch_of_ok h] at hvalue
      exact .refused h (Host.value_passThrough_eq_error.1 hvalue)
  · rintro (h | ⟨h, hrefuses⟩)
    · rw [launch_of_error h, value_pure]
    · rw [value_launch_of_ok h]
      exact Host.value_passThrough_eq_error.2 hrefuses

/-- A launch starts the casting tool once, if that can be started. -/
theorem calls_launch_of_runs {started : Started} (h : host.Runs tool options.toArgs started) :
    (options.launch host tool).calls = [(started.name, options.toArgs)] := by
  obtain ⟨path, hfind, hstart⟩ := h
  rw [calls_launch_of_ok hfind, Host.calls_passThrough, hstart]
  rfl

theorem calls_launch_of_not_runs (h : ∀ started, ¬ host.Runs tool options.toArgs started) :
    (options.launch host tool).calls = [] := by
  rcases hfind : host.find tool with error | path
  · rw [launch_of_error hfind, calls_pure]
  · rw [calls_launch_of_ok hfind, Host.calls_passThrough]
    rcases hstart : host.start path options.toArgs with error | started
    · rfl
    · exact absurd ⟨path, hfind, hstart⟩ (h started)

/-- What the casting tool writes is the output of a launch. -/
theorem stdout_launch_of_runs {started : Started} (h : host.Runs tool options.toArgs started) :
    (options.launch host tool).stdout = started.response.stdout := by
  obtain ⟨path, hfind, hstart⟩ := h
  unfold launch
  rw [hfind]
  simp only [(Quiet.log ..).stdout_bind_eq, stdout_bind, Host.stdout_passThrough hstart]
  rcases (host.passThrough path options.toArgs).value with error | ⟨⟩ <;> exact List.append_nil _

lemma stderr_launch_of_runs {started : Started} (h : host.Runs tool options.toArgs started) :
    (options.launch host tool).stderr = started.response.stderr := by
  obtain ⟨path, hfind, hstart⟩ := h
  unfold launch
  rw [hfind]
  simp only [(Quiet.log ..).stderr_bind_eq, stderr_bind, Host.stderr_passThrough hstart]
  rcases (host.passThrough path options.toArgs).value with error | ⟨⟩ <;> exact List.append_nil _

/-- A launch is logged for debugging only. -/
lemma logs_launch {kind : LogRecord → Prop} (hcast : ∀ message, kind ⟨.debug, .cast, message⟩)
    (host : Host) (tool : ToolPath) (options : CastOptions) :
    (options.launch host tool).Logs kind := by
  have hpass : ∀ path, (host.passThrough path options.toArgs).Logs kind := by
    intro path
    refine ⟨?_⟩
    rw [Host.records_passThrough]
    exact List.forall_mem_nil kind
  unfold launch
  split
  · exact Logs.pure _
  · refine (Logs.log (hcast _)).bind ((Logs.log (hcast _)).bind ((hpass _).bind ?_))
    split
    · exact Logs.pure _
    · exact (Logs.log (hcast _)).bind (Logs.pure _)

end CastOptions

end Screencast
