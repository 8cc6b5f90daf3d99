import Screencast.Proofs.Session.Effects
import Screencast.Proofs.Tool.Start

/-!
What running a tool comes to, in each of the ways it can end: the tool is not started, it reports
success, or it does not.
-/

namespace Screencast

lemma Exit.isSuccess_iff {exit : Exit} : exit.isSuccess = true ↔ exit = .code 0 := by
  unfold isSuccess
  split
  · exact iff_of_true rfl rfl
  · next h => simpa using h

lemma Exit.isSuccess_eq_false {exit : Exit} (h : exit ≠ .code 0) : exit.isSuccess = false := by
  rw [← Bool.not_eq_true, isSuccess_iff]
  exact h

namespace Host

open Session

variable {host : Host} {tool : ToolPath} {args : List String} {error : StartError}
  {started : Started}

/-- A tool answers arguments: it is started, reports success, and writes a text. -/
def Answers (host : Host) (tool : ToolPath) (args : List String) (text : String) : Prop :=
  ∃ started, host.start tool args = .ok started ∧ started.response.exit = .code 0 ∧
    Text.decodeUtf8 started.response.stdout = text

/-- A tool refuses arguments with an error: it is not started, or it does not report success. -/
inductive Refuses (host : Host) (tool : ToolPath) (args : List String) : ToolError → Prop
  | notStarted {error : StartError} (start : host.start tool args = .error error) :
    Refuses host tool args (error.toToolError tool)
  | notSuccessful {started : Started} (start : host.start tool args = .ok started)
    (exit : started.response.exit ≠ .code 0) :
    Refuses host tool args (.failed tool.label started.response.exit.code?)

/-- A tool is found, and what is found can be started with the arguments. -/
def Runs (host : Host) (tool : ToolPath) (args : List String) (started : Started) : Prop :=
  ∃ path, host.find tool = .ok path ∧ host.start path args = .ok started

/-- A tool fails: it is not found, or what is found refuses the arguments. -/
inductive Fails (host : Host) (tool : ToolPath) (args : List String) : ToolError → Prop
  | notFound {error : ToolError} (find : host.find tool = .error error) : Fails host tool args error
  | refused {path : ToolPath} {error : ToolError} (find : host.find tool = .ok path)
    (refuses : host.Refuses path args error) : Fails host tool args error

lemma Runs.unique {started' : Started} (h : host.Runs tool args started)
    (h' : host.Runs tool args started') : started = started' := by
  obtain ⟨path, hfind, hstart⟩ := h
  obtain ⟨path', hfind', hstart'⟩ := h'
  obtain rfl : path = path' := Except.ok.inj (hfind.symm.trans hfind')
  exact Except.ok.inj (hstart.symm.trans hstart')

/-- The tool that runs, runs with all arguments that a program can get. -/
theorem exists_runs_iff {name : String} :
    (∃ response, host.Runs tool args ⟨name, response⟩) ↔
      (∀ arg ∈ args, isArgument arg = true) ∧ ∃ response, host.Runs tool [] ⟨name, response⟩ := by
  constructor
  · rintro ⟨response, path, hfind, hstart⟩
    obtain ⟨hargs, response', hstart'⟩ := exists_start_iff.1 ⟨response, hstart⟩
    exact ⟨hargs, response', path, hfind, hstart'⟩
  · rintro ⟨hargs, response, path, hfind, hstart⟩
    obtain ⟨response', hstart'⟩ := exists_start_iff.2 ⟨hargs, response, hstart⟩
    exact ⟨response', path, hfind, hstart'⟩

/-- The tool that runs with arguments runs with some of them as well. -/
lemma Runs.of_subset {others : List String} (h : host.Runs tool args started)
    (hsubset : others ⊆ args) : ∃ response, host.Runs tool others ⟨started.name, response⟩ := by
  obtain ⟨hargs, hnone⟩ := exists_runs_iff.1 ⟨started.response, h⟩
  exact exists_runs_iff.2 ⟨fun arg hmem => hargs arg (hsubset hmem), hnone⟩

lemma Runs.of_append {others : List String} (h : host.Runs tool (args ++ others) started) :
    ∃ response, host.Runs tool args ⟨started.name, response⟩ :=
  h.of_subset (List.subset_append_left args others)

/-! ### The three ways -/

/-- The three ways in which the run of a tool can end. -/
lemma start_cases (host : Host) (tool : ToolPath) (args : List String) :
    (∃ error, host.start tool args = .error error) ∨
      (∃ started, host.start tool args = .ok started ∧ started.response.exit = .code 0) ∨
        ∃ started, host.start tool args = .ok started ∧ started.response.exit ≠ .code 0 := by
  rcases h : host.start tool args with error | started
  · exact .inl ⟨error, rfl⟩
  · by_cases hexit : started.response.exit = .code 0
    · exact .inr (.inl ⟨started, rfl, hexit⟩)
    · exact .inr (.inr ⟨started, rfl, hexit⟩)

/-- The response of a tool that is started and reports success, and otherwise the error. -/
def respond (host : Host) (tool : ToolPath) (args : List String) : Except ToolError Response :=
  match host.start tool args with
  | .error error => .error (error.toToolError tool)
  | .ok started =>
    if started.response.exit = .code 0 then .ok started.response
    else .error (.failed tool.label started.response.exit.code?)

lemma respond_eq_ok {response : Response} :
    host.respond tool args = .ok response ↔
      ∃ started, host.start tool args = .ok started ∧ started.response.exit = .code 0 ∧
        started.response = response := by
  unfold respond
  rcases start_cases host tool args with ⟨error, h⟩ | ⟨started, h, hexit⟩ | ⟨started, h, hexit⟩
  · simp [h]
  · simp [h, hexit]
  · simp [h, hexit]

lemma respond_eq_error {failure : ToolError} :
    host.respond tool args = .error failure ↔ host.Refuses tool args failure := by
  unfold respond
  constructor
  · intro hfailure
    rcases start_cases host tool args with ⟨error, h⟩ | ⟨started, h, hexit⟩ | ⟨started, h, hexit⟩
    · rw [h] at hfailure
      obtain rfl := Except.error.inj hfailure
      exact .notStarted h
    · simp [h, hexit] at hfailure
    · rw [h] at hfailure
      dsimp only at hfailure
      rw [if_neg hexit] at hfailure
      obtain rfl := Except.error.inj hfailure
      exact .notSuccessful h hexit
  · rintro (h | ⟨h, hexit⟩)
    · rw [h]
    · rw [h]
      exact if_neg hexit

/-! ### Reading what a tool writes -/

lemma capture_of_error (h : host.start tool args = .error error) :
    host.capture tool args =
      ⟨.error (error.toToolError tool),
        [.log ⟨.debug, .tools, "Running: " ++ showCommand tool args⟩]⟩ := by
  unfold capture
  rw [h]
  rfl

lemma capture_of_success (h : host.start tool args = .ok started)
    (hexit : started.response.exit = .code 0) :
    host.capture tool args =
      ⟨.ok (Text.decodeUtf8 started.response.stdout),
        [.log ⟨.debug, .tools, "Running: " ++ showCommand tool args⟩, .call started.name args]⟩ := by
  unfold capture
  rw [h]
  dsimp only
  rw [if_pos (Exit.isSuccess_iff.2 hexit)]
  rfl

lemma capture_of_failure (h : host.start tool args = .ok started)
    (hexit : started.response.exit ≠ .code 0) :
    host.capture tool args =
      ⟨.error (.failed tool.label started.response.exit.code?),
        [.log ⟨.debug, .tools, "Running: " ++ showCommand tool args⟩, .call started.name args,
          .log ⟨.debug, .tools, tool.label ++ " stderr: " ++
            Text.trimString (Text.decodeUtf8 started.response.stderr)⟩]⟩ := by
  unfold capture
  rw [h]
  dsimp only
  rw [Exit.isSuccess_eq_false hexit]
  rfl

/-- A tool that is only read from writes nothing. -/
lemma quiet_capture (host : Host) (tool : ToolPath) (args : List String) :
    (host.capture tool args).Quiet := by
  rcases start_cases host tool args with ⟨error, h⟩ | ⟨started, h, hexit⟩ | ⟨started, h, hexit⟩
  · rw [capture_of_error h]
    exact ⟨rfl, rfl⟩
  · rw [capture_of_success h hexit]
    exact ⟨rfl, rfl⟩
  · rw [capture_of_failure h hexit]
    exact ⟨rfl, rfl⟩

/-- Reading from a tool is logged for debugging only. -/
lemma logs_capture {kind : LogRecord → Prop} (h : ∀ message, kind ⟨.debug, .tools, message⟩)
    (host : Host) (tool : ToolPath) (args : List String) : (host.capture tool args).Logs kind := by
  unfold capture
  refine (Logs.log (h _)).bind ?_
  split
  · exact Logs.pure _
  · refine (Logs.call ..).bind ?_
    split
    · exact Logs.pure _
    · exact (Logs.log (h _)).bind (Logs.pure _)

/-- A tool that is read from is started once, if it can be started. -/
lemma calls_capture (host : Host) (tool : ToolPath) (args : List String) :
    (host.capture tool args).calls =
      ((host.start tool args).toOption.map fun started => (started.name, args)).toList := by
  rcases start_cases host tool args with ⟨error, h⟩ | ⟨started, h, hexit⟩ | ⟨started, h, hexit⟩
  · rw [capture_of_error h, h]
    rfl
  · rw [capture_of_success h hexit, h]
    rfl
  · rw [capture_of_failure h hexit, h]
    rfl

lemma value_capture (host : Host) (tool : ToolPath) (args : List String) :
    (host.capture tool args).value =
      (host.respond tool args).map fun response => Text.decodeUtf8 response.stdout := by
  unfold respond
  rcases start_cases host tool args with ⟨error, h⟩ | ⟨started, h, hexit⟩ | ⟨started, h, hexit⟩
  · rw [capture_of_error h, h]
    rfl
  · rw [capture_of_success h hexit, h]
    simp [hexit, Except.map]
  · rw [capture_of_failure h hexit, h]
    simp [hexit, Except.map]

/-- A tool that was started once is started again with all arguments that a program can get. -/
lemma calls_capture_of_start (h : host.start tool args = .ok started) (others : List String) :
    (host.capture tool others).calls =
      if ∀ arg ∈ others, isArgument arg = true then [(started.name, others)] else [] := by
  rw [calls_capture]
  split
  · next hothers =>
    have hnone := (exists_start_iff.1 ⟨started.response, h⟩).2
    obtain ⟨response, hstart⟩ := exists_start_iff.2 ⟨hothers, hnone⟩
    rw [hstart]
    rfl
  · next hothers =>
    rcases hstart : host.start tool others with error | started'
    · rfl
    · exact absurd (exists_start_iff.1 ⟨started'.response, hstart⟩).1 hothers

/-- What is read from a tool is what it answers. -/
theorem value_capture_eq_ok {text : String} :
    (host.capture tool args).value = .ok text ↔ host.Answers tool args text := by
  have hmap : (host.capture tool args).value = .ok text ↔
      ∃ response, host.respond tool args = .ok response ∧
        Text.decodeUtf8 response.stdout = text := by
    rw [value_capture]
    cases host.respond tool args <;> simp [Except.map]
  simp only [hmap, respond_eq_ok, Answers]
  constructor
  · rintro ⟨_, ⟨started, h, hexit, rfl⟩, htext⟩
    exact ⟨started, h, hexit, htext⟩
  · rintro ⟨started, h, hexit, htext⟩
    exact ⟨_, ⟨started, h, hexit, rfl⟩, htext⟩

/-- Reading from a tool fails where the tool refuses. -/
theorem value_capture_eq_error {failure : ToolError} :
    (host.capture tool args).value = .error failure ↔ host.Refuses tool args failure := by
  rw [← respond_eq_error, value_capture]
  cases host.respond tool args <;> simp [Except.map]

/-! ### Letting through what a tool writes -/

lemma passThrough_of_error (h : host.start tool args = .error error) :
    host.passThrough tool args = ⟨.error (error.toToolError tool), []⟩ := by
  unfold passThrough
  rw [h]
  rfl

lemma passThrough_of_success (h : host.start tool args = .ok started)
    (hexit : started.response.exit = .code 0) :
    host.passThrough tool args =
      ⟨.ok (), [.call started.name args, .output started.response.stdout,
        .complaint started.response.stderr]⟩ := by
  unfold passThrough
  rw [h]
  dsimp only
  rw [if_pos (Exit.isSuccess_iff.2 hexit)]
  rfl

lemma passThrough_of_failure (h : host.start tool args = .ok started)
    (hexit : started.response.exit ≠ .code 0) :
    host.passThrough tool args =
      ⟨.error (.failed tool.label started.response.exit.code?),
        [.call started.name args, .output started.response.stdout,
          .complaint started.response.stderr]⟩ := by
  unfold passThrough
  rw [h]
  dsimp only
  rw [Exit.isSuccess_eq_false hexit]
  rfl

/-- A tool whose output is let through is started once, if it can be started. -/
lemma calls_passThrough (host : Host) (tool : ToolPath) (args : List String) :
    (host.passThrough tool args).calls =
      ((host.start tool args).toOption.map fun started => (started.name, args)).toList := by
  rcases start_cases host tool args with ⟨error, h⟩ | ⟨started, h, hexit⟩ | ⟨started, h, hexit⟩
  · rw [passThrough_of_error h, h]
    rfl
  · rw [passThrough_of_success h hexit, h]
    rfl
  · rw [passThrough_of_failure h hexit, h]
    rfl

/-- Letting a tool through is not logged. -/
lemma records_passThrough (host : Host) (tool : ToolPath) (args : List String) :
    (host.passThrough tool args).records = [] := by
  rcases start_cases host tool args with ⟨error, h⟩ | ⟨started, h, hexit⟩ | ⟨started, h, hexit⟩
  · rw [passThrough_of_error h]
    rfl
  · rw [passThrough_of_success h hexit]
    rfl
  · rw [passThrough_of_failure h hexit]
    rfl

/-- All that a tool writes is let through, however it ends. -/
lemma stdout_passThrough (h : host.start tool args = .ok started) :
    (host.passThrough tool args).stdout = started.response.stdout := by
  by_cases hexit : started.response.exit = .code 0
  · rw [passThrough_of_success h hexit]
    exact (List.append_nil _)
  · rw [passThrough_of_failure h hexit]
    exact (List.append_nil _)

lemma stderr_passThrough (h : host.start tool args = .ok started) :
    (host.passThrough tool args).stderr = started.response.stderr := by
  by_cases hexit : started.response.exit = .code 0
  · rw [passThrough_of_success h hexit]
    exact List.append_nil _
  · rw [passThrough_of_failure h hexit]
    exact List.append_nil _

lemma value_passThrough (host : Host) (tool : ToolPath) (args : List String) :
    (host.passThrough tool args).value = (host.respond tool args).map fun _ => () := by
  unfold respond
  rcases start_cases host tool args with ⟨error, h⟩ | ⟨started, h, hexit⟩ | ⟨started, h, hexit⟩
  · rw [passThrough_of_error h, h]
    rfl
  · rw [passThrough_of_success h hexit, h]
    simp [hexit, Except.map]
  · rw [passThrough_of_failure h hexit, h]
    simp [hexit, Except.map]

/-- Letting a tool through succeeds where it is started and reports success. -/
theorem value_passThrough_eq_ok :
    (host.passThrough tool args).value = .ok () ↔
      ∃ started, host.start tool args = .ok started ∧ started.response.exit = .code 0 := by
  have hmap : (host.passThrough tool args).value = .ok () ↔
      ∃ response, host.respond tool args = .ok response := by
    rw [value_passThrough]
    cases host.respond tool args <;> simp [Except.map]
  simp only [hmap, respond_eq_ok]
  exact ⟨fun ⟨_, started, h, hexit, _⟩ => ⟨started, h, hexit⟩,
    fun ⟨started, h, hexit⟩ => ⟨_, started, h, hexit, rfl⟩⟩

/-- Letting a tool through fails where the tool refuses, as reading from it does. -/
theorem value_passThrough_eq_error {failure : ToolError} :
    (host.passThrough tool args).value = .error failure ↔ host.Refuses tool args failure := by
  rw [← respond_eq_error, value_passThrough]
  cases host.respond tool args <;> simp [Except.map]

end Host

end Screencast
