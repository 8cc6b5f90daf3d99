import Mathlib.Tactic.Common
import Screencast.Session.Basic

/-!
What a session leaves alone. A session that writes nothing is quiet, one that starts nothing has no
calls, one may log only some kind of records, and each is known of a session as soon as it is known
of its parts.
-/

namespace Screencast.Session

variable {α β : Type}

/-- Nothing is written, neither to the standard output nor to the standard error. -/
structure Quiet (m : Session α) : Prop where
  stdout : m.stdout = []
  stderr : m.stderr = []

/-! ### Writing nothing -/

namespace Quiet

protected lemma pure (a : α) : (pure a : Session α).Quiet := ⟨rfl, rfl⟩

protected lemma log (level : LogLevel) (source : LogSource) (message : String) :
    (log level source message).Quiet := ⟨rfl, rfl⟩

protected lemma call (name : String) (args : List String) : (call name args).Quiet := ⟨rfl, rfl⟩

lemma bind {m : Session α} {f : α → Session β} (hm : m.Quiet) (hf : (f m.value).Quiet) :
    (m >>= f).Quiet where
  stdout := by rw [stdout_bind, hm.stdout, hf.stdout, List.append_nil]
  stderr := by rw [stderr_bind, hm.stderr, hf.stderr, List.append_nil]

/-- Working through a list is quiet if each step is. -/
lemma mapM {f : α → Session β} {as : List α} (hf : ∀ a ∈ as, (f a).Quiet) :
    (as.mapM f).Quiet := by
  induction as with
  | nil => exact Quiet.pure []
  | cons a as ih =>
    rw [List.mapM_cons]
    exact (hf a (List.mem_cons_self ..)).bind
      ((ih fun b hb => hf b (List.mem_cons_of_mem _ hb)).bind (Quiet.pure _))

/-- What follows a quiet session is all that is written to the standard output. -/
lemma stdout_bind_eq {m : Session α} (hm : m.Quiet) (f : α → Session β) :
    (m >>= f).stdout = (f m.value).stdout := by
  rw [stdout_bind, hm.stdout, List.nil_append]

/-- What follows a quiet session is all that is written to the standard error. -/
lemma stderr_bind_eq {m : Session α} (hm : m.Quiet) (f : α → Session β) :
    (m >>= f).stderr = (f m.value).stderr := by
  rw [stderr_bind, hm.stderr, List.nil_append]

end Quiet

/-! ### Starting nothing -/

@[simp] lemma calls_pure (a : α) : (pure a : Session α).calls = [] := rfl

@[simp] lemma calls_log (level : LogLevel) (source : LogSource) (message : String) :
    (log level source message).calls = [] := rfl

@[simp] lemma calls_writeLine (line : String) : (writeLine line).calls = [] := rfl

@[simp] lemma calls_complainLine (line : String) : (complainLine line).calls = [] := rfl

@[simp] lemma calls_writeLines (lines : List String) : (writeLines lines).calls = [] := by
  unfold calls writeLines
  rw [List.filterMap_map]
  exact List.filterMap_eq_nil_iff.2 fun _ _ => rfl

/-- Working through a list starts what each item asks for, in the order of the list. -/
theorem calls_mapM (f : α → Session β) (as : List α) :
    (as.mapM f).calls = as.flatMap fun a => (f a).calls := by
  unfold calls
  rw [events_mapM, List.filterMap_flatMap]

@[simp] lemma stderr_writeLines (lines : List String) : (writeLines lines).stderr = [] := by
  unfold stderr writeLines
  rw [List.flatMap_map]
  exact List.flatMap_eq_nil_iff.2 fun _ _ => rfl

/-! ### Logging one kind of records -/

@[simp] lemma records_pure (a : α) : (pure a : Session α).records = [] := rfl

@[simp] lemma records_log (level : LogLevel) (source : LogSource) (message : String) :
    (log level source message).records = [⟨level, source, message⟩] := rfl

@[simp] lemma records_call (name : String) (args : List String) : (call name args).records = [] :=
  rfl

@[simp] lemma records_writeLine (line : String) : (writeLine line).records = [] := rfl

@[simp] lemma records_complainLine (line : String) : (complainLine line).records = [] := rfl

@[simp] lemma records_writeLines (lines : List String) : (writeLines lines).records = [] := by
  unfold records writeLines
  rw [List.filterMap_map]
  exact List.filterMap_eq_nil_iff.2 fun _ _ => rfl

/-- Working through a list logs what each item asks for, in the order of the list. -/
theorem records_mapM (f : α → Session β) (as : List α) :
    (as.mapM f).records = as.flatMap fun a => (f a).records := by
  unfold records
  rw [events_mapM, List.filterMap_flatMap]

/-- All log records are of one kind. -/
structure Logs (kind : LogRecord → Prop) (m : Session α) : Prop where
  of_mem : ∀ record ∈ m.records, kind record

namespace Logs

variable {kind : LogRecord → Prop}

protected lemma pure (a : α) : (pure a : Session α).Logs kind := ⟨List.forall_mem_nil kind⟩

protected lemma log {level : LogLevel} {source : LogSource} {message : String}
    (h : kind ⟨level, source, message⟩) : (log level source message).Logs kind :=
  ⟨List.forall_mem_singleton.2 h⟩

protected lemma call (name : String) (args : List String) : (call name args).Logs kind :=
  ⟨List.forall_mem_nil kind⟩

lemma bind {m : Session α} {f : α → Session β} (hm : m.Logs kind) (hf : (f m.value).Logs kind) :
    (m >>= f).Logs kind where
  of_mem record hrecord := by
    rw [records_bind] at hrecord
    rcases List.mem_append.1 hrecord with hrecord | hrecord
    · exact hm.of_mem record hrecord
    · exact hf.of_mem record hrecord

/-- Working through a list logs one kind of records if each step does. -/
lemma mapM {f : α → Session β} {as : List α} (hf : ∀ a ∈ as, (f a).Logs kind) :
    (as.mapM f).Logs kind where
  of_mem record hrecord := by
    rw [records_mapM] at hrecord
    obtain ⟨a, ha, hrecord⟩ := List.mem_flatMap.1 hrecord
    exact (hf a ha).of_mem record hrecord

/-- There are no records of another kind. -/
lemma filter_eq_nil {m : Session α} {other : LogRecord → Bool}
    (hm : m.Logs fun record => other record = false) : m.records.filter other = [] :=
  List.filter_eq_nil_iff.2 fun record hrecord => by simp [hm.of_mem record hrecord]

end Logs

/-- The warnings among the log records. -/
def warnings (m : Session α) : List LogRecord := m.records.filter (·.level = .warn)

end Screencast.Session
