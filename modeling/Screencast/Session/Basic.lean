import Screencast.Session.Record
import Screencast.Text.Utf8

/-!
A session: what a piece of work returns, and beside it what it did that others can see, in order.
Doing one thing after the other appends what they did, and returning a value does nothing.
-/

namespace Screencast

/-- What others can see of a session. -/
inductive Event where
  /-- Bytes written to the standard output. -/
  | output (bytes : List UInt8)
  /-- Bytes written to the standard error. -/
  | complaint (bytes : List UInt8)
  /-- A log record handed to the log. -/
  | log (record : LogRecord)
  /-- A program started with arguments, by the name of its file. -/
  | call (name : String) (args : List String)
deriving DecidableEq, Repr

namespace Event

/-- The bytes on the standard output. -/
def stdout : Event → List UInt8
  | output bytes => bytes
  | _ => []

/-- The bytes on the standard error. -/
def stderr : Event → List UInt8
  | complaint bytes => bytes
  | _ => []

/-- The record handed to the log. -/
def record? : Event → Option LogRecord
  | log record => some record
  | _ => none

/-- The program started, and its arguments. -/
def call? : Event → Option (String × List String)
  | call name args => some (name, args)
  | _ => none

end Event

/-- A value, and the events on the way to it. -/
structure Session (α : Type) where
  value : α
  events : List Event

namespace Session

variable {α β : Type}

instance : Monad Session where
  pure a := ⟨a, []⟩
  bind m f := ⟨(f m.value).value, m.events ++ (f m.value).events⟩

@[simp] theorem value_pure (a : α) : (pure a : Session α).value = a := rfl

@[simp] theorem events_pure (a : α) : (pure a : Session α).events = [] := rfl

@[simp] theorem value_bind (m : Session α) (f : α → Session β) :
    (m >>= f).value = (f m.value).value := rfl

@[simp] theorem events_bind (m : Session α) (f : α → Session β) :
    (m >>= f).events = m.events ++ (f m.value).events := rfl

@[ext] theorem ext {m n : Session α} (value : m.value = n.value) (events : m.events = n.events) :
    m = n := by
  cases m; cases n; cases value; cases events; rfl

instance : LawfulMonad Session :=
  LawfulMonad.mk' Session
    (fun _ => ext rfl (List.append_nil _))
    (fun _ _ => ext rfl (List.nil_append _))
    (fun _ _ _ => ext rfl (List.append_assoc ..))

@[simp] theorem value_map (f : α → β) (m : Session α) : (f <$> m).value = f m.value := rfl

@[simp] theorem events_map (f : α → β) (m : Session α) : (f <$> m).events = m.events :=
  List.append_nil _

/-- Working through a list yields the value of each item. -/
theorem value_mapM (f : α → Session β) (as : List α) :
    (as.mapM f).value = as.map fun a => (f a).value := by
  induction as with
  | nil => rfl
  | cons a as ih => rw [List.mapM_cons, value_bind, value_bind, value_pure, ih, List.map_cons]

/-- Working through a list does what each item asks for, in the order of the list. -/
theorem events_mapM (f : α → Session β) (as : List α) :
    (as.mapM f).events = as.flatMap fun a => (f a).events := by
  induction as with
  | nil => rfl
  | cons a as ih =>
    rw [List.mapM_cons, events_bind, events_bind, events_pure, List.append_nil, ih,
      List.flatMap_cons]

/-! ### Doing one thing -/

/-- Writes bytes to the standard output. -/
def write (bytes : List UInt8) : Session Unit := ⟨(), [.output bytes]⟩

/-- Writes a line to the standard output. -/
def writeLine (line : String) : Session Unit := write (Text.utf8 (line ++ "\n"))

/-- Writes lines to the standard output, one after the other. -/
def writeLines (lines : List String) : Session Unit :=
  ⟨(), lines.map fun line => .output (Text.utf8 (line ++ "\n"))⟩

/-- Writes bytes to the standard error. -/
def complain (bytes : List UInt8) : Session Unit := ⟨(), [.complaint bytes]⟩

/-- Writes a line to the standard error. -/
def complainLine (line : String) : Session Unit := complain (Text.utf8 (line ++ "\n"))

/-- Hands a record to the log. -/
def log (level : LogLevel) (source : LogSource) (message : String) : Session Unit :=
  ⟨(), [.log ⟨level, source, message⟩]⟩

/-- Starts a program with arguments. -/
def call (name : String) (args : List String) : Session Unit := ⟨(), [.call name args]⟩

/-! ### What was done -/

/-- All bytes on the standard output. -/
def stdout (m : Session α) : List UInt8 := m.events.flatMap Event.stdout

/-- All bytes on the standard error; log records are not among them. -/
def stderr (m : Session α) : List UInt8 := m.events.flatMap Event.stderr

/-- All log records. -/
def records (m : Session α) : List LogRecord := m.events.filterMap Event.record?

/-- All programs started, with their arguments. -/
def calls (m : Session α) : List (String × List String) := m.events.filterMap Event.call?

section Projections

variable (m : Session α) (f : α → Session β)

theorem stdout_bind : (m >>= f).stdout = m.stdout ++ (f m.value).stdout := List.flatMap_append

theorem stderr_bind : (m >>= f).stderr = m.stderr ++ (f m.value).stderr := List.flatMap_append

theorem records_bind : (m >>= f).records = m.records ++ (f m.value).records :=
  List.filterMap_append

theorem calls_bind : (m >>= f).calls = m.calls ++ (f m.value).calls := List.filterMap_append

end Projections

end Session

end Screencast
