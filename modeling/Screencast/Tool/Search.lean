import Screencast.Tool.Error
import Screencast.Tool.Host

/-!
Finding a tool: a path of several parts names its file by itself, a single name is looked for in
the directories of the search path, in which a tilde stands for the home directory. The first
executable file wins.
-/

namespace Screencast.Host

/-- Where a tool is looked for, in order. -/
def candidates (host : Host) (tool : ToolPath) : List ToolPath :=
  if 1 < tool.parts.length then [(ToolPath.ofNames host.workingPlace).join tool]
  else
    host.searchDirectories.map fun directory => (ToolPath.expandHome host.home directory).join tool

/-- The first place where a tool is found as an executable file. -/
def find (host : Host) (tool : ToolPath) : Except ToolError ToolPath :=
  match (host.candidates tool).find? host.isExecutable with
  | some path => .ok path
  | none => .error (.notFound tool.label)

/-- A tool is missing exactly where no candidate is an executable file. -/
theorem find_eq_error_iff {host : Host} {tool : ToolPath} {error : ToolError} :
    host.find tool = .error error ↔
      error = .notFound tool.label ∧
        ∀ path ∈ host.candidates tool, host.isExecutable path = false := by
  unfold find
  split
  · next path found =>
    simp only [reduceCtorEq, false_iff, not_and]
    intro _ absent
    have := absent path (List.mem_of_find?_eq_some found)
    simp [List.find?_some found] at this
  · next found =>
    simp only [Except.error.injEq, List.find?_eq_none, Bool.not_eq_true] at found ⊢
    exact ⟨fun h => ⟨h.symm, found⟩, fun h => h.1.symm⟩

end Screencast.Host
