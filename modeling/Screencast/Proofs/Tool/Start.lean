import Mathlib.Tactic.Common
import Screencast.Tool.Invoke

/-!
Which file is started for a tool. Arguments only matter for it as far as each of them can be handed
over: then the same file is started as without any, and otherwise none is.
-/

namespace Screencast.Host

/-- A program can get the text as an argument: no NUL stands in it, and it is not too long. -/
def isArgument (text : String) : Bool :=
  !text.toList.contains '\x00' && text.utf8ByteSize ≤ longestArgument

lemma utf8ByteSize_replicate (n : Nat) :
    (String.ofList (List.replicate n 'a')).utf8ByteSize = n := by
  induction n with
  | zero => rfl
  | succ n ih =>
    rw [List.replicate_succ', String.ofList_append, String.utf8ByteSize_append, ih]
    rfl

/-- Of texts of one letter, only those that are too long are no arguments. -/
lemma isArgument_replicate (n : Nat) :
    isArgument (String.ofList (List.replicate n 'a')) = decide (n ≤ longestArgument) := by
  have hclean : (List.replicate n 'a').contains '\x00' = false := by
    simp [List.mem_replicate]
  unfold isArgument
  rw [String.toList_ofList, hclean, utf8ByteSize_replicate]
  rfl

variable {host : Host} {path tool : ToolPath} {args : List String} {name : String}

/-! ### One file -/

lemma any_long_eq_false (h : ∀ arg ∈ args, arg.utf8ByteSize ≤ longestArgument) :
    (args.any fun arg => decide (longestArgument < arg.utf8ByteSize)) = false := by
  simpa [List.any_eq_false] using h

lemma any_long_eq_true {arg : String} (hmem : arg ∈ args)
    (hlong : longestArgument < arg.utf8ByteSize) :
    (args.any fun arg => decide (longestArgument < arg.utf8ByteSize)) = true :=
  List.any_eq_true.2 ⟨arg, hmem, decide_eq_true hlong⟩

lemma name_startAt (h : ∀ arg ∈ args, arg.utf8ByteSize ≤ longestArgument) :
    (host.startAt path args).map Started.name = (host.startAt path []).map Started.name := by
  unfold startAt
  rcases host.look path with error | ⟨place, node⟩
  · cases error <;> rfl
  cases node with
  | directory => rfl
  | file executable program =>
    cases executable with
    | false => rfl
    | true =>
      dsimp only
      rw [any_long_eq_false h]
      cases program <;> rfl

lemma startAt_ne_ok {arg : String} (hmem : arg ∈ args) (hlong : longestArgument < arg.utf8ByteSize)
    (started : Started) : host.startAt path args ≠ .ok started := by
  unfold startAt
  rcases host.look path with error | ⟨place, node⟩
  · cases error <;> exact nofun
  cases node with
  | directory => exact nofun
  | file executable program =>
    cases executable with
    | false => exact nofun
    | true =>
      dsimp only
      rw [any_long_eq_true hmem hlong]
      exact nofun

/-! ### The first of several files -/

/-- The search stops at the same file, since files fail in the same way. -/
lemma name_startFirst (h : ∀ arg ∈ args, arg.utf8ByteSize ≤ longestArgument)
    (failure : StartError) (paths : List ToolPath) :
    (host.startFirst args failure paths).map Started.name =
      (host.startFirst [] failure paths).map Started.name := by
  induction paths generalizing failure with
  | nil => rfl
  | cons path paths ih =>
    have hpath : (host.startAt path args).map Started.name =
        (host.startAt path []).map Started.name := name_startAt h
    unfold startFirst
    rcases hargs : host.startAt path args with error | started <;>
      rcases hnone : host.startAt path [] with error' | started' <;>
      rw [hargs, hnone] at hpath
    · obtain rfl : error = error' := by simpa [Except.map] using hpath
      dsimp only
      split
      · exact ih _
      · rfl
    · cases hpath
    · cases hpath
    · exact hpath

lemma startFirst_ne_ok {arg : String} (hmem : arg ∈ args)
    (hlong : longestArgument < arg.utf8ByteSize) (failure : StartError) (paths : List ToolPath)
    (started : Started) : host.startFirst args failure paths ≠ .ok started := by
  induction paths generalizing failure with
  | nil => exact nofun
  | cons path paths ih =>
    unfold startFirst
    rcases hargs : host.startAt path args with error | started'
    · dsimp only
      split
      · exact ih _
      · exact nofun
    · exact absurd hargs (startAt_ne_ok hmem hlong started')

/-! ### A tool -/

lemma start_ne_ok {arg : String} (hmem : arg ∈ args) (harg : isArgument arg = false)
    (started : Started) : host.start tool args ≠ .ok started := by
  unfold start
  split
  · exact nofun
  next hnul =>
  have hlong : longestArgument < arg.utf8ByteSize := by
    have hclean : arg.toList.contains '\x00' = false := by
      simp only [List.any_cons, Bool.or_eq_true, List.any_eq_true, not_or, not_exists, not_and,
        Bool.not_eq_true] at hnul
      exact hnul.2 arg hmem
    unfold isArgument at harg
    rw [hclean] at harg
    simpa using harg
  split
  · exact startAt_ne_ok hmem hlong started
  · exact startFirst_ne_ok hmem hlong _ _ started

lemma name_start (h : ∀ arg ∈ args, isArgument arg = true) :
    (host.start tool args).map Started.name = (host.start tool []).map Started.name := by
  have hshort : ∀ arg ∈ args, arg.utf8ByteSize ≤ longestArgument := by
    intro arg harg
    have := h arg harg
    simp only [isArgument, Bool.and_eq_true, decide_eq_true_eq] at this
    exact this.2
  have hclean : ((tool.text :: args).any fun text => text.toList.contains '\x00') =
      [tool.text].any fun text => text.toList.contains '\x00' := by
    have hargs : (args.any fun text => text.toList.contains '\x00') = false := by
      rw [List.any_eq_false]
      intro arg harg
      have := h arg harg
      simp only [isArgument, Bool.and_eq_true, Bool.not_eq_true'] at this
      simp only [this.1, Bool.false_eq_true, not_false_eq_true]
    rw [List.any_cons, hargs, List.any_cons, List.any_nil]
  unfold start
  rw [hclean]
  split
  · rfl
  split
  · exact name_startAt hshort
  · exact name_startFirst hshort _ _

/-- **The file that is started for a tool** does not depend on the arguments, and each of them must
be one that a program can get. -/
theorem exists_start_iff :
    (∃ response, host.start tool args = .ok ⟨name, response⟩) ↔
      (∀ arg ∈ args, isArgument arg = true) ∧
        ∃ response, host.start tool [] = .ok ⟨name, response⟩ := by
  have hname : ∀ result : Except StartError Started,
      (∃ response, result = .ok ⟨name, response⟩) ↔ result.map Started.name = .ok name := by
    intro result
    rcases result with error | ⟨name', response⟩
    · simp [Except.map]
    · simp [Except.map]
  by_cases h : ∀ arg ∈ args, isArgument arg = true
  · rw [hname, hname, name_start h]
    exact (and_iff_right h).symm
  · refine iff_of_false ?_ fun hall => h hall.1
    push Not at h
    obtain ⟨arg, hmem, harg⟩ := h
    rintro ⟨response, hstart⟩
    exact start_ne_ok hmem (by simpa using harg) _ hstart

end Screencast.Host
