import Screencast.Device.Bridge
import Screencast.Proofs.Cast.Launch
import Screencast.Proofs.Tool.Agreement

/-!
Which file is found for a tool, and what becomes of it. The first program among the candidates is
found. In the search path this is the program of the earliest directory that has one, whatever else
stands in the path, and a program that is found by its place from the root can be started.
-/

namespace Screencast.Host

variable {host : Host} {tool path : ToolPath} {args : List String}

/-! ### Programs -/

/-- The path names a program: a regular file that may be executed. No file has a NUL in its path. -/
def NamesProgram (host : Host) (path : ToolPath) : Prop :=
  '\x00' ∉ path.text.toList ∧ ∃ place program, host.look path = .ok (place, .file true program)

lemma isExecutable_iff : host.isExecutable path = true ↔ host.NamesProgram path := by
  unfold isExecutable NamesProgram
  rw [Bool.and_eq_true, Bool.not_eq_true', List.contains_eq_mem, decide_eq_false_iff_not]
  refine and_congr_right fun _ => ?_
  rcases host.look path with error | ⟨place, node⟩
  · simp
  · cases node <;> simp

lemma isExecutable_eq_false : host.isExecutable path = false ↔ ¬ host.NamesProgram path := by
  rw [← isExecutable_iff, Bool.not_eq_true]

lemma find_eq_ok_iff :
    host.find tool = .ok path ↔ (host.candidates tool).find? host.isExecutable = some path := by
  unfold find
  split
  · next found => rw [found, Except.ok.injEq, Option.some.injEq]
  · next found => simp [found]

/-- What is found is one of the candidates, and a program. -/
lemma namesProgram_of_find (h : host.find tool = .ok path) :
    host.NamesProgram path ∧ path ∈ host.candidates tool := by
  rw [find_eq_ok_iff] at h
  exact ⟨isExecutable_iff.1 (List.find?_some h), List.mem_of_find?_eq_some h⟩

/-! ### Other search paths -/

section SearchPath

variable (host : Host) (text : String)

/-- The search path has no influence on where a path leads. -/
lemma walk_searchPath (place pieces : List String) :
    ({ host with searchPath := text } : Host).walk place pieces = host.walk place pieces := by
  have hat : ∀ place, ({ host with searchPath := text } : Host).at? place = host.at? place := by
    intro place
    cases place <;> rfl
  induction pieces generalizing place with
  | nil =>
    unfold walk
    rw [hat]
  | cons piece pieces ih =>
    unfold walk
    rw [hat]
    simp only [ih]

lemma look_searchPath (path : ToolPath) :
    ({ host with searchPath := text } : Host).look path = host.look path := by
  unfold look
  simp only [walk_searchPath]

lemma isExecutable_searchPath :
    ({ host with searchPath := text } : Host).isExecutable = host.isExecutable := by
  funext path
  unfold isExecutable
  rw [look_searchPath]

/-- A path of several parts names its file by itself. -/
lemma find_searchPath_of_parts (h : 1 < tool.parts.length) :
    ({ host with searchPath := text } : Host).find tool = host.find tool := by
  unfold find candidates
  rw [isExecutable_searchPath, if_pos h, if_pos h]

end SearchPath

/-! ### Directories of the search path -/

/-- Where a single name is looked for in a directory of the search path. -/
def inDirectory (host : Host) (tool directory : ToolPath) : ToolPath :=
  (ToolPath.expandHome host.home directory).join tool

lemma candidates_of_parts (h : tool.parts.length ≤ 1) :
    host.candidates tool = host.searchDirectories.map (host.inDirectory tool) :=
  if_neg (Nat.not_lt.2 h)

/-- A directory of the search path is the earliest one with a program for the tool. -/
structure Earliest (host : Host) (tool : ToolPath) (before : List ToolPath) (directory : ToolPath)
    (after : List ToolPath) : Prop where
  directories : host.searchDirectories = before ++ directory :: after
  useless : ∀ other ∈ before, ¬ host.NamesProgram (host.inDirectory tool other)
  program : host.NamesProgram (host.inDirectory tool directory)

variable {before after : List ToolPath} {directory : ToolPath}

lemma find_eq_ok_iff_of_parts (h : tool.parts.length ≤ 1) :
    host.find tool = .ok path ↔ ∃ before directory after,
      Earliest host tool before directory after ∧ host.inDirectory tool directory = path := by
  rw [find_eq_ok_iff, candidates_of_parts h, List.find?_map, Option.map_eq_some_iff]
  constructor
  · rintro ⟨directory, hfind, hpath⟩
    obtain ⟨hprogram, before, after, hsplit, huseless⟩ := List.find?_eq_some_iff_append.1 hfind
    refine ⟨before, directory, after, ⟨hsplit, ?_, isExecutable_iff.1 hprogram⟩, hpath⟩
    intro other hother
    have hfalse := huseless other hother
    rw [Bool.not_eq_true'] at hfalse
    exact isExecutable_eq_false.1 hfalse
  · rintro ⟨before, directory, after, hearliest, hpath⟩
    refine ⟨directory, List.find?_eq_some_iff_append.2 ?_, hpath⟩
    refine ⟨isExecutable_iff.2 hearliest.program, before, after, hearliest.directories, ?_⟩
    intro other hother
    have hfalse := isExecutable_eq_false.2 (hearliest.useless other hother)
    rw [Function.comp_apply, hfalse]
    rfl

/-- The program stays the earliest one, whatever else stands before it that is no use and whatever
stands behind it. -/
lemma Earliest.find_searchPath (h : Earliest host tool before directory after)
    (hparts : tool.parts.length ≤ 1) {text : String} {before' after' : List ToolPath}
    (hsplit : ({ host with searchPath := text } : Host).searchDirectories =
      before' ++ directory :: after')
    (huseless : ∀ other ∈ before',
      other ∈ before ∨ ¬ host.NamesProgram (host.inDirectory tool other)) :
    ({ host with searchPath := text } : Host).find tool = host.find tool := by
  have hprogram : ∀ path, ({ host with searchPath := text } : Host).NamesProgram path ↔
      host.NamesProgram path := by
    intro path
    rw [← isExecutable_iff, ← isExecutable_iff, isExecutable_searchPath]
  have hother : Earliest { host with searchPath := text } tool before' directory after' := by
    refine ⟨hsplit, fun other hmem => ?_, (hprogram _).2 h.program⟩
    rw [hprogram]
    exact (huseless other hmem).elim (h.useless other) id
  rw [(find_eq_ok_iff_of_parts hparts).2 ⟨_, _, _, h, rfl⟩]
  exact (find_eq_ok_iff_of_parts hparts).2 ⟨_, _, _, hother, rfl⟩

/-! ### Starting a program -/

/-- What the start of a program comes to. It fails where an argument is too long, and otherwise only
by what stands in the file. What is missing, what is not permitted and what is no directory never
belongs to the path of the file, but to that of its interpreter. -/
inductive StartsProgram (host : Host) (path : ToolPath) (args : List String) :
    Except StartError Started → Prop
  | started {place : List String} {respond : List String → Response}
    (fits : ∀ arg ∈ args, arg.utf8ByteSize ≤ longestArgument)
    (file : host.look path = .ok (place, .file true (.answering respond))) :
    StartsProgram host path args (.ok ⟨place.getLast?.getD "", respond args⟩)
  | malformed {place : List String} (fits : ∀ arg ∈ args, arg.utf8ByteSize ≤ longestArgument)
    (file : host.look path = .ok (place, .file true .malformed)) :
    StartsProgram host path args (.error .malformed)
  /-- The interpreter of the file is missing, not the file. -/
  | uninterpreted {place : List String} (fits : ∀ arg ∈ args, arg.utf8ByteSize ≤ longestArgument)
    (file : host.look path = .ok (place, .file true .uninterpreted)) :
    StartsProgram host path args (.error .missing)
  | barred {place : List String} {error : InterpreterError}
    (fits : ∀ arg ∈ args, arg.utf8ByteSize ≤ longestArgument)
    (file : host.look path = .ok (place, .file true (.barred error))) :
    StartsProgram host path args (.error error.toStartError)
  | argumentTooLong {arg : String} (mem : arg ∈ args)
    (long : longestArgument < arg.utf8ByteSize) :
    StartsProgram host path args (.error .argumentTooLong)

/-- What a program at a place comes to, with arguments that are not too long. -/
def outcome (place args : List String) : Program → Except StartError Started
  | .answering respond => .ok ⟨place.getLast?.getD "", respond args⟩
  | .malformed => .error .malformed
  | .uninterpreted => .error .missing
  | .barred error => .error error.toStartError

lemma startAt_of_fits {place : List String} {program : Program}
    (fits : ∀ arg ∈ args, arg.utf8ByteSize ≤ longestArgument)
    (file : host.look path = .ok (place, .file true program)) :
    host.startAt path args = outcome place args program := by
  unfold startAt
  rw [file]
  dsimp only
  rw [any_long_eq_false fits]
  cases program <;> rfl

lemma startAt_of_long (h : host.NamesProgram path) {arg : String} (mem : arg ∈ args)
    (long : longestArgument < arg.utf8ByteSize) :
    host.startAt path args = .error .argumentTooLong := by
  obtain ⟨-, place, program, file⟩ := h
  unfold startAt
  rw [file]
  dsimp only
  rw [any_long_eq_true mem long]
  rfl

/-- A program starts in one way only. -/
lemma startsProgram_iff (h : host.NamesProgram path) {result : Except StartError Started} :
    StartsProgram host path args result ↔ host.startAt path args = result := by
  constructor
  · rintro (⟨fits, file⟩ | ⟨fits, file⟩ | ⟨fits, file⟩ | ⟨fits, file⟩ | ⟨mem, long⟩)
    · exact startAt_of_fits fits file
    · exact startAt_of_fits fits file
    · exact startAt_of_fits fits file
    · exact startAt_of_fits fits file
    · exact startAt_of_long h mem long
  · rintro rfl
    by_cases fits : ∀ arg ∈ args, arg.utf8ByteSize ≤ longestArgument
    · obtain ⟨-, place, program, file⟩ := h
      rw [startAt_of_fits fits file]
      cases program with
      | answering respond => exact .started fits file
      | malformed => exact .malformed fits file
      | uninterpreted => exact .uninterpreted fits file
      | barred error => exact .barred fits file
    · simp only [not_forall, Nat.not_le] at fits
      obtain ⟨arg, mem, long⟩ := fits
      rw [startAt_of_long h mem long]
      exact .argumentTooLong mem long

/-- A path from the root is not looked for anywhere else. -/
lemma start_of_isAbsolute (h : path.isAbsolute = true) (hpath : '\x00' ∉ path.text.toList)
    (hargs : ∀ arg ∈ args, '\x00' ∉ arg.toList) : host.start path args = host.startAt path args := by
  have hclean : ((path.text :: args).any fun text => text.toList.contains '\x00') = false := by
    simpa [List.any_eq_false] using ⟨hpath, hargs⟩
  have hslash : path.text = "" ∨ path.text.toList.contains '/' = true := by
    refine .inr (List.contains_iff_mem.2 (List.mem_of_mem_head? ?_))
    exact beq_iff_eq.1 h
  unfold start
  rw [hclean, if_neg Bool.false_ne_true, if_pos hslash]

/-! ### The two tools -/

/-- The bridge is the file that is found for it. -/
lemma value_findBridge (host : Host) (tool : ToolPath) :
    (Bridge.find host tool).value = (host.find tool).map Bridge.mk := by
  unfold Bridge.find
  rcases host.find tool with error | path <;> rfl

/-- What a launch returns goes by the start of the file that is found for the casting tool. -/
lemma reports_launch (h : host.find tool = .ok path) (options : CastOptions) :
    host.Reports path options.toArgs (options.launch host tool).value := by
  rw [CastOptions.value_launch_of_ok h, value_passThrough]
  exact reports_map _

/-- **The file that is run for a tool.** What is found is a program among the candidates, and where
none of these is a program, the error names the file of the tool. For a single name this is the
program of the earliest directory of the search path that has one: whatever is put before that
directory and has no program for the tool, and whatever is put behind it, changes nothing. For a
path of several parts the search path does not count. What is found is the bridge, and it is what a
launch starts. If its path begins at the root and no argument has a NUL in it, it is started, unless
an argument is too long, the file is malformed, or its interpreter is missing or cannot be executed
for the reason that is given. -/
theorem found_program_is_run (host : Host) (tool : ToolPath) :
    (∀ path, host.find tool = .ok path → host.NamesProgram path ∧ path ∈ host.candidates tool) ∧
    (∀ error, host.find tool = .error error ↔
      error = .notFound (tool.fileName?.getD tool.text) ∧
        ∀ path ∈ host.candidates tool, ¬ host.NamesProgram path) ∧
    (tool.parts.length ≤ 1 →
      (∀ path, host.find tool = .ok path ↔ ∃ before directory after,
        Earliest host tool before directory after ∧ host.inDirectory tool directory = path) ∧
      ∀ before directory after, Earliest host tool before directory after →
        ∀ text before' after', ({ host with searchPath := text } : Host).searchDirectories =
            before' ++ directory :: after' →
          (∀ other ∈ before',
            other ∈ before ∨ ¬ host.NamesProgram (host.inDirectory tool other)) →
          ({ host with searchPath := text } : Host).find tool = host.find tool) ∧
    (1 < tool.parts.length → ∀ text,
      ({ host with searchPath := text } : Host).find tool = host.find tool) ∧
    (Bridge.find host tool).value = (host.find tool).map Bridge.mk ∧
    ∀ path, host.find tool = .ok path →
      (∀ options : CastOptions,
        host.Reports path options.toArgs (options.launch host tool).value) ∧
      (path.isAbsolute = true → ∀ args : List String, (∀ arg ∈ args, '\x00' ∉ arg.toList) →
        ∀ result, host.start path args = result ↔ StartsProgram host path args result) := by
  refine ⟨fun path => namesProgram_of_find, ?_, ?_, ?_, value_findBridge host tool, ?_⟩
  · intro error
    rw [find_eq_error_iff]
    simp only [isExecutable_eq_false]
    rfl
  · intro hparts
    refine ⟨fun path => find_eq_ok_iff_of_parts hparts, ?_⟩
    intro before directory after hearliest text before' after' hsplit huseless
    exact hearliest.find_searchPath hparts hsplit huseless
  · intro hparts text
    exact find_searchPath_of_parts host text hparts
  · intro path hfind
    refine ⟨reports_launch hfind, ?_⟩
    intro habsolute args hargs result
    have hprogram : host.NamesProgram path := (namesProgram_of_find hfind).1
    rw [start_of_isAbsolute habsolute hprogram.1 hargs]
    exact (startsProgram_iff hprogram).symm

/-! ### A directory in front of a program -/

/-- A host with a directory and with a program for the casting tool, in this order. -/
def shadowedHost (program : Program) : Host where
  workingPlace := []
  home := ⟨"/"⟩
  searchPath := "/a:/b"
  node? place :=
    if place = ["a"] ∨ place = ["b"] ∨ place = ["a", "scrcpy"] then some .directory
    else if place = ["b", "scrcpy"] then some (.file true program)
    else none

/-- A program that succeeds and writes nothing. -/
def silentProgram : Program := .answering fun _ => ⟨[], [], .code 0⟩

section Shadowed

variable (program : Program)

lemma look_shadowedHost :
    (shadowedHost program).look ⟨"/b/scrcpy"⟩ = .ok (["b", "scrcpy"], .file true program) := rfl

lemma namesProgram_shadowedHost : (shadowedHost program).NamesProgram ⟨"/b/scrcpy"⟩ :=
  ⟨by decide, _, _, look_shadowedHost program⟩

/-- A directory is no program. -/
lemma not_namesProgram_shadowedHost : ¬ (shadowedHost program).NamesProgram ⟨"/a/scrcpy"⟩ := by
  rintro ⟨-, place, program', hlook⟩
  have hdirectory : (shadowedHost program).look ⟨"/a/scrcpy"⟩ = .ok (["a", "scrcpy"], .directory) :=
    rfl
  rw [hdirectory] at hlook
  cases hlook

lemma inDirectory_shadowedHost :
    (shadowedHost program).inDirectory CastOptions.defaultTool ⟨"/a"⟩ = ⟨"/a/scrcpy"⟩ ∧
      (shadowedHost program).inDirectory CastOptions.defaultTool ⟨"/b"⟩ = ⟨"/b/scrcpy"⟩ := by
  have ha : (ToolPath.expandHome ⟨"/"⟩ ⟨"/a"⟩).join CastOptions.defaultTool = ⟨"/a/scrcpy"⟩ := rfl
  have hb : (ToolPath.expandHome ⟨"/"⟩ ⟨"/b"⟩).join CastOptions.defaultTool = ⟨"/b/scrcpy"⟩ := rfl
  exact ⟨ha, hb⟩

lemma earliest_shadowedHost :
    Earliest (shadowedHost program) CastOptions.defaultTool [⟨"/a"⟩] ⟨"/b"⟩ [] where
  directories := by
    have hcut : (Text.cutString ':' "/a:/b").map ToolPath.mk = [⟨"/a"⟩, ⟨"/b"⟩] := rfl
    exact hcut
  useless other hother := by
    obtain rfl := List.mem_singleton.1 hother
    rw [(inDirectory_shadowedHost program).1]
    exact not_namesProgram_shadowedHost program
  program := by
    rw [(inDirectory_shadowedHost program).2]
    exact namesProgram_shadowedHost program

lemma start_shadowedHost {args : List String} (hargs : ∀ arg ∈ args, '\x00' ∉ arg.toList) :
    (shadowedHost program).start ⟨"/b/scrcpy"⟩ args =
      (shadowedHost program).startAt ⟨"/b/scrcpy"⟩ args :=
  start_of_isAbsolute rfl (namesProgram_shadowedHost program).1 hargs

lemma find_shadowedHost :
    (shadowedHost program).find CastOptions.defaultTool = .ok ⟨"/b/scrcpy"⟩ :=
  (find_eq_ok_iff_of_parts (by decide)).2
    ⟨_, _, _, earliest_shadowedHost program, (inDirectory_shadowedHost program).2⟩

end Shadowed

/-- A missing file before the program and a directory behind it change nothing, and a path of
several parts does not need any directory. The program is started, and where it is a script whose
interpreter may not be executed, this is why it is not. -/
theorem found_program_is_run_shadowed :
    ({ shadowedHost silentProgram with searchPath := "/a:/c:/b:/a" } : Host).find
      CastOptions.defaultTool = .ok ⟨"/b/scrcpy"⟩ ∧
    ({ shadowedHost silentProgram with searchPath := "" } : Host).find ⟨"b/scrcpy"⟩ =
      (shadowedHost silentProgram).find ⟨"b/scrcpy"⟩ ∧
    (shadowedHost silentProgram).start ⟨"/b/scrcpy"⟩ ["-f"] = .ok ⟨"scrcpy", [], [], .code 0⟩ ∧
    (shadowedHost (.barred .notPermitted)).start ⟨"/b/scrcpy"⟩ ["-f"] = .error .notPermitted := by
  obtain ⟨-, -, hname, -, -, hstart⟩ :=
    found_program_is_run (shadowedHost silentProgram) CastOptions.defaultTool
  obtain ⟨-, -, -, hparts, -⟩ := found_program_is_run (shadowedHost silentProgram) ⟨"b/scrcpy"⟩
  obtain ⟨-, -, -, -, -, hbarred⟩ :=
    found_program_is_run (shadowedHost (.barred .notPermitted)) CastOptions.defaultTool
  have hfits : ∀ arg ∈ ["-f"], arg.utf8ByteSize ≤ longestArgument := by decide
  refine ⟨?_, hparts (by decide) "", ?_, ?_⟩
  · rw [← find_shadowedHost silentProgram]
    refine (hname (by decide)).2 _ _ _ (earliest_shadowedHost silentProgram) "/a:/c:/b:/a"
      [⟨"/a"⟩, ⟨"/c"⟩] [⟨"/a"⟩] rfl ?_
    intro other hother
    obtain rfl | rfl : other = ⟨"/a"⟩ ∨ other = ⟨"/c"⟩ := by simpa using hother
    · exact .inl (List.mem_singleton.2 rfl)
    · refine .inr ?_
      rintro ⟨-, place, program, hlook⟩
      have hmissing : (shadowedHost silentProgram).look ⟨"/c/scrcpy"⟩ = .error .missing := rfl
      cases hmissing.symm.trans hlook
  · have hstarts := StartsProgram.started hfits (look_shadowedHost silentProgram)
    exact ((hstart _ (find_shadowedHost _)).2 rfl ["-f"] (by decide) _).2 hstarts
  · have hstarts := StartsProgram.barred hfits (look_shadowedHost (.barred .notPermitted))
    exact ((hbarred _ (find_shadowedHost _)).2 rfl ["-f"] (by decide) _).2 hstarts

/-- Options with an extra argument of so many characters. -/
def longOptions (n : Nat) : CastOptions :=
  { serial := "x", extra := [String.ofList (List.replicate n 'a')] }

lemma toArgs_longOptions (n : Nat) :
    (longOptions n).toArgs = ["-s", "x", String.ofList (List.replicate n 'a')] := rfl

lemma nul_notMem_longOptions (n : Nat) : ∀ arg ∈ (longOptions n).toArgs, '\x00' ∉ arg.toList := by
  rw [toArgs_longOptions]
  simp [List.mem_replicate]

lemma start_longOptions {n : Nat} (h : longestArgument < n) (program : Program) :
    (shadowedHost program).start ⟨"/b/scrcpy"⟩ (longOptions n).toArgs =
      .error .argumentTooLong := by
  rw [start_shadowedHost program (nul_notMem_longOptions n), toArgs_longOptions]
  refine startAt_of_long (namesProgram_shadowedHost program)
    (List.mem_cons_of_mem _ (List.mem_cons_of_mem _ List.mem_cons_self)) ?_
  rw [utf8ByteSize_replicate]
  exact h

/-- A script of this host is not started with short arguments if its interpreter is barred. -/
lemma start_barred (error : InterpreterError) :
    (shadowedHost (.barred error)).start ⟨"/b/scrcpy"⟩ (longOptions 0).toArgs =
      .error error.toStartError := by
  have hfits : ∀ arg ∈ (longOptions 0).toArgs, arg.utf8ByteSize ≤ longestArgument := by
    rw [toArgs_longOptions]
    decide
  rw [start_shadowedHost (.barred error) (nul_notMem_longOptions 0)]
  exact startAt_of_fits hfits (look_shadowedHost (.barred error))

/-- A program that is found is not always started, and neither its form nor a missing interpreter
need be the reason: an argument can be too long for any program, and an interpreter can be there
that may not be executed, or be looked for below a file. -/
theorem not_started_of_other_reasons :
    (∀ program, (shadowedHost program).find CastOptions.defaultTool = .ok ⟨"/b/scrcpy"⟩) ∧
    ToolPath.isAbsolute ⟨"/b/scrcpy"⟩ = true ∧
    (∀ n, ∀ arg ∈ (longOptions n).toArgs, '\x00' ∉ arg.toList) ∧
    (shadowedHost silentProgram).start ⟨"/b/scrcpy"⟩ (longOptions 131072).toArgs =
      .error .argumentTooLong ∧
    (shadowedHost (.barred .notPermitted)).start ⟨"/b/scrcpy"⟩ (longOptions 0).toArgs =
      .error .notPermitted ∧
    (shadowedHost (.barred .notADirectory)).start ⟨"/b/scrcpy"⟩ (longOptions 0).toArgs =
      .error .notADirectory ∧
    ¬ ∀ (host : Host) (path : ToolPath) (args : List String),
      host.find CastOptions.defaultTool = .ok path → path.isAbsolute = true →
      (∀ arg ∈ args, '\x00' ∉ arg.toList) →
        (∃ started, host.start path args = .ok started) ∨
          host.start path args = .error .malformed ∨ host.start path args = .error .missing := by
  have hlong := start_longOptions (n := 131072) (by decide) silentProgram
  refine ⟨find_shadowedHost, rfl, nul_notMem_longOptions, hlong, start_barred _, start_barred _, ?_⟩
  intro hclaim
  rcases hclaim _ _ _ (find_shadowedHost silentProgram) rfl (nul_notMem_longOptions 131072) with
    ⟨started, hstarted⟩ | hmalformed | hmissing
  · cases hlong.symm.trans hstarted
  · cases hlong.symm.trans hmalformed
  · cases hlong.symm.trans hmissing

end Screencast.Host
