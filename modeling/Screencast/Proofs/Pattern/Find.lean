import Mathlib.Tactic.Common
import Screencast.Pattern.Find

/-!
How far a pattern goes. A repetition of one character, as long as it likes, tries the whole run of
allowed characters first and then ever shorter ones; where a shorter run never helps what follows,
only the whole run counts.
-/

namespace Screencast.Pattern

/-- The progress behind some more characters, with the rest of the text. -/
def Progress.past (progress : Progress) (chars rest : List Char) : Progress where
  spot := ⟨progress.spot.index + chars.length, chars.getLast?.or progress.spot.before, rest⟩
  groups := progress.groups

/-- The progress behind some more characters that are remembered as a group. -/
def Progress.remember (progress : Progress) (number : Nat) (chars rest : List Char) : Progress where
  spot := (progress.past chars rest).spot
  groups := (number, ⟨progress.spot, (progress.past chars rest).spot.index⟩) :: progress.groups

namespace Progress

@[simp] lemma rest_remember (progress : Progress) (number : Nat) (chars rest : List Char) :
    (progress.remember number chars rest).spot.rest = rest := rfl

@[simp] lemma rest_past (progress : Progress) (chars rest : List Char) :
    (progress.past chars rest).spot.rest = rest := rfl

@[simp] lemma index_past (progress : Progress) (chars rest : List Char) :
    (progress.past chars rest).spot.index = progress.spot.index + chars.length := rfl

lemma past_nil (progress : Progress) : progress.past [] progress.spot.rest = progress := rfl

lemma past_past (progress : Progress) (c : Char) (chars rest rest' : List Char) :
    (progress.past [c] rest).past chars rest' = progress.past (c :: chars) rest' := by
  have hlast : (c :: chars).getLast? = chars.getLast?.or (some c) := by
    cases chars with
    | nil => rfl
    | cons d ds => simp [List.getLast?_eq_some_getLast]
  simp only [past, hlast, Progress.mk.injEq, Spot.mk.injEq, List.length_cons, List.length_nil,
    Option.or_assoc, and_true]
  exact ⟨by omega, rfl⟩

section Steps

variable {α : Type} {allowed : Char → Bool} {progress : Progress} {next : Progress → Option α}

lemma char_cons {c : Char} {rest : List Char} (hr : progress.spot.rest = c :: rest)
    (hc : allowed c = true) :
    progress.char allowed next = next (progress.past [c] rest) := by
  unfold char
  rw [hr]
  simp only [hc, if_true]
  rfl

lemma char_eq_none (h : ∀ c, progress.spot.rest.head? = some c → allowed c = false) :
    progress.char allowed next = none := by
  unfold char
  cases hr : progress.spot.rest with
  | nil => rfl
  | cons c rest =>
    have hc : allowed c = false := h c (by rw [hr]; rfl)
    simp [hc]

/-- Characters are gone over where the text goes on with them. -/
lemma string_append {chars rest : List Char} (hr : progress.spot.rest = chars ++ rest) :
    progress.string chars next = next (progress.past chars rest) := by
  induction chars generalizing progress with
  | nil =>
    have : rest = progress.spot.rest := hr.symm
    rw [this]
    rfl
  | cons c chars ih =>
    unfold string
    rw [char_cons hr (by simp), ih rfl, past_past]

lemma string_eq_none {chars : List Char} (h : ¬ chars <+: progress.spot.rest) :
    progress.string chars next = none := by
  induction chars generalizing progress with
  | nil => exact absurd List.nil_prefix h
  | cons c chars ih =>
    unfold string
    cases hr : progress.spot.rest with
    | nil =>
      refine char_eq_none fun d hd => ?_
      rw [hr] at hd
      cases hd
    | cons d rest =>
      by_cases hd : d = c
      · subst hd
        rw [char_cons hr (by simp)]
        refine ih fun hp => h ?_
        rw [hr]
        exact List.cons_prefix_cons.2 ⟨rfl, hp⟩
      · refine char_eq_none fun e he => ?_
        rw [hr] at he
        obtain rfl : d = e := by simpa using he
        simpa using hd

end Steps

end Progress

lemma fit_seq {α : Type} (first rest : Pattern) (number : Nat) (progress : Progress)
    (next : Progress → Option α) :
    (seq first rest).fit number progress next =
      first.fit number progress fun reached => rest.fit (number + first.groupCount) reached next := by
  conv_lhs => unfold fit

/-! ### Runs -/

section Runs

variable {α : Type} {allowed : Char → Bool} {progress : Progress} {next : Progress → Option α}
  {run rest : List Char}

/-- **A greedy run of one character.** The whole run counts, if a shorter one helps what follows
only where the whole run does. -/
theorem repeatUpTo_char {n : Nat} (hn : run.length ≤ n) (hr : progress.spot.rest = run ++ rest)
    (hrun : ∀ c ∈ run, allowed c = true) (hrest : ∀ c, rest.head? = some c → allowed c = false)
    (hnext : next (progress.past run rest) = none →
      ∀ before c after, run = before ++ c :: after →
        next (progress.past before (c :: after ++ rest)) = none) :
    repeatUpTo (fun progress next => progress.char allowed next) false n progress next =
      next (progress.past run rest) := by
  induction run generalizing progress n with
  | nil =>
    have hover : progress.past [] rest = progress := by
      have : rest = progress.spot.rest := hr.symm
      rw [this, Progress.past_nil]
    cases n with
    | zero => rw [hover]; rfl
    | succ n =>
      have hnone : ∀ next : Progress → Option α, progress.char allowed next = none :=
        fun _ => Progress.char_eq_none (by rw [hr]; exact hrest)
      simp [repeatUpTo, hnone, hover]
  | cons c run ih =>
    obtain ⟨n, rfl⟩ : ∃ m, n = m + 1 := ⟨n - 1, by simp at hn; omega⟩
    have hstep : repeatUpTo (fun progress next => progress.char allowed next) false n
        (progress.past [c] (run ++ rest)) next =
          next ((progress.past [c] (run ++ rest)).past run rest) := by
      refine ih (by simpa using hn) rfl (fun d hd => hrun d (List.mem_cons_of_mem _ hd)) ?_
      intro hnone before d after e
      rw [Progress.past_past] at hnone ⊢
      exact hnext hnone (c :: before) d after (by rw [e]; rfl)
    rw [Progress.past_past] at hstep
    have hgo : ∀ next : Progress → Option α, progress.char allowed next =
        next (progress.past [c] (run ++ rest)) :=
      fun next => Progress.char_cons hr (hrun c (List.mem_cons_self ..))
    simp only [repeatUpTo, hgo, Progress.index_past, List.length_singleton, Nat.succ_ne_self,
      if_false, Bool.false_eq_true, hstep]
    cases hend : next (progress.past (c :: run) rest) with
    | some a => rfl
    | none =>
      -- going back to the start of the run does not help either
      have := hnext hend [] c run rfl
      rw [List.cons_append, ← List.cons_append, ← hr, Progress.past_nil] at this
      simp [this]

/-- A run that may be empty. -/
theorem fit_times_zero {body : Pattern} {number : Nat}
    (hbody : body.fit number = fun progress (next : Progress → Option α) =>
      progress.char allowed next)
    (hr : progress.spot.rest = run ++ rest) (hrun : ∀ c ∈ run, allowed c = true)
    (hrest : ∀ c, rest.head? = some c → allowed c = false)
    (hnext : next (progress.past run rest) = none →
      ∀ before c after, run = before ++ c :: after →
        next (progress.past before (c :: after ++ rest)) = none) :
    (times 0 none false body).fit number progress next = next (progress.past run rest) := by
  unfold fit
  rw [hbody]
  exact repeatUpTo_char (by rw [hr]; simp) hr hrun hrest hnext

/-- A run of one character or more. -/
theorem fit_times_one {body : Pattern} {number : Nat}
    (hbody : body.fit number = fun progress (next : Progress → Option α) =>
      progress.char allowed next)
    (hr : progress.spot.rest = run ++ rest) (hrun : ∀ c ∈ run, allowed c = true)
    (hrest : ∀ c, rest.head? = some c → allowed c = false)
    (hnext : next (progress.past run rest) = none →
      ∀ before c after, run = before ++ c :: after →
        next (progress.past before (c :: after ++ rest)) = none) :
    (times 1 none false body).fit number progress next =
      if run = [] then none else next (progress.past run rest) := by
  unfold fit
  rw [hbody]
  simp only [repeatExactly]
  cases run with
  | nil =>
    rw [if_pos rfl]
    exact Progress.char_eq_none (by rw [hr]; exact hrest)
  | cons c run =>
    rw [if_neg (List.cons_ne_nil _ _), Progress.char_cons hr (hrun c (List.mem_cons_self ..))]
    have hmore : repeatUpTo (fun progress next => progress.char allowed next) false
        (run ++ rest).length (progress.past [c] (run ++ rest)) next =
          next ((progress.past [c] (run ++ rest)).past run rest) := by
      refine repeatUpTo_char (by simp) rfl (fun d hd => hrun d (List.mem_cons_of_mem _ hd)) hrest ?_
      intro hnone before d after e
      rw [Progress.past_past] at hnone ⊢
      exact hnext hnone (c :: before) d after (by rw [e]; rfl)
    rwa [Progress.past_past] at hmore

end Runs

/-! ### Groups -/

section Groups

variable {progress : Progress} {chars rest : List Char} {number : Nat}

/-- The text of a group is what was gone over since the group began. -/
lemma group?_remember (h : progress.spot.rest = chars ++ rest) :
    Match.group? ⟨(progress.remember number chars rest).groups⟩ number =
      some (String.ofList chars) := by
  simp [Match.group?, Progress.remember, Span.text, h]

lemma group?_remember_of_ne {other : Nat} (h : other ≠ number) :
    Match.group? ⟨(progress.remember number chars rest).groups⟩ other =
      Match.group? ⟨progress.groups⟩ other := by
  have hother : (other == number) = false := beq_false_of_ne h
  simp [Match.group?, Progress.remember, List.lookup_cons, hother]

end Groups

/-! ### Places -/

/-- Where a pattern does not fit from a place, it is tried from the next one. -/
lemma findFrom_cons (pattern : Pattern) (index : Nat) (before : Option Char) (c : Char)
    (rest : List Char) :
    pattern.findFrom index before (c :: rest) =
      (pattern.fit 1 ⟨⟨index, before, c :: rest⟩, []⟩ fun stop => some ⟨stop.groups⟩).or
        (pattern.findFrom (index + 1) (some c) rest) := by
  rw [findFrom, Option.orElse_eq_orElse, Option.orElse_eq_or]

/-- A pattern that begins at the start of a text fits nowhere else. -/
lemma findFrom_of_textStart (pattern : Pattern) (index : Nat) (c : Char) (text : List Char) :
    (seq (look .textStart) pattern).findFrom index (some c) text = none := by
  induction text generalizing index c with
  | nil => rfl
  | cons d text ih =>
    rw [findFrom_cons, ih, Option.or_none]
    rfl

lemma find_of_textStart (pattern : Pattern) (text : String) :
    (seq (look .textStart) pattern).find text =
      pattern.fit 1 ⟨⟨0, none, text.toList⟩, []⟩ fun progress => some ⟨progress.groups⟩ := by
  unfold find
  cases text.toList with
  | nil => rfl
  | cons c rest =>
    rw [findFrom_cons, findFrom_of_textStart, Option.or_none, fit_seq]
    rfl

end Screencast.Pattern
