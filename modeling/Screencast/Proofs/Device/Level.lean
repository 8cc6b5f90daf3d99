import Screencast.Device.Level
import Screencast.Proofs.Text.Numeral
import Screencast.Proofs.Text.Words

/-!
Which answers to a property query are levels. What stands between the blanks of an answer must
spell a number of 32 bits; it is then read as that very number, and any other answer is an error
that holds what was there.
-/

namespace Screencast.ApiLevel

open Text

variable {answer : String} {core : List Char} {level : ApiLevel}

/-! ### One answer -/

lemma read_of_trims (h : Trims answer.toList core) :
    read answer =
      match readNatural (UInt32.size - 1) core with
      | .ok level => .ok (UInt32.ofNat level)
      | .error _ => .error (.invalid (String.ofList core)) := by
  have htrim : trim answer.toList = core := trims_iff.1 h
  rcases hread : readNatural (UInt32.size - 1) core with error | n
  · simp only [read, htrim, hread]
  · simp only [read, htrim, hread]

/-- A number that 32 bits can hold is not changed by them. -/
lemma ofNat_eq_iff {n : Nat} (h : n ≤ UInt32.size - 1) :
    UInt32.ofNat n = level ↔ n = level.toNat := by
  have hsize : n < UInt32.size := by
    unfold UInt32.size at h ⊢
    omega
  constructor
  · rintro rfl
    exact (UInt32.toNat_ofNat_of_lt hsize).symm
  · rintro rfl
    exact UInt32.ofNat_toNat

/-- A level is read from what spells its number. -/
lemma read_eq_ok_iff (h : Trims answer.toList core) :
    read answer = .ok level ↔ SpellsNatural core level.toNat := by
  have hlevel : level.toNat ≤ UInt32.size - 1 := Nat.le_sub_one_of_lt level.toNat_lt_size
  rw [read_of_trims h]
  rcases hread : readNatural (UInt32.size - 1) core with error | n
  · simp only [reduceCtorEq, false_iff]
    intro hspells
    have hok := readNatural_eq_ok_iff.2 ⟨hspells, hlevel⟩
    rw [hread] at hok
    cases hok
  · obtain ⟨-, hn⟩ := readNatural_eq_ok_iff.1 hread
    have hiff : readNatural (UInt32.size - 1) core = .ok level.toNat ↔
        SpellsNatural core level.toNat := by
      rw [readNatural_eq_ok_iff, and_iff_left hlevel]
    rw [← hiff, hread, Except.ok.injEq, Except.ok.injEq]
    exact ofNat_eq_iff hn

/-- An answer that spells no number of 32 bits is kept in the error. -/
lemma read_eq_error_iff (h : Trims answer.toList core) {error : LevelError} :
    read answer = .error error ↔
      error = .invalid (String.ofList core) ∧ ∀ n ≤ UInt32.size - 1, ¬ SpellsNatural core n := by
  rw [read_of_trims h]
  rcases hread : readNatural (UInt32.size - 1) core with numeralError | n
  · have hnone : ∀ n ≤ UInt32.size - 1, ¬ SpellsNatural core n := by
      intro n hn hspells
      have hok := readNatural_eq_ok_iff.2 ⟨hspells, hn⟩
      rw [hread] at hok
      cases hok
    rw [Except.error.injEq, and_iff_left hnone]
    exact eq_comm
  · simp only [reduceCtorEq, false_iff]
    rintro ⟨-, hnone⟩
    obtain ⟨hspells, hn⟩ := readNatural_eq_ok_iff.1 hread
    exact hnone n hn hspells

/-! ### Printed numbers -/

/-- A printed number has no blank in it, so that only the blanks around it are left out. -/
lemma trims_decimal {before after : List Char} (hbefore : ∀ c ∈ before, isBlank c = true)
    (hafter : ∀ c ∈ after, isBlank c = true) (n : Nat) :
    Trims (before ++ (Nat.toDigits 10 n ++ after)) (Nat.toDigits 10 n) := by
  have hblank : ∀ c ∈ Nat.toDigits 10 n, isBlank c = false := by
    intro c hc
    have hdigit := (areDigits_toDigits n).isDigit c hc
    simp only [Char.isDigit, Bool.and_eq_true, decide_eq_true_eq, ge_iff_le] at hdigit
    have hlow : 48 ≤ c.toNat := hdigit.1
    have hhigh : c.toNat ≤ 57 := hdigit.2
    unfold isBlank
    simp
    omega
  refine ⟨⟨before, after, hbefore, hafter, rfl⟩, ?_, ?_⟩
  · intro c hc
    exact hblank c (List.mem_of_mem_head? hc)
  · intro c hc
    exact hblank c (List.mem_of_mem_getLast? hc)

/-- **A level is read exactly.** With the blanks around it left out, an answer is the level whose
number it spells: one digit or more, any zeros in front among them, behind a plus sign or not. An
answer that spells no number of 32 bits is an error that holds it. Each level is read back from its
decimal form with any blanks around it. -/
theorem level_is_read_exactly :
    (∀ answer : String, ∃ core, Trims answer.toList core ∧
      (∀ level, read answer = .ok level ↔ SpellsNatural core level.toNat) ∧
      ∀ error, read answer = .error error ↔
        error = .invalid (String.ofList core) ∧ ∀ n ≤ 4294967295, ¬ SpellsNatural core n) ∧
    ∀ (level : ApiLevel) (before after : List Char), (∀ c ∈ before, isBlank c = true) →
      (∀ c ∈ after, isBlank c = true) →
      read (String.ofList before ++ decimal level.toNat ++ String.ofList after) = .ok level := by
  constructor
  · intro answer
    have htrims : Trims answer.toList (trim answer.toList) := trims_iff.2 rfl
    exact ⟨_, htrims, fun level => read_eq_ok_iff htrims, fun error => read_eq_error_iff htrims⟩
  · intro level before after hbefore hafter
    have htext : (String.ofList before ++ decimal level.toNat ++ String.ofList after).toList =
        before ++ (Nat.toDigits 10 level.toNat ++ after) := by
      unfold decimal
      simp only [String.toList_append, String.toList_ofList, List.append_assoc]
    have htrims := trims_decimal hbefore hafter level.toNat
    rw [← htext] at htrims
    exact (read_eq_ok_iff htrims).2 (spellsNatural_toDigits level.toNat)

/-- The largest level is read from between a no-break space and a line's end. -/
theorem level_is_read_exactly_largest :
    (∀ c ∈ ['\u00a0'], isBlank c = true) ∧ (∀ c ∈ ['\r', '\n'], isBlank c = true) ∧
    read (String.ofList ['\u00a0'] ++ decimal 4294967295 ++ String.ofList ['\r', '\n']) =
      .ok 4294967295 := by
  have hbefore : ∀ c ∈ ['\u00a0'], isBlank c = true := List.forall_mem_singleton.2 rfl
  have hafter : ∀ c ∈ ['\r', '\n'], isBlank c = true :=
    List.forall_mem_cons.2 ⟨rfl, List.forall_mem_singleton.2 rfl⟩
  exact ⟨hbefore, hafter, level_is_read_exactly.2 4294967295 _ _ hbefore hafter⟩

example : read "+00034\n" = .ok 34 := by cbv
example : read "4294967296" = .error (.invalid "4294967296") := by cbv

end Screencast.ApiLevel
