import Mathlib.Data.List.TakeWhile
import Mathlib.Tactic.Common
import Screencast.CommandLine.Scan

/-!
The form of a word by the way it is written: the name of a flag behind two dashes, with or without
a value, its letter behind one dash, and any word that does not begin with a dash.
-/

namespace Screencast.CommandLine

/-! ### Equals signs -/

lemma splitEquals_of_notMem {cs : List Char} (h : '=' ∉ cs) :
    splitEquals cs = (String.ofList cs, none) := by
  have hall : ∀ c ∈ cs, decide (c ≠ '=') = true := by
    intro c hc
    refine decide_eq_true ?_
    rintro rfl
    exact h hc
  unfold splitEquals
  rw [List.dropWhile_eq_nil_iff.2 hall]

/-- A word is split at its first equals sign; the value may hold others. -/
lemma splitEquals_append {name : List Char} (h : '=' ∉ name) (value : List Char) :
    splitEquals (name ++ '=' :: value) = (String.ofList name, some (String.ofList value)) := by
  have hall : ∀ c ∈ name, decide (c ≠ '=') = true := by
    intro c hc
    refine decide_eq_true ?_
    rintro rfl
    exact h hc
  unfold splitEquals
  rw [List.dropWhile_append_of_pos hall, List.takeWhile_append_of_pos hall,
    List.dropWhile_cons_of_neg (by simp), List.takeWhile_cons_of_neg (by simp), List.append_nil]

lemma Flag.equals_notMem_name (flag : Flag) : '=' ∉ flag.name.toList := by
  rcases flag with (_ | _) | (_ | _) | _ | _ <;> decide

lemma Flag.toList_name_ne_nil (flag : Flag) : flag.name.toList ≠ [] := by
  rcases flag with (_ | _) | (_ | _) | _ | _ <;> decide

lemma Flag.letter_ne_dash {flag : Flag} {letter : Char} (h : flag.letter? = some letter) :
    letter ≠ '-' := by
  rcases flag with (_ | _) | (_ | _) | _ | _ <;> cases h <;> decide

namespace Word

/-! ### The forms -/

lemma ofString_long {body : List Char} (h : body ≠ []) {word : String}
    (hword : word.toList = '-' :: '-' :: body) :
    ofString word = .long (splitEquals body).1 (splitEquals body).2 := by
  obtain ⟨c, cs, rfl⟩ := List.exists_cons_of_ne_nil h
  unfold ofString
  rw [hword]
  rfl

/-- The name of a flag alone. -/
lemma ofString_name (flag : Flag) : ofString ("--" ++ flag.name) = .long flag.name none := by
  have hword : ("--" ++ flag.name).toList = '-' :: '-' :: flag.name.toList := by
    rw [String.toList_append]
    rfl
  rw [ofString_long flag.toList_name_ne_nil hword, splitEquals_of_notMem flag.equals_notMem_name,
    String.ofList_toList]

/-- The name of a flag with a value. -/
lemma ofString_name_value (flag : Flag) (value : String) :
    ofString ("--" ++ flag.name ++ "=" ++ value) = .long flag.name (some value) := by
  have hword : ("--" ++ flag.name ++ "=" ++ value).toList =
      '-' :: '-' :: (flag.name.toList ++ '=' :: value.toList) := by
    simp only [String.toList_append, List.append_assoc]
    rfl
  have hbody : flag.name.toList ++ '=' :: value.toList ≠ [] := by
    simp
  rw [ofString_long hbody hword, splitEquals_append flag.equals_notMem_name, String.ofList_toList,
    String.ofList_toList]

/-- The letter of a flag alone. -/
lemma ofString_letter {flag : Flag} {letter : Char} (h : flag.letter? = some letter) :
    ofString (String.ofList ['-', letter]) = .short [letter] := by
  have hdash := Flag.letter_ne_dash h
  unfold ofString
  rw [String.toList_ofList]
  split
  · next hword =>
    obtain rfl : letter = '-' := by simpa using hword
    exact absurd rfl hdash
  · next hword =>
    obtain ⟨rfl, -⟩ : letter = '-' ∧ _ := by simpa using hword
    exact absurd rfl hdash
  · next hword =>
    obtain ⟨rfl, rfl⟩ := by simpa using hword
    rfl
  · next hother => exact absurd rfl (hother letter [])

/-- A word without a dash before it. -/
lemma ofString_plain {word : String} (h : word.toList.head? ≠ some '-') :
    ofString word = .plain := by
  unfold ofString
  split
  · next hword => simp [hword] at h
  · next hword => simp [hword] at h
  · next hword => simp [hword] at h
  · rfl

/-- Only the double dash ends the flags. -/
lemma ofString_eq_ending_iff {word : String} : ofString word = .ending ↔ word = "--" := by
  constructor
  · intro hending
    unfold ofString at hending
    split at hending
    · next hword => exact String.toList_inj.1 hword
    · cases hending
    · cases hending
    · cases hending
  · rintro rfl
    rfl

end Word

end Screencast.CommandLine
