import Mathlib.Data.Nat.Digits.Defs
import Mathlib.Tactic.Common
import Mathlib.Tactic.Ring
import Screencast.Text.Numeral

/-!
What decimal numerals state, and that reading finds out just that. Each digit counts by its place,
there may be any number of zeros in front, and a number out of bounds is not read at all.
-/

namespace Screencast.Text

variable {bound n : Nat} {cs digits : List Char}

/-! ### Digits and their number -/

/-- One digit or more. -/
structure AreDigits (digits : List Char) : Prop where
  ne_nil : digits ≠ []
  isDigit : ∀ c ∈ digits, c.isDigit = true

/-- The number of a digit. -/
def digitValue (c : Char) : Nat := c.toNat - '0'.toNat

/-- The number of some digits. Each counts by its place, and the last one is for the units. -/
def placeValue (digits : List Char) : Nat := Nat.ofDigits 10 (digits.map digitValue).reverse

lemma placeValue_cons (c : Char) (digits : List Char) :
    placeValue (c :: digits) = 10 ^ digits.length * digitValue c + placeValue digits := by
  have hlength : ((digits.map digitValue).reverse).length = digits.length := by simp
  unfold placeValue
  rw [List.map_cons, List.reverse_cons, Nat.ofDigits_append, Nat.ofDigits_singleton, hlength]
  exact Nat.add_comm ..

/-- Reading digits from the left behind a value comes to the same number. -/
lemma ofDigitChars_eq (digits : List Char) (value : Nat) :
    Nat.ofDigitChars 10 digits value = 10 ^ digits.length * value + placeValue digits := by
  induction digits generalizing value with
  | nil => simp [placeValue]
  | cons c digits ih =>
    rw [Nat.ofDigitChars_cons, ih, placeValue_cons, List.length_cons]
    unfold digitValue
    ring

lemma placeValue_toDigits (n : Nat) : placeValue (Nat.toDigits 10 n) = n := by
  have hvalue : Nat.ofDigitChars 10 (Nat.toDigits 10 n) 0 = n :=
    Nat.ofDigitChars_toDigits (by decide) (by decide)
  rw [ofDigitChars_eq] at hvalue
  omega

lemma areDigits_toDigits (n : Nat) : AreDigits (Nat.toDigits 10 n) where
  ne_nil := Nat.toDigits_ne_nil
  isDigit _ hc := Nat.isDigit_of_mem_toDigits (by decide) (by decide) hc

/-- The decimal form of a number holds digits only. -/
lemma isDigit_of_mem_decimal {c : Char} (h : c ∈ (decimal n).toList) : c.isDigit = true := by
  rw [decimal, String.toList_ofList] at h
  exact (areDigits_toDigits n).isDigit c h

/-- A sign is no digit. -/
lemma AreDigits.ne_cons (h : AreDigits digits) {c : Char} (hc : c.isDigit = false) :
    digits ≠ c :: cs := by
  rintro rfl
  have hdigit := h.isDigit c List.mem_cons_self
  rw [hc] at hdigit
  cases hdigit

/-! ### Numerals -/

/-- The ways to spell a number from zero on: digits, with or without a plus sign. -/
inductive SpellsNatural : List Char → Nat → Prop
  | plain {digits : List Char} (areDigits : AreDigits digits) :
    SpellsNatural digits (placeValue digits)
  | plus {digits : List Char} (areDigits : AreDigits digits) :
    SpellsNatural ('+' :: digits) (placeValue digits)

/-- The ways to spell a whole number. Zero may have a minus sign as well. -/
inductive SpellsInteger : List Char → Int → Prop
  | natural {text : List Char} {n : Nat} (spells : SpellsNatural text n) : SpellsInteger text n
  | minus {digits : List Char} (areDigits : AreDigits digits) :
    SpellsInteger ('-' :: digits) (-placeValue digits)

lemma spellsNatural_toDigits (n : Nat) : SpellsNatural (Nat.toDigits 10 n) n := by
  have hplain := SpellsNatural.plain (areDigits_toDigits n)
  rwa [placeValue_toDigits] at hplain

/-- Behind a plus sign there are digits only. -/
lemma spellsNatural_plus_iff :
    SpellsNatural ('+' :: digits) n ↔ AreDigits digits ∧ placeValue digits = n := by
  constructor
  · rintro (h | h)
    · exact absurd rfl (h.ne_cons (by decide))
    · exact ⟨h, rfl⟩
  · rintro ⟨h, rfl⟩
    exact .plus h

/-- Without a plus sign there are digits from the start. -/
lemma spellsNatural_iff_of_ne (hplus : ∀ digits, cs ≠ '+' :: digits) :
    SpellsNatural cs n ↔ AreDigits cs ∧ placeValue cs = n := by
  constructor
  · rintro (h | h)
    · exact ⟨h, rfl⟩
    · exact absurd rfl (hplus _)
  · rintro ⟨h, rfl⟩
    exact .plain h

lemma not_spellsNatural_nil : ¬ SpellsNatural [] n := by
  rintro ⟨h⟩
  exact h.ne_nil rfl

/-- No number from zero on has a minus sign. -/
lemma not_spellsNatural_minus : ¬ SpellsNatural ('-' :: digits) n := by
  rintro ⟨h⟩
  exact h.ne_cons (by decide) rfl

lemma spellsInteger_minus_iff {value : Int} :
    SpellsInteger ('-' :: digits) value ↔
      AreDigits digits ∧ -(placeValue digits : Int) = value := by
  constructor
  · rintro (h | h)
    · exact absurd h not_spellsNatural_minus
    · exact ⟨h, rfl⟩
  · rintro ⟨h, rfl⟩
    exact .minus h

lemma spellsInteger_iff_of_ne (hminus : ∀ digits, cs ≠ '-' :: digits) {value : Int} :
    SpellsInteger cs value ↔ ∃ n : Nat, SpellsNatural cs n ∧ (n : Int) = value := by
  constructor
  · rintro (h | h)
    · exact ⟨_, h, rfl⟩
    · exact absurd rfl (hminus _)
  · rintro ⟨n, h, rfl⟩
    exact .natural h

/-! ### Reading numerals -/

/-- Digits are read as their number where it keeps the bound. -/
lemma readNumeral_eq_ok_iff {overflow : NumeralError} :
    readNumeral bound overflow cs = .ok n ↔
      AreDigits cs ∧ placeValue cs = n ∧ n ≤ bound := by
  cases cs with
  | nil =>
    simp only [readNumeral, reduceCtorEq, false_iff]
    exact fun h => h.1.ne_nil rfl
  | cons c cs =>
    have hvalue : Nat.ofDigitChars 10 (c :: cs) 0 = placeValue (c :: cs) := by
      rw [ofDigitChars_eq, Nat.mul_zero, Nat.zero_add]
    rw [readNumeral, readDigits_eq_ok_iff (Nat.zero_le _), hvalue]
    constructor
    · rintro ⟨hdigit, h⟩
      exact ⟨⟨List.cons_ne_nil _ _, hdigit⟩, h⟩
    · rintro ⟨hdigits, h⟩
      exact ⟨hdigits.isDigit, h⟩

/-- **A number from zero on** is read from each text that spells it, up to the bound, and from no
other text. -/
theorem readNatural_eq_ok_iff :
    readNatural bound cs = .ok n ↔ SpellsNatural cs n ∧ n ≤ bound := by
  unfold readNatural
  split
  · simp only [reduceCtorEq, false_iff]
    exact fun h => not_spellsNatural_nil h.1
  · rw [readNumeral_eq_ok_iff, spellsNatural_plus_iff, and_assoc]
  · next hplus =>
    rw [readNumeral_eq_ok_iff, spellsNatural_iff_of_ne hplus, and_assoc]

/-- What is read as a number from zero on is read as a whole number as well. -/
lemma readInteger_of_ne (hminus : ∀ digits, cs ≠ '-' :: digits) :
    readInteger bound cs = (readNatural bound cs).map Int.ofNat := by
  unfold readInteger readNatural
  split
  · rfl
  · rfl
  · next digits => exact absurd rfl (hminus digits)
  · next hnil hplus _ =>
    split
    · exact absurd rfl hnil
    · next digits _ => exact absurd rfl (hplus digits)
    · rfl

lemma map_eq_ok_iff {ε α β : Type} {x : Except ε α} {f : α → β} {b : β} :
    x.map f = .ok b ↔ ∃ a, x = .ok a ∧ f a = b := by
  cases x <;> simp [Except.map]

/-- **A whole number** is read from each text that spells it, within the bounds, and from no other
text. -/
theorem readInteger_eq_ok_iff {value : Int} :
    readInteger bound cs = .ok value ↔
      SpellsInteger cs value ∧ -(bound : Int) - 1 ≤ value ∧ value ≤ bound := by
  by_cases hminus : ∃ digits, cs = '-' :: digits
  · obtain ⟨digits, rfl⟩ := hminus
    rw [readInteger, map_eq_ok_iff, spellsInteger_minus_iff]
    simp only [readNumeral_eq_ok_iff]
    constructor
    · rintro ⟨n, ⟨hdigits, hvalue, hn⟩, rfl⟩
      refine ⟨⟨hdigits, by rw [hvalue]; rfl⟩, ?_, ?_⟩
      · rw [Int.ofNat_eq_natCast]
        omega
      · rw [Int.ofNat_eq_natCast]
        omega
    · rintro ⟨⟨hdigits, rfl⟩, hlow, -⟩
      exact ⟨_, ⟨hdigits, rfl, by omega⟩, rfl⟩
  · have hminus' : ∀ digits, cs ≠ '-' :: digits := fun digits h => hminus ⟨digits, h⟩
    rw [readInteger_of_ne hminus', map_eq_ok_iff, spellsInteger_iff_of_ne hminus']
    simp only [readNatural_eq_ok_iff]
    constructor
    · rintro ⟨n, ⟨hspells, hn⟩, rfl⟩
      refine ⟨⟨n, hspells, rfl⟩, ?_, ?_⟩
      · rw [Int.ofNat_eq_natCast]
        omega
      · rw [Int.ofNat_eq_natCast]
        omega
    · rintro ⟨⟨n, hspells, rfl⟩, -, hn⟩
      exact ⟨n, ⟨hspells, by omega⟩, rfl⟩

/-- The digits of a number that keeps the bound are read as the number. -/
lemma readNumeral_toDigits (h : n ≤ bound) (overflow : NumeralError) :
    readNumeral bound overflow (Nat.toDigits 10 n) = .ok n :=
  readNumeral_eq_ok_iff.2 ⟨areDigits_toDigits n, placeValue_toDigits n, h⟩

end Screencast.Text
