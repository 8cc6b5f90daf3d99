/-!
Decimal numerals with a bound: reading takes the digits from the left and stops at the first
character that is no digit or whose digit carries the value over the bound. It succeeds exactly on
the digits of a number that keeps the bound.
-/

namespace Screencast.Text

/-- Why a text is no numeral within its bounds. -/
inductive NumeralError where
  | empty
  | invalidDigit
  | tooLarge
  | tooSmall
deriving DecidableEq, Repr

/-- The reason in words. -/
def NumeralError.message : NumeralError → String
  | empty => "cannot parse integer from empty string"
  | invalidDigit => "invalid digit found in string"
  | tooLarge => "number too large to fit in target type"
  | tooSmall => "number too small to fit in target type"

/-- The decimal form of a number, without leading zeros. -/
def decimal (n : Nat) : String := String.ofList (Nat.toDigits 10 n)

/-- The decimal form of a number, with a minus sign where it is negative. -/
def signedDecimal : Int → String
  | .ofNat n => decimal n
  | .negSucc n => "-" ++ decimal (n + 1)

/-- Reads digits behind a value, up to a bound; passing it is reported as `overflow`. -/
def readDigits (bound : Nat) (overflow : NumeralError) : Nat → List Char → Except NumeralError Nat
  | value, [] => .ok value
  | value, c :: cs =>
    if c.isDigit then
      let value := 10 * value + (c.toNat - '0'.toNat)
      if value ≤ bound then readDigits bound overflow value cs else .error overflow
    else .error .invalidDigit

/-- More digits never make a value smaller. -/
theorem le_ofDigitChars (value : Nat) (cs : List Char) : value ≤ Nat.ofDigitChars 10 cs value := by
  induction cs generalizing value with
  | nil => simp
  | cons c cs ih =>
    rw [Nat.ofDigitChars_cons]
    exact Nat.le_trans (by omega) (ih _)

/-- Digits are read exactly where all are digits and their value keeps the bound. -/
theorem readDigits_eq_ok_iff {bound value n : Nat} {overflow : NumeralError} {cs : List Char}
    (h : value ≤ bound) :
    readDigits bound overflow value cs = .ok n ↔
      (∀ c ∈ cs, c.isDigit = true) ∧ Nat.ofDigitChars 10 cs value = n ∧ n ≤ bound := by
  induction cs generalizing value with
  | nil =>
    simp only [readDigits, Except.ok.injEq, List.not_mem_nil, false_imp_iff, implies_true, true_and,
      Nat.ofDigitChars_nil]
    constructor
    · rintro rfl
      exact ⟨rfl, h⟩
    · exact And.left
  | cons c cs ih =>
    rw [readDigits, Nat.ofDigitChars_cons]
    by_cases hc : c.isDigit = true
    · rw [if_pos hc]
      by_cases hv : 10 * value + (c.toNat - '0'.toNat) ≤ bound
      · simp only [hv, if_true, List.forall_mem_cons, hc, true_and]
        exact ih hv
      · have := le_ofDigitChars (10 * value + (c.toNat - '0'.toNat)) cs
        simp only [hv, if_false, reduceCtorEq, false_iff]
        rintro ⟨-, rfl, hn⟩
        exact hv (Nat.le_trans this hn)
    · simp [hc]

/-- Reads a numeral of one digit or more, up to a bound. -/
def readNumeral (bound : Nat) (overflow : NumeralError) :
    List Char → Except NumeralError Nat
  | [] => .error .invalidDigit
  | c :: cs => readDigits bound overflow 0 (c :: cs)

/-- Reads a number from `0` to a bound, with or without a plus sign. -/
def readNatural (bound : Nat) : List Char → Except NumeralError Nat
  | [] => .error .empty
  | '+' :: digits => readNumeral bound .tooLarge digits
  | digits => readNumeral bound .tooLarge digits

/-- Reads a whole number from `-bound - 1` to `bound`, with or without a sign. -/
def readInteger (bound : Nat) : List Char → Except NumeralError Int
  | [] => .error .empty
  | '+' :: digits => (readNumeral bound .tooLarge digits).map Int.ofNat
  | '-' :: digits => (readNumeral (bound + 1) .tooSmall digits).map fun n => -Int.ofNat n
  | digits => (readNumeral bound .tooLarge digits).map Int.ofNat

end Screencast.Text
