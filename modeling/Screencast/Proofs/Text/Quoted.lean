import Mathlib.Tactic.Common
import Screencast.Proofs.Json.RoundTrip
import Screencast.Text.Blank
import Screencast.Text.Quoted

/-!
Quoted text is one line, and nothing of it is lost. A quoted text shows in all its characters, so
that no break of a line is among them, and a reader that knows the backslash forms gets back what
was quoted.
-/

namespace Screencast.Text

/-! ### A reader -/

/-- Quoted text on the way, with the characters so far, the last one first. -/
inductive Quotation where
  /-- The first quotes are missing. -/
  | unopened
  | plain (before : List Char)
  | escape (before : List Char)
  /-- A code point must follow, in braces. -/
  | brace (before : List Char)
  | code (before : List Char) (value : Nat)
  | closed (before : List Char)

namespace Quotation

/-- The character of a backslash form of two characters. -/
def unescape? : Char → Option Char
  | '0' => some '\x00'
  | 't' => some '\t'
  | 'n' => some '\n'
  | 'r' => some '\r'
  | '"' => some '"'
  | '\\' => some '\\'
  | _ => none

/-- Quoted text with one character more, if that can belong to it. -/
def next? : Quotation → Char → Option Quotation
  | unopened, c => if c = '"' then some (plain []) else none
  | plain before, c =>
    if c = '\\' then some (escape before)
    else if c = '"' then some (closed before)
    else some (plain (c :: before))
  | escape before, c =>
    if c = 'u' then some (brace before)
    else (unescape? c).map fun d => plain (d :: before)
  | brace before, c => if c = '\x7b' then some (code before 0) else none
  | code before value, c =>
    if c = '\x7d' then some (plain (Char.ofNat value :: before))
    else (Json.hexDigit? c).map fun d => code before (16 * value + d)
  | closed _, _ => none

/-- What was quoted, once the last quotes are there. -/
def text? : Quotation → Option String
  | closed before => some (String.ofList before.reverse)
  | _ => none

end Quotation

/-- Reads quoted text. -/
def unquote (text : String) : Option String :=
  (text.toList.foldlM Quotation.next? .unopened).bind Quotation.text?

/-! ### Nothing is lost -/

open Quotation

variable {c d : Char} {n : Nat}

lemma next?_digitChar (before : List Char) (value : Nat) (h : n < 16) :
    next? (.code before value) (Nat.digitChar n) = some (.code before (16 * value + n)) := by
  have hbrace : ∀ d < 16, Nat.digitChar d ≠ '\x7d' := by decide
  unfold next?
  dsimp only
  rw [if_neg (hbrace n h), Json.hexDigit?_digitChar n h]
  rfl

/-- The digits of a code point are read as the code point. -/
lemma foldlM_toDigits (before : List Char) (n : Nat) :
    (Nat.toDigits 16 n).foldlM next? (.code before 0) = some (.code before n) := by
  induction n using Nat.strongRecOn with
  | ind n ih =>
    rw [Nat.toDigits_eq_if (by decide)]
    split
    · next hdigit =>
      rw [List.foldlM_cons, next?_digitChar before 0 hdigit, Nat.mul_zero, Nat.zero_add]
      rfl
    · have hlast : next? (.code before (n / 16)) (Nat.digitChar (n % 16)) =
          some (.code before n) := by
        rw [next?_digitChar before _ (Nat.mod_lt n (by decide)), Nat.div_add_mod]
      rw [List.foldlM_append, ih (n / 16) (by omega)]
      show (next? (.code before (n / 16)) (Nat.digitChar (n % 16)) >>= pure) = _
      rw [hlast]
      rfl

/-- **One character.** What stands for a character inside of quotes is read as this character. -/
lemma foldlM_escape (before : List Char) (c : Char) :
    (escape c).foldlM next? (.plain before) = some (.plain (c :: before)) := by
  unfold escape
  split
  -- the characters with a form of their own
  · rfl
  · rfl
  · rfl
  · rfl
  · rfl
  · rfl
  · next hquotes hbackslash =>
    split
    · have hnext : next? (.plain before) c = some (.plain (c :: before)) := by
        unfold next?
        dsimp only
        rw [if_neg hbackslash, if_neg hquotes]
      rw [List.foldlM_cons, hnext]
      rfl
    · have hclose : next? (.code before c.toNat) '\x7d' = some (.plain (c :: before)) := by
        unfold next?
        dsimp only
        rw [if_pos rfl, Char.ofNat_toNat]
      have hopen : ['\\', 'u', '\x7b'].foldlM next? (.plain before) =
          some (.code before 0) := rfl
      rw [List.foldlM_append, List.foldlM_append, hopen]
      show ((Nat.toDigits 16 c.toNat).foldlM next? (.code before 0) >>= fun quotation =>
        next? quotation '\x7d' >>= pure) = _
      rw [foldlM_toDigits]
      show (next? (.code before c.toNat) '\x7d' >>= pure) = _
      rw [hclose]
      rfl

lemma foldlM_flatMap_escape (before cs : List Char) :
    (cs.flatMap escape).foldlM next? (.plain before) = some (.plain (cs.reverse ++ before)) := by
  induction cs generalizing before with
  | nil => rfl
  | cons c cs ih =>
    rw [List.flatMap_cons, List.foldlM_append, foldlM_escape, List.reverse_cons, List.append_assoc]
    exact ih (c :: before)

/-- **Quoted text is read back.** -/
theorem unquote_quote (text : String) : unquote (quote text) = some text := by
  have hread : (quote text).toList.foldlM next? .unopened =
      some (.closed text.toList.reverse) := by
    unfold quote
    rw [String.toList_ofList, List.cons_append, List.foldlM_cons]
    show (text.toList.flatMap escape ++ ['"']).foldlM next? (.plain []) = _
    rw [List.foldlM_append, foldlM_flatMap_escape, List.append_nil]
    rfl
  unfold unquote
  rw [hread]
  show some (String.ofList text.toList.reverse.reverse) = some text
  rw [List.reverse_reverse, String.ofList_toList]

example : unquote "\"a\\u\x7b200b\x7d\\n\\\"\"" = some "a\u200b\n\"" := by cbv

/-! ### One line -/

lemma mem_toDigits (h : c ∈ Nat.toDigits 16 n) : ∃ d < 16, c = Nat.digitChar d := by
  induction n using Nat.strongRecOn with
  | ind n ih =>
    rw [Nat.toDigits_eq_if (by decide)] at h
    split at h
    · next hdigit => exact ⟨n, hdigit, List.mem_singleton.1 h⟩
    · rcases List.mem_append.1 h with h | h
      · exact ih (n / 16) (by omega) h
      · exact ⟨n % 16, Nat.mod_lt n (by decide), List.mem_singleton.1 h⟩

/-- The printable characters of ASCII show. -/
lemma isVisible_of_printable (h : 0x20 ≤ c.toNat ∧ c.toNat ≤ 0x7E) : isVisible c = true := by
  unfold isVisible
  simp [h]

lemma isVisible_of_mem {form : List Char} (hform : ∀ c ∈ form, 0x20 ≤ c.toNat ∧ c.toNat ≤ 0x7E)
    (h : d ∈ form) : isVisible d = true :=
  isVisible_of_printable (hform d h)

/-- What stands for a character shows. -/
lemma isVisible_of_mem_escape (h : d ∈ escape c) : isVisible d = true := by
  have hdigit : ∀ d < 16, isVisible (Nat.digitChar d) = true := by decide
  unfold escape at h
  split at h
  -- the characters with a form of their own
  · exact isVisible_of_mem (by simp) h
  · exact isVisible_of_mem (by simp) h
  · exact isVisible_of_mem (by simp) h
  · exact isVisible_of_mem (by simp) h
  · exact isVisible_of_mem (by simp) h
  · exact isVisible_of_mem (by simp) h
  · split at h
    · next hvisible =>
      rw [List.mem_singleton.1 h]
      exact hvisible
    · rcases List.mem_append.1 h with h | h
      · rcases List.mem_append.1 h with h | h
        · exact isVisible_of_mem (by simp) h
        · obtain ⟨digit, hlt, rfl⟩ := mem_toDigits h
          exact hdigit digit hlt
      · exact isVisible_of_mem (by simp) h

/-- All of a quoted text shows. -/
lemma isVisible_of_mem_quote {text : String} (h : c ∈ (quote text).toList) :
    isVisible c = true := by
  have hquotes : isVisible '"' = true := by decide
  unfold quote at h
  rw [String.toList_ofList, List.cons_append, List.mem_cons, List.mem_append,
    List.mem_singleton] at h
  rcases h with rfl | h | rfl
  · exact hquotes
  · obtain ⟨original, -, h⟩ := List.mem_flatMap.1 h
    exact isVisible_of_mem_escape h
  · exact hquotes

/-- The code points of the blanks other than the space. -/
def hiddenBlanks : List Nat :=
  [0x9, 0xA, 0xB, 0xC, 0xD, 0x85, 0xA0, 0x1680, 0x2000, 0x2001, 0x2002, 0x2003, 0x2004, 0x2005,
   0x2006, 0x2007, 0x2008, 0x2009, 0x200A, 0x2028, 0x2029, 0x202F, 0x205F, 0x3000]

/-- Of the blanks only the space shows. -/
lemma eq_space_of_isVisible (hblank : isBlank c = true) (hvisible : isVisible c = true) :
    c = ' ' := by
  have hhidden : ∀ n ∈ hiddenBlanks, isVisible (Char.ofNat n) = false := by decide +kernel
  have hcode : c.toNat = 0x20 ∨ c.toNat ∈ hiddenBlanks := by
    unfold isBlank at hblank
    simp [hiddenBlanks] at hblank ⊢
    omega
  rcases hcode with hspace | hmem
  · rw [← Char.ofNat_toNat c, hspace]
  · have hfalse := hhidden c.toNat hmem
    rw [Char.ofNat_toNat, hvisible] at hfalse
    cases hfalse

/-- A text that takes one line wherever it is shown, and that nothing cuts short. -/
structure SingleLine (text : String) : Prop where
  /-- Of all blanks there are only spaces: no tab, and no break of a line of any kind. -/
  blank : ∀ c ∈ text.toList, isBlank c = true → c = ' '
  nul : '\x00' ∉ text.toList

namespace SingleLine

variable {first second text : String}

lemma notMem (h : SingleLine text) : ∀ c ∈ ['\n', '\r', '\t', '\x00'], c ∉ text.toList := by
  have hblank : ∀ c, isBlank c = true → c ≠ ' ' → c ∉ text.toList :=
    fun c hc hspace hmem => hspace (h.blank c hmem hc)
  simp only [List.forall_mem_cons, List.not_mem_nil, false_imp_iff, implies_true, and_true]
  exact ⟨hblank _ (by decide) (by decide), hblank _ (by decide) (by decide),
    hblank _ (by decide) (by decide), h.nul⟩

lemma append (hfirst : SingleLine first) (hsecond : SingleLine second) :
    SingleLine (first ++ second) where
  blank c hc := by
    rw [String.toList_append, List.mem_append] at hc
    exact hc.elim (hfirst.blank c) (hsecond.blank c)
  nul hc := by
    rw [String.toList_append, List.mem_append] at hc
    exact hc.elim hfirst.nul hsecond.nul

lemma of_isVisible (h : ∀ c ∈ text.toList, isVisible c = true) : SingleLine text where
  blank c hc hblank := eq_space_of_isVisible hblank (h c hc)
  nul hc := absurd (h _ hc) (by decide +kernel)

lemma of_printable (h : ∀ c ∈ text.toList, 0x20 ≤ c.toNat ∧ c.toNat ≤ 0x7E) : SingleLine text :=
  .of_isVisible fun c hc => isVisible_of_printable (h c hc)

end SingleLine

/-- **Quoted text is one line.** -/
theorem singleLine_quote (text : String) : SingleLine (quote text) :=
  .of_isVisible fun _ => isVisible_of_mem_quote

end Screencast.Text
