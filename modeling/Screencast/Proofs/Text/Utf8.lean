import Mathlib.Tactic.Common
import Screencast.Text.Utf8

/-!
Reading undoes writing: the bytes of a text are read as that text again, without a damaged piece.
-/

namespace Screencast.Text

/-- The code points of characters lie below the surrogates or above them. -/
lemma toNat_lt_or (c : Char) : c.toNat < 0xD800 ∨ (0xDFFF < c.toNat ∧ c.toNat < 0x110000) := by
  have := c.valid
  simpa [UInt32.isValidChar, Nat.isValidChar] using this

namespace Utf8State

/-! ### Single bytes -/

lemma toNat_ofNat {n : Nat} (h : n < 256) : (UInt8.ofNat n).toNat = n := by
  rw [UInt8.toNat_ofNat']
  exact Nat.mod_eq_of_lt h

lemma start_ofNat {n : Nat} (h : n < 256) :
    start (UInt8.ofNat n) =
      if n < 0x80 then ([Char.ofNat n], boundary)
      else if n < 0xC2 then ([replacement], boundary)
      else if n < 0xE0 then ([], inside (n - 0xC0) 0x00 0x3F 0)
      else if n = 0xE0 then ([], inside 0x0 0x20 0x3F 1)
      else if n = 0xED then ([], inside 0xD 0x00 0x1F 1)
      else if n < 0xF0 then ([], inside (n - 0xE0) 0x00 0x3F 1)
      else if n = 0xF0 then ([], inside 0x0 0x10 0x3F 2)
      else if n < 0xF4 then ([], inside (n - 0xF0) 0x00 0x3F 2)
      else if n = 0xF4 then ([], inside 0x4 0x00 0x0F 2)
      else ([replacement], boundary) := by
  unfold start
  simp only [UInt8.lt_iff_toNat_lt, ← UInt8.toNat_inj, toNat_ofNat h]
  rfl

lemma continuation?_ofNat {n : Nat} (h : n < 64) :
    continuation? (UInt8.ofNat (n + 0x80)) = some n := by
  unfold continuation?
  simp only [UInt8.le_iff_toNat_le, toNat_ofNat (show n + 0x80 < 256 by omega)]
  rw [if_pos]
  · simp
  · constructor
    · exact Nat.le_add_left ..
    · change n + 0x80 ≤ 0xBF
      omega

section Inside

variable {bits low high n : Nat} (h : n < 64) (hlow : low ≤ n) (hhigh : n ≤ high)
  (bytes : List UInt8)

include h hlow hhigh

/-- The last byte of a character. -/
lemma read_inside_zero :
    (inside bits low high 0).read (UInt8.ofNat (n + 0x80) :: bytes) =
      Char.ofNat (bits * 64 + n) :: boundary.read bytes := by
  rw [read_cons]
  simp only [step, continuation?_ofNat h]
  rw [if_pos ⟨hlow, hhigh⟩]
  rfl

/-- A byte that is not the last one of a character. -/
lemma read_inside_succ (more : Nat) :
    (inside bits low high (more + 1)).read (UInt8.ofNat (n + 0x80) :: bytes) =
      (inside (bits * 64 + n) 0x00 0x3F more).read bytes := by
  rw [read_cons]
  simp only [step, continuation?_ofNat h]
  rw [if_pos ⟨hlow, hhigh⟩]
  rfl

end Inside

lemma read_boundary_cons {n : Nat} {chars : List Char} {state : Utf8State}
    (h : start (UInt8.ofNat n) = (chars, state)) (bytes : List UInt8) :
    boundary.read (UInt8.ofNat n :: bytes) = chars ++ state.read bytes := by
  rw [read_cons]
  simp only [step, h]

/-! ### First bytes -/

section First

variable {v : Nat}

lemma start_two (h : 0x7F < v) (h' : v ≤ 0x7FF) :
    start (UInt8.ofNat (v / 64 % 0x20 + 0xC0)) = ([], inside (v / 64) 0x00 0x3F 0) := by
  have hbits : v / 64 % 0x20 + 0xC0 - 0xC0 = v / 64 := by omega
  rw [start_ofNat (by omega), if_neg (by omega), if_neg (by omega), if_pos (by omega), hbits]

/-- The range that is left open by the first of three bytes has room for every character that is
no surrogate. -/
lemma start_three (h : 0x7FF < v) (h' : v ≤ 0xFFFF) (hv : v < 0xD800 ∨ 0xDFFF < v) :
    ∃ low high, start (UInt8.ofNat (v / 4096 % 0x10 + 0xE0)) = ([], inside (v / 4096) low high 1) ∧
      low ≤ v / 64 % 0x40 ∧ v / 64 % 0x40 ≤ high := by
  have hbits : v / 4096 % 0x10 + 0xE0 - 0xE0 = v / 4096 := by omega
  rw [start_ofNat (by omega), if_neg (by omega), if_neg (by omega), if_neg (by omega), hbits]
  by_cases hfirst : v / 4096 = 0
  · rw [if_pos (by omega), hfirst]
    exact ⟨_, _, rfl, by omega, by omega⟩
  rw [if_neg (by omega)]
  by_cases hlast : v / 4096 = 0xD
  · rw [if_pos (by omega), hlast]
    exact ⟨_, _, rfl, by omega, by omega⟩
  · rw [if_neg (by omega), if_pos (by omega)]
    exact ⟨_, _, rfl, by omega, by omega⟩

/-- The same for the first of four bytes. -/
lemma start_four (h : 0xFFFF < v) (h' : v < 0x110000) :
    ∃ low high,
      start (UInt8.ofNat (v / 262144 % 0x08 + 0xF0)) = ([], inside (v / 262144) low high 2) ∧
        low ≤ v / 4096 % 0x40 ∧ v / 4096 % 0x40 ≤ high := by
  have hbits : v / 262144 % 0x08 + 0xF0 - 0xF0 = v / 262144 := by omega
  rw [start_ofNat (by omega), if_neg (by omega), if_neg (by omega), if_neg (by omega),
    if_neg (by omega), if_neg (by omega), if_neg (by omega), hbits]
  by_cases hfirst : v / 262144 = 0
  · rw [if_pos (by omega), hfirst]
    exact ⟨_, _, rfl, by omega, by omega⟩
  rw [if_neg (by omega)]
  by_cases hlast : v / 262144 = 4
  · rw [if_neg (by omega), if_pos (by omega), hlast]
    exact ⟨_, _, rfl, by omega, by omega⟩
  · rw [if_pos (by omega)]
    exact ⟨_, _, rfl, by omega, by omega⟩

end First

/-! ### Texts -/

/-- The bytes of a character are read as this character. -/
theorem read_utf8EncodeChar_append (c : Char) (bytes : List UInt8) :
    boundary.read (String.utf8EncodeChar c ++ bytes) = c :: boundary.read bytes := by
  have hc := toNat_lt_or c
  have hval : c.val.toNat = c.toNat := rfl
  have hofNat : ∀ n, n = c.toNat → Char.ofNat n = c := by
    rintro _ rfl
    exact Char.ofNat_toNat c
  unfold String.utf8EncodeChar
  simp only [hval]
  split
  · next hone =>
    have hstart : start (UInt8.ofNat c.toNat) = ([c], boundary) := by
      rw [start_ofNat (by omega), if_pos (by omega), hofNat _ rfl]
    exact read_boundary_cons hstart bytes
  split
  · next hone htwo =>
    change boundary.read (_ :: _ :: bytes) = _
    rw [read_boundary_cons (start_two (by omega) htwo), List.nil_append,
      read_inside_zero (by omega) (by omega) (by omega), hofNat _ (by omega)]
  split
  · next htwo hthree =>
    obtain ⟨low, high, hstart, hlow, hhigh⟩ := start_three (by omega) hthree (by omega)
    change boundary.read (_ :: _ :: _ :: bytes) = _
    rw [read_boundary_cons hstart, List.nil_append, read_inside_succ (by omega) hlow hhigh,
      read_inside_zero (by omega) (by omega) (by omega), hofNat _ (by omega)]
  · next hthree =>
    obtain ⟨low, high, hstart, hlow, hhigh⟩ := start_four (v := c.toNat) (by omega) (by omega)
    change boundary.read (_ :: _ :: _ :: _ :: bytes) = _
    rw [read_boundary_cons hstart, List.nil_append, read_inside_succ (by omega) hlow hhigh,
      read_inside_succ (by omega) (by omega) (by omega),
      read_inside_zero (by omega) (by omega) (by omega), hofNat _ (by omega)]

end Utf8State

/-- **Reading undoes writing.** -/
theorem decodeUtf8_utf8 (s : String) : decodeUtf8 (utf8 s) = s := by
  have hread : ∀ cs : List Char,
      Utf8State.boundary.read (cs.flatMap String.utf8EncodeChar) = cs := by
    intro cs
    induction cs with
    | nil => rfl
    | cons c cs ih => rw [List.flatMap_cons, Utf8State.read_utf8EncodeChar_append, ih]
  unfold decodeUtf8 utf8
  rw [hread, String.ofList_toList]

end Screencast.Text
