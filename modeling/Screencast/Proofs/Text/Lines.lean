import Mathlib.Algebra.Group.Nat.Defs
import Mathlib.Tactic.Common
import Screencast.Proofs.Text.Words
import Screencast.Text.Utf8

/-!
Line breaks in bytes and in the text of the bytes. A line break is no part of a longer sequence, and
no longer sequence is read as one, however damaged the bytes are. Hence it is the same to read bytes
and then cut the text into lines, and to cut the bytes and then read each line on its own.
-/

namespace Screencast.Text

namespace Utf8State

/-! ### What is read inside a character -/

/-- Whatever continuation bytes follow, the character will not be an ASCII one. -/
def Wide : Utf8State → Prop
  | boundary => True
  | inside bits low _ more => 0x80 ≤ (bits * 64 + low) * 64 ^ more

lemma eq_of_ofNat_eq_newline {n : Nat} (h : Char.ofNat n = '\n') : n = 10 := by
  by_cases hvalid : n.isValidChar
  · have hn : (Char.ofNat n).toNat = n := by
      unfold Char.ofNat
      rw [dif_pos hvalid]
      rfl
    rw [← hn, h]
    rfl
  · unfold Char.ofNat at h
    rw [dif_neg hvalid] at h
    exact absurd h (by decide)

lemma newline_ne_replacement : '\n' ≠ replacement := by decide

/-- The first byte of a character: it is read as a line break only if it is one, and what it leaves
open lies behind the ASCII characters. -/
lemma wide_start (b : UInt8) : ('\n' ∈ (start b).1 → b = 10) ∧ (start b).2.Wide := by
  have hne := newline_ne_replacement
  unfold start
  simp only [UInt8.lt_iff_toNat_lt, ← UInt8.toNat_inj, UInt8.reduceToNat]
  split
  · refine ⟨fun h => ?_, trivial⟩
    exact eq_of_ofNat_eq_newline (List.mem_singleton.1 h).symm
  split
  · exact ⟨fun h => absurd (List.mem_singleton.1 h) hne, trivial⟩
  split
  · refine ⟨fun h => absurd h List.not_mem_nil, ?_⟩
    show 0x80 ≤ ((b.toNat - 0xC0) * 64 + 0) * 64 ^ 0
    omega
  split
  · exact ⟨fun h => absurd h List.not_mem_nil, by show 0x80 ≤ (0 * 64 + 0x20) * 64 ^ 1; omega⟩
  split
  · exact ⟨fun h => absurd h List.not_mem_nil, by show 0x80 ≤ (0xD * 64 + 0) * 64 ^ 1; omega⟩
  split
  · refine ⟨fun h => absurd h List.not_mem_nil, ?_⟩
    show 0x80 ≤ ((b.toNat - 0xE0) * 64 + 0) * 64 ^ 1
    omega
  split
  · exact ⟨fun h => absurd h List.not_mem_nil, by show 0x80 ≤ (0 * 64 + 0x10) * 64 ^ 2; omega⟩
  split
  · refine ⟨fun h => absurd h List.not_mem_nil, ?_⟩
    show 0x80 ≤ ((b.toNat - 0xF0) * 64 + 0) * 64 ^ 2
    omega
  split
  · exact ⟨fun h => absurd h List.not_mem_nil, by show 0x80 ≤ (4 * 64 + 0) * 64 ^ 2; omega⟩
  · exact ⟨fun h => absurd (List.mem_singleton.1 h) hne, trivial⟩

/-- **One byte**: from a wide state a line break is read only where the byte is one, and the state
behind it is wide again. -/
lemma wide_step {state : Utf8State} (h : state.Wide) (b : UInt8) :
    ('\n' ∈ (state.step b).1 → b = 10) ∧ (state.step b).2.Wide := by
  have hstart : ('\n' ∈ replacement :: (start b).1 → b = 10) ∧ (start b).2.Wide := by
    refine ⟨fun hmem => ?_, (wide_start b).2⟩
    rcases List.mem_cons.1 hmem with e | hmem
    · exact absurd e newline_ne_replacement
    · exact (wide_start b).1 hmem
  cases state with
  | boundary => exact wide_start b
  | inside bits low high more =>
    rcases hnext : continuation? b with _ | next
    · simp only [step, hnext]
      exact hstart
    simp only [step, hnext]
    by_cases hrange : low ≤ next ∧ next ≤ high
    · rw [if_pos hrange]
      have hbits : 0x80 ≤ (bits * 64 + next) * 64 ^ more :=
        Nat.le_trans h (Nat.mul_le_mul_right _ (Nat.add_le_add_left hrange.1 _))
      cases more with
      | zero =>
        refine ⟨fun hmem => ?_, trivial⟩
        have hchar := eq_of_ofNat_eq_newline (List.mem_singleton.1 hmem).symm
        rw [hchar] at hbits
        omega
      | succ more =>
        refine ⟨fun hmem => absurd hmem List.not_mem_nil, ?_⟩
        show 0x80 ≤ ((bits * 64 + next) * 64 + 0) * 64 ^ more
        rw [Nat.add_zero, Nat.mul_assoc, ← Nat.pow_succ']
        exact hbits
    · rw [if_neg hrange]
      exact hstart

/-- Bytes without a line break are read as text without one. -/
lemma newline_notMem_read {state : Utf8State} (h : state.Wide) {bytes : List UInt8}
    (hbytes : 10 ∉ bytes) : '\n' ∉ state.read bytes := by
  induction bytes generalizing state with
  | nil =>
    cases state with
    | boundary => exact List.not_mem_nil
    | inside bits low high more =>
      exact fun hmem => newline_ne_replacement (List.mem_singleton.1 hmem)
  | cons b bytes ih =>
    have hb : b ≠ 10 := fun e => hbytes (e ▸ List.mem_cons_self ..)
    have hrest : 10 ∉ bytes := fun hmem => hbytes (List.mem_cons_of_mem _ hmem)
    rw [read_cons]
    intro hmem
    rcases List.mem_append.1 hmem with hmem | hmem
    · exact hb ((wide_step h b).1 hmem)
    · exact ih (wide_step h b).2 hrest hmem

/-! ### Lines -/

/-- Lines joined by line breaks are read one by one. -/
lemma read_join (line : List UInt8) (lines : List (List UInt8)) :
    boundary.read (join [10] (line :: lines)) =
      join ['\n'] ((line :: lines).map boundary.read) := by
  induction lines generalizing line with
  | nil => rfl
  | cons next lines ih =>
    have hjoin : join [10] (line :: next :: lines) = line ++ 10 :: join [10] (next :: lines) := by
      simp [join]
    rw [hjoin, read_append_newline, ih]
    simp [join]

end Utf8State

/-- **Reading and cutting into lines can be exchanged**: the lines of the text are the texts of the
lines. -/
theorem cut_newline_read (bytes : List UInt8) :
    cut '\n' (Utf8State.boundary.read bytes) = (cut 10 bytes).map Utf8State.boundary.read := by
  obtain ⟨line, lines, e⟩ := List.exists_cons_of_ne_nil (cutAt_ne_nil (· == 10) bytes)
  have hcut : cut 10 bytes = line :: lines := e
  have hclean : ∀ piece ∈ (line :: lines).map Utf8State.boundary.read, '\n' ∉ piece := by
    intro piece hpiece
    obtain ⟨source, hsource, rfl⟩ := List.mem_map.1 hpiece
    have hwide : Utf8State.boundary.Wide := trivial
    refine Utf8State.newline_notMem_read hwide fun hmem => ?_
    rw [← e] at hsource
    exact absurd (not_of_mem_cutAt hsource 10 hmem) (by decide)
  have hjoin : bytes = join [10] (line :: lines) := by rw [← hcut, join_cut]
  conv_lhs => rw [hjoin, Utf8State.read_join]
  rw [hcut]
  exact cut_join hclean

end Screencast.Text
