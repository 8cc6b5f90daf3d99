/-!
Cutting a list at its separators and joining pieces with one. The two undo each other: joining the
pieces of a cut gives back the list, and no piece holds a separator.
-/

namespace Screencast.Text

section Lists

variable {α : Type}

/-- The pieces of a list between the elements that satisfy `p`; there is always at least one. -/
def cutAt (p : α → Bool) : List α → List (List α)
  | [] => [[]]
  | a :: as =>
    if p a then [] :: cutAt p as
    else
      match cutAt p as with
      | [] => [[a]]
      | piece :: pieces => (a :: piece) :: pieces

/-- The pieces of a list between its separators. -/
def cut [BEq α] (sep : α) (as : List α) : List (List α) := cutAt (· == sep) as

/-- The pieces one after the other, with a separator between each and the next. -/
def join (sep : List α) : List (List α) → List α
  | [] => []
  | [piece] => piece
  | piece :: next :: pieces => piece ++ sep ++ join sep (next :: pieces)

theorem cutAt_ne_nil (p : α → Bool) (as : List α) : cutAt p as ≠ [] := by
  cases as with
  | nil => simp [cutAt]
  | cons a as =>
    rw [cutAt]
    split
    · simp
    · split <;> simp

theorem cutAt_cons_of_pos {p : α → Bool} {a : α} (h : p a = true) (as : List α) :
    cutAt p (a :: as) = [] :: cutAt p as := by
  rw [cutAt, if_pos h]

/-- An element that is no separator goes to the front of the first piece. -/
theorem cutAt_cons_of_neg {p : α → Bool} {a : α} (h : p a = false) {as piece : List α}
    {pieces : List (List α)} (e : cutAt p as = piece :: pieces) :
    cutAt p (a :: as) = (a :: piece) :: pieces := by
  rw [cutAt, if_neg (by simp [h]), e]

theorem not_of_mem_cutAt {p : α → Bool} {as : List α} :
    ∀ {piece : List α}, piece ∈ cutAt p as → ∀ a ∈ piece, p a = false := by
  induction as with
  | nil => simp [cutAt]
  | cons a as ih =>
    intro piece h
    cases ha : p a with
    | true =>
      rw [cutAt_cons_of_pos ha] at h
      rcases List.mem_cons.1 h with rfl | h
      · simp
      · exact ih h
    | false =>
      obtain ⟨first, pieces, e⟩ := List.exists_cons_of_ne_nil (cutAt_ne_nil p as)
      rw [cutAt_cons_of_neg ha e] at h
      rw [e] at ih
      rcases List.mem_cons.1 h with rfl | h
      · intro b hb
        rcases List.mem_cons.1 hb with rfl | hb
        · exact ha
        · exact ih (List.mem_cons_self ..) b hb
      · exact ih (List.mem_cons_of_mem _ h)

theorem join_cut [BEq α] [LawfulBEq α] (sep : α) (as : List α) : join [sep] (cut sep as) = as := by
  unfold cut
  induction as with
  | nil => rfl
  | cons a as ih =>
    obtain ⟨piece, pieces, e⟩ := List.exists_cons_of_ne_nil (cutAt_ne_nil (· == sep) as)
    rw [e] at ih
    cases ha : a == sep with
    | true =>
      rw [cutAt_cons_of_pos (p := (· == sep)) ha, e, join, ih, eq_of_beq ha]
      rfl
    | false =>
      rw [cutAt_cons_of_neg (p := (· == sep)) ha e, ← ih]
      cases pieces <;> rfl

end Lists

/-- The pieces of a string between its separators. -/
def cutString (sep : Char) (s : String) : List String :=
  (cut sep s.toList).map String.ofList

/-- The strings one after the other, with a separator between each and the next. -/
def joinStrings (sep : String) (pieces : List String) : String :=
  String.ofList (join sep.toList (pieces.map String.toList))

/-- The lines of a text: a line break ends a line, and so does one behind a carriage return. -/
def textLines (s : String) : List String :=
  let pieces := cut '\n' s.toList
  let last := pieces.getLast?.getD []
  let ended := pieces.dropLast.map fun piece =>
    if piece.getLast? = some '\r' then piece.dropLast else piece
  (if last.isEmpty then ended else ended ++ [last]).map String.ofList

end Screencast.Text
