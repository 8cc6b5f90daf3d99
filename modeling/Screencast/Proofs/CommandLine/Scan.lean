import Screencast.CommandLine.Parse
import Screencast.Proofs.CommandLine.Word

/-!
Scanning word by word, up to the double dash and beyond it, and what it takes for words to state a
request.
-/

namespace Screencast.CommandLine

/-- Of two steps, the second succeeds with what the first one gives. -/
lemma bind_eq_ok_iff {ε α β : Type} {x : Except ε α} {f : α → Except ε β} {b : β} :
    x.bind f = .ok b ↔ ∃ a, x = .ok a ∧ f a = .ok b := by
  cases x <;> simp [Except.bind]

namespace Scan

variable {scan last : Scan} {word : String} {words rest : List String}

/-- Reads one word that is not the double dash. -/
def read (scan : Scan) (word : String) : Except Stop Scan :=
  match Word.ofString word with
  | .ending => .ok scan
  | .long name value? => scan.long name value?
  | .short letters => scan.letters letters
  | .plain => scan.plain word

lemma run_cons_of_ne (h : word ≠ "--") (scan : Scan) (words : List String) :
    scan.run (word :: words) = (scan.read word).bind fun scan => scan.run words := by
  have hending : Word.ofString word ≠ .ending := fun heq => h (Word.ofString_eq_ending_iff.1 heq)
  unfold read
  rw [run]
  cases hword : Word.ofString word with
  | ending => exact absurd hword hending
  | long name value? => rfl
  | short letters => rfl
  | plain => rfl

/-- Words without a double dash are read to the end, and then a double dash and what is behind it
change nothing in the scan. -/
lemma run_append_dashes (hdashes : "--" ∉ words) (h : scan.run words = .ok (last, rest)) :
    rest = [] ∧ ∀ extra, scan.run (words ++ "--" :: extra) = .ok (last, extra) := by
  induction words generalizing scan with
  | nil =>
    cases h
    exact ⟨rfl, fun _ => rfl⟩
  | cons word words ih =>
    rw [List.mem_cons, not_or] at hdashes
    have hcons := run_cons_of_ne (Ne.symm hdashes.1) scan
    rw [hcons] at h
    obtain ⟨next, hread, hrun⟩ := bind_eq_ok_iff.1 h
    obtain ⟨hnil, hextra⟩ := ih hdashes.2 hrun
    refine ⟨hnil, fun extra => ?_⟩
    rw [List.cons_append, hcons]
    exact bind_eq_ok_iff.2 ⟨next, hread, hextra extra⟩

end Scan

/-- Words state a request if they are scanned, settled and completed to it. -/
lemma parse_eq_ok_iff {env : Environment} {words : List String} {request : Request} :
    parse env words = .ok request ↔
      ∃ scan extra draft, Scan.run {} words = .ok (scan, extra) ∧ scan.settle = .ok draft ∧
        draft.complete env extra = .ok request := by
  unfold parse
  rcases hrun : Scan.run {} words with stop | ⟨scan, extra⟩
  · simp
  · rcases hsettle : scan.settle with error | draft
    · simp [Except.bind, hsettle]
    · rcases hcomplete : draft.complete env extra with error | found <;>
        simp [Except.bind, hsettle, hcomplete]

end Screencast.CommandLine
