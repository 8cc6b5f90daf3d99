import Mathlib.Data.List.Basic
import Mathlib.Tactic.Common
import Screencast.Logging.Line
import Screencast.Proofs.Text.Words

/-!
Lines of the log. A message on one line is shown on one line, whatever the terminal leaves out of
it.
-/

namespace Screencast

open Text

namespace Text

/-- What a stream shows are some of its characters, in their order. -/
lemma TerminalMode.shown_sublist (mode : TerminalMode) (showing : Bool) (cs : List Char) :
    (mode.shown showing cs).Sublist cs := by
  induction cs generalizing mode showing with
  | nil => exact List.Sublist.refl _
  | cons c cs ih =>
    unfold shown
    split
    · exact (ih _ _).cons_cons c
    · split
      · exact (ih _ _).cons_cons c
      · exact (ih _ _).cons c

/-- Of a text with a line break at its end only, no other one can show. -/
lemma newline_notMem_stripControls {text : List Char} (h : '\n' ∉ text) :
    '\n' ∉ (stripControls (String.ofList (text ++ ['\n']))).toList.dropLast := by
  unfold stripControls
  rw [String.toList_ofList, String.toList_ofList]
  obtain ⟨front, back, e, hfront, hback⟩ :=
    List.sublist_append_iff.1 (TerminalMode.plain.shown_sublist false (text ++ ['\n']))
  have hnone : '\n' ∉ front := fun hmem => h (hfront.subset hmem)
  rw [e]
  rcases List.sublist_singleton.1 hback with rfl | rfl
  · rw [List.append_nil]
    exact fun hmem => hnone (List.dropLast_subset _ hmem)
  · rwa [List.dropLast_concat]

end Text

namespace Logging

lemma hangMessage_eq_self {message : String} (h : '\n' ∉ message.toList) :
    hangMessage message = message := by
  have hcut : cut '\n' message.toList = [message.toList] := by
    refine cutAt_of_neg fun c hc => ?_
    rw [beq_eq_false_iff_ne]
    rintro rfl
    exact h hc
  unfold hangMessage cutString
  rw [hcut]
  change String.ofList (String.ofList message.toList).toList = message
  rw [String.toList_ofList, String.ofList_toList]

/-- A message on one line is shown on one line. -/
lemma newline_notMem_line {time : Option String} {record : LogRecord}
    (htime : ∀ stamp, time = some stamp → '\n' ∉ stamp.toList)
    (h : '\n' ∉ record.message.toList) : '\n' ∉ (line time record).toList.dropLast := by
  have hstamp : '\n' ∉ ((time.map (· ++ " ")).getD "").toList := by
    cases time with
    | none => decide
    | some stamp =>
      change '\n' ∉ (stamp ++ " ").toList
      rw [String.toList_append, List.mem_append]
      rintro (hmem | hmem)
      · exact htime stamp rfl hmem
      · exact absurd hmem (by decide)
  have hlevel : ∀ level, '\n' ∉ (levelColumn level).toList := by
    intro level
    cases level <;> decide
  have htarget : ∀ source : LogSource, '\n' ∉ source.target.toList := by
    intro source
    cases source <;> decide
  have htext : '\n' ∉ ("[" ++ (time.map (· ++ " ")).getD "" ++ levelColumn record.level ++ " " ++
      record.source.target ++ "] " ++ record.message).toList := by
    simp only [String.toList_append, List.mem_append, not_or]
    exact ⟨⟨⟨⟨⟨⟨by decide, hstamp⟩, hlevel _⟩, by decide⟩, htarget _⟩, by decide⟩, h⟩
  have hended : ∀ text : String, text ++ "\n" = String.ofList (text.toList ++ ['\n']) := by
    intro text
    exact String.toList_inj.1 (String.toList_append.trans String.toList_ofList.symm)
  unfold line
  rw [hangMessage_eq_self h, hended]
  exact newline_notMem_stripControls htext

end Logging

end Screencast
