import Mathlib.Tactic.IntervalCases
import Screencast.Json
import Screencast.Proofs.Json.Reader

/-!
Reading what is printed. Inside a string, no character is taken for the end of the string, and
outside of strings nothing is printed but the parts of the document and the blanks between them, so
the reader gets back the value that the document states.
-/

namespace Screencast.Json

mutual

/-- The value that a document states. -/
def toValue : Json → Value
  | null => .null
  | bool value => .bool value
  | number n => .number n 0
  | string s => .string s
  | array items => .array (toValues items)
  | object members => .object (toMembers members)

/-- The values of the items of an array. -/
def toValues : List Json → List Value
  | [] => []
  | item :: items => item.toValue :: toValues items

/-- The keys and values of the members of an object. -/
def toMembers : List (String × Json) → List (String × Value)
  | [] => []
  | (key, value) :: members => (key, value.toValue) :: toMembers members

end

namespace State

/-! ### Reading in parts -/

lemma run_cons {s t : State} {c : Char} (h : s.step c = some t) (cs : List Char) :
    s.run (c :: cs) = t.run cs := by
  unfold run
  rw [List.foldlM_cons, h]
  rfl

lemma run_append {s t : State} {before : List Char} (h : s.run before = some t)
    (after : List Char) : s.run (before ++ after) = t.run after := by
  unfold run at h ⊢
  rw [List.foldlM_append, h]
  rfl

/-- A character that is neither a blank nor an end begins a value. -/
lemma step_value {c : Char} (hspace : isSpace c = false) (hend : c ≠ ']') (scopes : List Scope) :
    step ⟨.value, scopes⟩ c = begin? scopes c := by
  show stepValue scopes c = begin? scopes c
  unfold stepValue
  rw [hspace, if_neg Bool.false_ne_true]
  split
  · exact absurd rfl hend
  · rfl

lemma run_value {c : Char} {cs : List Char} {scopes : List Scope} {s t : State}
    (hspace : isSpace c = false) (hend : c ≠ ']') (hbegin : begin? scopes c = some s)
    (h : s.run cs = some t) : run ⟨.value, scopes⟩ (c :: cs) = some t := by
  rw [run_cons ((step_value hspace hend scopes).trans hbegin)]
  exact h

/-- Blanks change nothing. -/
def Idle (s : State) : Prop := ∀ c, isSpace c = true → s.step c = some s

lemma idle_value (scopes : List Scope) : Idle ⟨.value, scopes⟩ := by
  intro c hc
  exact if_pos hc

lemma idle_key (members : List (String × Value)) (scopes : List Scope) :
    Idle ⟨.key members, scopes⟩ := by
  intro c hc
  exact if_pos hc

lemma idle_behind (value : Value) (scopes : List Scope) : Idle ⟨.behind value, scopes⟩ := by
  intro c hc
  exact if_pos hc

lemma Idle.run_blanks {s : State} (h : s.Idle) {blanks : List Char}
    (hblanks : ∀ c ∈ blanks, isSpace c = true) (rest : List Char) :
    s.run (blanks ++ rest) = s.run rest := by
  induction blanks with
  | nil => rfl
  | cons c blanks ih =>
    have hc : s.step c = some s := h c (hblanks c (List.mem_cons_self ..))
    rw [List.cons_append, run_cons hc]
    exact ih fun d hd => hblanks d (List.mem_cons_of_mem _ hd)

lemma isSpace_of_mem_newline {depth : Nat} : ∀ c ∈ newline depth, isSpace c = true := by
  intro c hc
  rcases List.mem_cons.1 hc with rfl | hc
  · rfl
  · rw [List.eq_of_mem_replicate hc]
    rfl

lemma Idle.run_newline {s : State} (h : s.Idle) (depth : Nat) (rest : List Char) :
    s.run (newline depth ++ rest) = s.run rest :=
  h.run_blanks isSpace_of_mem_newline rest

end State

/-! ### Strings -/

lemma hexDigit?_digitChar : ∀ d < 16, hexDigit? (Nat.digitChar d) = some d := by decide

/-- The code of a control character is neither half of a pair. -/
lemma ofCode?_toNat {c : Char} (h : c.toNat < 0x20) (before : List Char) :
    Spelling.ofCode? before none c.toNat = some (.plain (c :: before)) := by
  have hhigh : Spelling.isHigh c.toNat = false := by
    unfold Spelling.isHigh
    rw [Bool.and_eq_false_iff, decide_eq_false_iff_not]
    omega
  have hlow : Spelling.isLow c.toNat = false := by
    unfold Spelling.isLow
    rw [Bool.and_eq_false_iff, decide_eq_false_iff_not]
    omega
  unfold Spelling.ofCode?
  dsimp only
  rw [hhigh, hlow, Char.ofNat_toNat]
  rfl

/-- A character that is printed by its code comes back. -/
lemma spell_code {c : Char} (h : c.toNat < 0x20) (before : List Char) :
    ['\\', 'u', '0', '0', Nat.digitChar (c.toNat / 16), Nat.digitChar (c.toNat % 16)].foldlM
      Spelling.next? (.plain before) = some (.plain (c :: before)) := by
  have hfirst : Spelling.next? (.code before none 2 0) (Nat.digitChar (c.toNat / 16)) =
      some (.code before none 1 (c.toNat / 16)) := by
    unfold Spelling.next?
    dsimp only
    rw [hexDigit?_digitChar _ (by omega), Option.bind_some, if_neg (by decide)]
    simp
  have hlast : Spelling.next? (.code before none 1 (c.toNat / 16)) (Nat.digitChar (c.toNat % 16)) =
      some (.plain (c :: before)) := by
    unfold Spelling.next?
    dsimp only
    rw [hexDigit?_digitChar _ (by omega), Option.bind_some, if_pos (by decide), Nat.div_add_mod]
    exact ofCode?_toNat h before
  show (Spelling.next? (.code before none 2 0) (Nat.digitChar (c.toNat / 16)) >>= fun spelling =>
    spelling.next? (Nat.digitChar (c.toNat % 16)) >>= pure) = _
  rw [hfirst]
  show (Spelling.next? _ _ >>= pure) = _
  rw [hlast]
  rfl

/-- **One character.** What is printed for a character inside a string is read as this character. -/
lemma spell_escape (before : List Char) (c : Char) :
    (escape c).foldlM Spelling.next? (.plain before) = some (.plain (c :: before)) := by
  unfold escape
  split
  -- the characters with an escape of their own
  · rfl
  · rfl
  · rfl
  · rfl
  · rfl
  · rfl
  · rfl
  · next hquote hbackslash _ _ _ _ _ =>
    split
    · next hcontrol => exact spell_code hcontrol before
    · next hcontrol =>
      have hnext : Spelling.next? (.plain before) c = some (.plain (c :: before)) := by
        unfold Spelling.next?
        dsimp only
        rw [if_neg hbackslash, if_neg]
        rintro (rfl | h)
        · exact hquote rfl
        · exact hcontrol h
      rw [List.foldlM_cons, hnext]
      rfl

lemma spell_flatMap (before cs : List Char) :
    (cs.flatMap escape).foldlM Spelling.next? (.plain before) =
      some (.plain (cs.reverse ++ before)) := by
  induction cs generalizing before with
  | nil => rfl
  | cons c cs ih =>
    rw [List.flatMap_cons, List.foldlM_append, spell_escape, List.reverse_cons, List.append_assoc]
    exact ih (c :: before)

namespace State

/-- States in which a string is on the way, and the states behind the strings. A string is read in
one way, whether it is a value or a key. -/
structure Spells (inside : Spelling → State) (behind : String → State) : Prop where
  next : ∀ spelling next c, Spelling.next? spelling c = some next →
    (inside spelling).step c = some (inside next)
  close : ∀ before, (inside (.plain before)).step '"' = some (behind (String.ofList before.reverse))

section Spells

variable {inside : Spelling → State} {behind : String → State}

lemma Spells.run_of_foldlM (h : Spells inside behind) {spelling next : Spelling} {cs : List Char}
    (hcs : cs.foldlM Spelling.next? spelling = some next) :
    (inside spelling).run cs = some (inside next) := by
  induction cs generalizing spelling with
  | nil =>
    obtain rfl := Option.some.inj hcs
    rfl
  | cons c cs ih =>
    rw [List.foldlM_cons] at hcs
    obtain ⟨between, hc, hrest⟩ := Option.bind_eq_some_iff.1 hcs
    rw [run_cons (h.next _ _ _ hc)]
    exact ih hrest

/-- A printed string is read up to its closing quote, and not beyond. -/
lemma Spells.run_quoted (h : Spells inside behind) {s : State}
    (hopen : s.step '"' = some (inside (.plain []))) (text : String) :
    s.run (quoted text) = some (behind text) := by
  have hspell := spell_flatMap [] text.toList
  have hclose := h.close text.toList.reverse
  rw [List.append_nil] at hspell
  rw [List.reverse_reverse, String.ofList_toList] at hclose
  unfold quoted
  rw [List.cons_append, run_cons hopen, run_append (h.run_of_foldlM hspell), run_cons hclose]
  rfl

end Spells

lemma spells_string (scopes : List Scope) :
    Spells (fun spelling => ⟨.inString spelling, scopes⟩)
      (fun text => ⟨.behind (.string text), scopes⟩) where
  next spelling next c h := by
    unfold step
    simp only [h]
  close _ := rfl

lemma spells_key (members : List (String × Value)) (scopes : List Scope) :
    Spells (fun spelling => ⟨.inKey members spelling, scopes⟩)
      (fun key => ⟨.colon members key, scopes⟩) where
  next spelling next c h := by
    unfold step
    simp only [h]
  close _ := rfl

lemma run_string (scopes : List Scope) (text : String) :
    run ⟨.value, scopes⟩ (quoted text) = some ⟨.behind (.string text), scopes⟩ :=
  (spells_string scopes).run_quoted (step_value (by decide) (by decide) scopes) text

lemma run_key (members : List (String × Value)) (scopes : List Scope) (key : String) :
    run ⟨.key members, scopes⟩ (quoted key) = some ⟨.colon members key, scopes⟩ := by
  have hopen : step ⟨.key members, scopes⟩ '"' = some ⟨.inKey members (.plain []), scopes⟩ := by
    cases members <;> rfl
  exact (spells_key members scopes).run_quoted hopen key

lemma run_colon (members : List (String × Value)) (scopes : List Scope) (key : String) :
    run ⟨.colon members key, scopes⟩ [':', ' '] =
      some ⟨.value, .object members key :: scopes⟩ := rfl

end State

/-! ### Numerals -/

/-- A numeral that has only a whole part so far. -/
def Numeral.ofNat (n : Nat) : Numeral :=
  { last := if n = 0 then .zero else .whole, negative := false, digits := n }

lemma digit?_digitChar : ∀ d < 10, digit? (Nat.digitChar d) = some d := by decide

/-- One digit more is the last digit of the number. -/
lemma next?_digitChar {n : Nat} (h : 10 ≤ n) :
    (Numeral.ofNat (n / 10)).next? (Nat.digitChar (n % 10)) = some (Numeral.ofNat n) := by
  have hlast : (Numeral.ofNat (n / 10)).last = .whole := if_neg (by omega)
  have hdigits : 10 * (Numeral.ofNat (n / 10)).digits + n % 10 = n := Nat.div_add_mod n 10
  unfold Numeral.next?
  rw [hlast]
  dsimp only
  rw [digit?_digitChar _ (Nat.mod_lt _ (by decide))]
  dsimp only
  rw [hdigits]
  unfold Numeral.ofNat
  rw [if_neg (by omega), if_neg (by omega)]

namespace State

lemma step_digit {d : Nat} (h : d < 10) (scopes : List Scope) :
    step ⟨.value, scopes⟩ (Nat.digitChar d) = some ⟨.inNumeral (Numeral.ofNat d), scopes⟩ := by
  have hspace : ∀ d < 10, isSpace (Nat.digitChar d) = false := by decide
  have hend : ∀ d < 10, Nat.digitChar d ≠ ']' := by decide
  rw [step_value (hspace d h) (hend d h)]
  interval_cases d <;> rfl

/-- The digits of a number are read one by one, from the highest on. -/
lemma run_toDigits (scopes : List Scope) (n : Nat) :
    run ⟨.value, scopes⟩ (Nat.toDigits 10 n) = some ⟨.inNumeral (Numeral.ofNat n), scopes⟩ := by
  induction n using Nat.strongRecOn with
  | ind n ih =>
    by_cases hn : n < 10
    · rw [Nat.toDigits_of_lt_base hn, run_cons (step_digit hn scopes)]
      rfl
    · have hbase : 10 ≤ n := Nat.le_of_not_lt hn
      have hlast : step ⟨.inNumeral (Numeral.ofNat (n / 10)), scopes⟩ (Nat.digitChar (n % 10)) =
          some ⟨.inNumeral (Numeral.ofNat n), scopes⟩ := by
        unfold step
        dsimp only
        rw [next?_digitChar hbase]
      rw [Nat.toDigits_of_base_le (by decide) hbase, run_append (ih _ (by omega)), run_cons hlast]
      rfl

/-- A value ends where its printed form does: nothing that is printed behind it belongs to it. -/
structure Ends (s : State) (value : Value) (scopes : List Scope) : Prop where
  comma : s.step ',' = stepBehind value scopes ','
  newline : s.step '\n' = some ⟨.behind value, scopes⟩
  done : scopes = [] → s.value? = some value

lemma ends_behind (value : Value) (scopes : List Scope) :
    Ends ⟨.behind value, scopes⟩ value scopes where
  comma := rfl
  newline := rfl
  done h := by
    subst h
    rfl

lemma ends_numeral (n : Nat) (scopes : List Scope) :
    Ends ⟨.inNumeral (Numeral.ofNat n), scopes⟩ (.number n 0) scopes := by
  cases n with
  | zero =>
    refine ⟨rfl, rfl, ?_⟩
    rintro rfl
    rfl
  | succ n =>
    refine ⟨rfl, rfl, ?_⟩
    rintro rfl
    rfl

lemma Ends.run_newline {s : State} {value : Value} {scopes : List Scope}
    (h : s.Ends value scopes) (depth : Nat) (rest : List Char) :
    s.run (Json.newline depth ++ rest) = run ⟨.behind value, scopes⟩ rest := by
  have hspaces : ∀ c ∈ List.replicate (2 * depth) ' ', isSpace c = true := fun c hc =>
    isSpace_of_mem_newline c (List.mem_cons_of_mem _ hc)
  unfold Json.newline
  rw [List.cons_append, run_cons h.newline]
  exact (idle_behind value scopes).run_blanks hspaces rest

end State

/-! ### Documents -/

open State

mutual

/-- **A document.** What is printed for a document is read as its value. -/
theorem exists_ends_print (depth : Nat) (scopes : List Scope) :
    ∀ document : Json, ∃ s, run ⟨.value, scopes⟩ (document.print depth) = some s ∧
      s.Ends document.toValue scopes
  | .null => ⟨_, run_value (c := 'n') (by decide) (by decide) rfl rfl, ends_behind ..⟩
  | .bool true => ⟨_, run_value (c := 't') (by decide) (by decide) rfl rfl, ends_behind ..⟩
  | .bool false => ⟨_, run_value (c := 'f') (by decide) (by decide) rfl rfl, ends_behind ..⟩
  | .number n => ⟨_, run_toDigits scopes n, ends_numeral n scopes⟩
  | .string s => ⟨_, run_string scopes s, ends_behind ..⟩
  | .array [] => ⟨_, run_value (c := '[') (by decide) (by decide) rfl rfl, ends_behind ..⟩
  | .array (item :: items) => by
    have hitems := run_printItems (depth + 1) depth [] scopes (item :: items) (List.cons_ne_nil _ _)
    refine ⟨_, ?_, ends_behind ..⟩
    show run ⟨.value, scopes⟩
      ('[' :: printItems (depth + 1) (item :: items) ++ newline depth ++ [']']) = _
    rw [List.cons_append, List.cons_append, List.append_assoc]
    exact run_value (by decide) (by decide) rfl hitems
  | .object [] => ⟨_, run_value (c := '\x7b') (by decide) (by decide) rfl rfl, ends_behind ..⟩
  | .object (member :: members) => by
    have hmembers := run_printMembers (depth + 1) depth [] scopes (member :: members)
      (List.cons_ne_nil _ _)
    refine ⟨_, ?_, ends_behind ..⟩
    show run ⟨.value, scopes⟩
      ('\x7b' :: printMembers (depth + 1) (member :: members) ++ newline depth ++ ['\x7d']) = _
    rw [List.cons_append, List.cons_append, List.append_assoc]
    exact run_value (by decide) (by decide) rfl hmembers

/-- What is printed for the items of an array is read as these, behind the ones before them. -/
theorem run_printItems (depth outer : Nat) (before : List Value) (scopes : List Scope) :
    ∀ items : List Json, items ≠ [] → run ⟨.value, .array before :: scopes⟩
      (printItems depth items ++ (newline outer ++ [']'])) =
        some ⟨.behind (.array (before.reverse ++ toValues items)), scopes⟩
  | [], hne => absurd rfl hne
  | [item], _ => by
    obtain ⟨s, hs, hends⟩ := exists_ends_print depth (.array before :: scopes) item
    unfold printItems
    rw [List.append_assoc, (idle_value _).run_newline, run_append hs, hends.run_newline]
    show some _ = some _
    rw [List.reverse_cons]
    rfl
  | item :: next :: items, _ => by
    obtain ⟨s, hs, hends⟩ := exists_ends_print depth (.array before :: scopes) item
    have hrest := run_printItems depth outer (item.toValue :: before) scopes (next :: items)
      (List.cons_ne_nil _ _)
    unfold printItems
    rw [List.append_assoc, List.append_assoc, (idle_value _).run_newline, run_append hs,
      List.cons_append, run_cons hends.comma, hrest, List.reverse_cons, List.append_assoc]
    rfl

/-- What is printed for the members of an object is read as these, behind the ones before them. -/
theorem run_printMembers (depth outer : Nat) (before : List (String × Value))
    (scopes : List Scope) :
    ∀ members : List (String × Json), members ≠ [] → run ⟨.key before, scopes⟩
      (printMembers depth members ++ (newline outer ++ ['\x7d'])) =
        some ⟨.behind (.object (before.reverse ++ toMembers members)), scopes⟩
  | [], hne => absurd rfl hne
  | [(key, value)], _ => by
    obtain ⟨s, hs, hends⟩ := exists_ends_print depth (.object before key :: scopes) value
    unfold printMembers
    simp only [List.append_assoc]
    rw [(idle_key _ _).run_newline, run_append (run_key ..), run_append (run_colon ..),
      run_append hs, hends.run_newline]
    show some _ = some _
    rw [List.reverse_cons]
    rfl
  | (key, value) :: next :: members, _ => by
    obtain ⟨s, hs, hends⟩ := exists_ends_print depth (.object before key :: scopes) value
    have hrest := run_printMembers depth outer ((key, value.toValue) :: before) scopes
      (next :: members) (List.cons_ne_nil _ _)
    unfold printMembers
    simp only [List.append_assoc, List.cons_append]
    rw [(idle_key _ _).run_newline, run_append (run_key ..)]
    show run _ ([':', ' '] ++ (print depth value ++ _)) = _
    rw [run_append (run_colon ..), run_append hs, run_cons hends.comma, hrest, List.reverse_cons,
      List.append_assoc]
    rfl

end

/-- **What is printed is read.** The printed form of a document is one document, and it has the
value that the document states. -/
theorem read_render (document : Json) : read document.render = some document.toValue := by
  obtain ⟨s, hs, hends⟩ := exists_ends_print 0 [] document
  unfold read render
  rw [String.toList_ofList, hs]
  exact hends.done rfl

end Screencast.Json
