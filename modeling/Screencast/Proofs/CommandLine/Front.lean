import Screencast.Proofs.CommandLine.Written

/-!
A value in front of a command line. Words that leave a setting alone are scanned with a value for it
as they are without, step by step: each step does to the draft what it did before, and the value
stays in it to the end.
-/

namespace Screencast.CommandLine

/-! ### Values of different settings -/

section Draft

variable {value : Value} {draft next : Draft}

lemma put_put_of_ne {other : Value} (h : other.setting ≠ value.setting) (draft : Draft) :
    other.put (value.put draft) = value.put (other.put draft) := by
  cases value <;> cases other <;>
    first
    | rfl
    | exact absurd rfl h

lemma turnOn_put (value : Value) (draft : Draft) (switch : Switch) :
    (value.put draft).turnOn switch = value.put (draft.turnOn switch) := by
  cases value <;> cases switch <;> rfl

/-- A value says nothing of another setting. -/
lemma item?_put_value_of_ne {setting : Setting} (h : value.setting ≠ setting) :
    (value.put draft).item? (.setting setting) = draft.item? (.setting setting) := by
  have hflag : Flag.setting setting ≠ (Item.set value).flag := fun heq =>
    h (Flag.setting.inj heq).symm
  exact item?_put_of_ne hflag

/-- A text that is set for another setting is set beside the value. -/
lemma set_put {setting : Setting} {text : String} (hset : draft.set setting text = .ok next)
    (hfree : next.item? (.setting value.setting) = none) :
    setting ≠ value.setting ∧ draft.item? (.setting value.setting) = none ∧
      (value.put draft).set setting text = .ok (value.put next) := by
  unfold Draft.set at hset
  split at hset
  · cases hset
  next hunset =>
  rw [assign_eq_map_read] at hset
  obtain ⟨other, hread, rfl⟩ := Text.map_eq_ok_iff.1 hset
  have hother : other.setting = setting := setting_of_read hread
  -- a draft with the other value would say something under its setting
  have hne : other.setting ≠ value.setting := by
    intro heq
    have hself : (other.put draft).item? (.setting other.setting) = some (.set other) :=
      item?_put_self (.set other)
    rw [heq, hfree] at hself
    cases hself
  have hbefore : (other.put draft).item? (.setting value.setting) =
      draft.item? (.setting value.setting) := item?_put_value_of_ne hne
  have hhas : (value.put draft).hasSetting setting = draft.hasSetting setting := by
    rw [hasSetting_eq, hasSetting_eq, ← hother, item?_put_value_of_ne hne.symm]
  refine ⟨hother ▸ hne, hbefore.symm.trans hfree, ?_⟩
  unfold Draft.set
  rw [hhas, if_neg hunset, assign_eq_map_read, hread]
  exact congrArg Except.ok (put_put_of_ne hne draft)

/-- A switch is turned on beside the value. -/
lemma switch_put {switch : Switch} (hswitch : draft.switch switch = .ok next)
    (hfree : next.item? (.setting value.setting) = none) :
    draft.item? (.setting value.setting) = none ∧
      (value.put draft).switch switch = .ok (value.put next) := by
  unfold Draft.switch at hswitch
  split at hswitch
  · cases hswitch
  next hoff =>
  obtain rfl := Except.ok.inj hswitch
  have hne : Flag.switch switch ≠ .setting value.setting := nofun
  have hbefore : (Item.put draft (.on switch)).item? (.setting value.setting) =
      draft.item? (.setting value.setting) := item?_put_of_ne hne.symm
  have hhas : (Item.put draft (.set value)).item? (.switch switch) =
      draft.item? (.switch switch) := item?_put_of_ne hne
  refine ⟨hbefore.symm.trans hfree, ?_⟩
  rw [hasSwitch_eq, ← hhas] at hoff
  unfold Draft.switch
  rw [hasSwitch_eq, ← turnOn_put]
  exact if_neg hoff

end Draft

/-! ### Steps that leave a setting alone -/

namespace Scan

/-- The setting neither has a value nor is open. -/
structure Leaves (scan : Scan) (setting : Setting) : Prop where
  unset : scan.draft.item? (.setting setting) = none
  notAwaited : scan.pending ≠ .awaiting setting
  notGiven : ∀ text, scan.pending ≠ .given setting text

/-- The scan with a value in its draft. -/
def put (scan : Scan) (value : Value) : Scan := { scan with draft := value.put scan.draft }

/-- A step carries a value if it goes on with the value as it does without it, wherever it leaves
the setting of the value alone. -/
def Carries (value : Value) (step : Scan → Except Stop Scan) : Prop :=
  ∀ scan next, step scan = .ok next → next.Leaves value.setting →
    scan.Leaves value.setting ∧ step (scan.put value) = .ok (next.put value)

variable {value : Value} {scan last : Scan} {words extra : List String}

lemma Carries.bind {step step' : Scan → Except Stop Scan} (h : Carries value step)
    (h' : Carries value step') : Carries value fun scan => (step scan).bind step' := by
  intro scan next hnext hleaves
  obtain ⟨middle, hstep, hstep'⟩ := bind_eq_ok_iff.1 hnext
  obtain ⟨hmiddle, hput'⟩ := h' middle next hstep' hleaves
  obtain ⟨hscan, hput⟩ := h scan middle hstep hmiddle
  exact ⟨hscan, bind_eq_ok_iff.2 ⟨_, hput, hput'⟩⟩

lemma carries_ok (value : Value) : Carries value .ok := by
  intro scan next hnext hleaves
  obtain rfl := Except.ok.inj hnext
  exact ⟨hleaves, rfl⟩

/-- A step that stops has nothing to carry. -/
lemma carries_error (value : Value) (stop : Scan → Stop) :
    Carries value fun scan => .error (stop scan) := by
  intro scan next hnext
  cases hnext

/-- What is open is settled beside the value. -/
lemma settle_put {draft : Draft} (hsettle : scan.settle = .ok draft)
    (hfree : draft.item? (.setting value.setting) = none) :
    scan.Leaves value.setting ∧ (scan.put value).settle = .ok (value.put draft) := by
  rcases scan with ⟨before, pending⟩
  cases pending with
  | nothing =>
    obtain rfl := Except.ok.inj hsettle
    exact ⟨⟨hfree, nofun, nofun⟩, rfl⟩
  | awaiting setting => cases hsettle
  | given setting text =>
    obtain ⟨hne, hbefore, hput⟩ := set_put hsettle hfree
    refine ⟨⟨hbefore, nofun, ?_⟩, hput⟩
    intro text' heq
    exact hne (Pending.given.inj heq).1

/-! ### One word -/

lemma carries_await (value : Value) (setting : Setting) :
    Carries value fun scan => scan.await setting := by
  intro scan next hnext hleaves
  dsimp only [await] at hnext ⊢
  split at hnext
  · next draft hsettle =>
    obtain rfl := Except.ok.inj hnext
    obtain ⟨hscan, hput⟩ := settle_put hsettle hleaves.unset
    refine ⟨hscan, ?_⟩
    rw [hput]
    rfl
  · cases hnext

/-- A text is set after what was open, and both beside the value. -/
lemma carries_assign (value : Value) (setting : Setting) (text : String) :
    Carries value fun scan => scan.assign setting text := by
  intro scan next hnext hleaves
  dsimp only [assign] at hnext ⊢
  split at hnext
  · next draft hdraft =>
    obtain rfl := Except.ok.inj hnext
    obtain ⟨settled, hsettle, hset⟩ := bind_eq_ok_iff.1 hdraft
    obtain ⟨-, hfree, hput⟩ := set_put hset hleaves.unset
    obtain ⟨hscan, hsettle'⟩ := settle_put hsettle hfree
    refine ⟨hscan, ?_⟩
    rw [bind_eq_ok_iff.2 ⟨_, hsettle', hput⟩]
    rfl
  · cases hnext

lemma carries_flip (value : Value) (switch : Switch) :
    Carries value fun scan => scan.flip switch := by
  intro scan next hnext hleaves
  dsimp only [flip] at hnext ⊢
  split at hnext
  · next draft hdraft =>
    obtain rfl := Except.ok.inj hnext
    obtain ⟨settled, hsettle, hswitch⟩ := bind_eq_ok_iff.1 hdraft
    obtain ⟨hfree, hput⟩ := switch_put hswitch hleaves.unset
    obtain ⟨hscan, hsettle'⟩ := settle_put hsettle hfree
    refine ⟨hscan, ?_⟩
    rw [bind_eq_ok_iff.2 ⟨_, hsettle', hput⟩]
    rfl
  · cases hnext

/-- A word of its own goes to the setting that waits for it. -/
lemma carries_plain (value : Value) (word : String) :
    Carries value fun scan => scan.plain word := by
  intro scan next hnext hleaves
  rcases scan with ⟨draft, pending⟩
  cases pending with
  | awaiting setting =>
    obtain rfl := Except.ok.inj hnext
    refine ⟨⟨hleaves.unset, ?_, nofun⟩, rfl⟩
    intro heq
    rw [Pending.awaiting.inj heq] at hleaves
    exact hleaves.notGiven word rfl
  | nothing | given => cases hnext

lemma carries_long (value : Value) (name : String) (value? : Option String) :
    Carries value fun scan => scan.long name value? := by
  unfold long
  cases Flag.ofName? name with
  | none => exact carries_error value _
  | some flag =>
    cases value? with
    | none =>
      cases flag with
      | setting setting => exact carries_await value setting
      | switch switch => exact carries_flip value switch
      | help | version => exact carries_error value _
    | some text =>
      cases flag with
      | setting setting => exact carries_assign value setting text
      | switch | help | version => exact carries_error value _

lemma carries_attach (value : Value) (setting : Setting) (letters : List Char) :
    Carries value fun scan => scan.attach setting letters := by
  unfold attach
  split
  · exact carries_await value setting
  · exact carries_assign value setting _
  · exact carries_assign value setting _

lemma letters_of_switch {letter : Char} {switch : Switch}
    (h : Flag.ofLetter? letter = some (.switch switch)) (rest : List Char) (scan : Scan) :
    scan.letters (letter :: rest) = (scan.flip switch).bind fun scan => scan.letters rest := by
  simp only [Scan.letters, h]
  rcases scan.flip switch with stop | scan <;> rfl

/-- The letters of switches are steps one after the other, and that of a setting is the last. -/
lemma carries_letters (value : Value) (letters : List Char) :
    Carries value fun scan => scan.letters letters := by
  induction letters with
  | nil => exact carries_ok value
  | cons letter rest ih =>
    rcases hflag : Flag.ofLetter? letter with _ | (setting | switch | _ | _)
    case some.switch =>
      simp only [letters_of_switch hflag]
      exact (carries_flip value switch).bind ih
    case some.setting =>
      simp only [Scan.letters, hflag]
      exact carries_attach value setting rest
    case none =>
      simp only [Scan.letters, hflag]
      exact carries_error value _
    case some.help | some.version =>
      simp only [Scan.letters, hflag]
      exact carries_error value _

lemma carries_read (value : Value) (word : String) : Carries value fun scan => scan.read word := by
  unfold read
  cases Word.ofString word with
  | ending => exact carries_ok value
  | long name value? => exact carries_long value name value?
  | short letters => exact carries_letters value letters
  | plain => exact carries_plain value word

/-! ### All words -/

/-- Words that leave the setting alone are scanned beside the value. -/
lemma run_put (hrun : scan.run words = .ok (last, extra)) (hleaves : last.Leaves value.setting) :
    scan.Leaves value.setting ∧ (scan.put value).run words = .ok (last.put value, extra) := by
  -- the last scan leaves the setting alone, and so do, from behind, all scans before it
  induction words generalizing scan with
  | nil =>
    cases hrun
    exact ⟨hleaves, rfl⟩
  | cons word words ih =>
    by_cases hdashes : word = "--"
    · subst hdashes
      cases hrun
      exact ⟨hleaves, rfl⟩
    · rw [run_cons_of_ne hdashes] at hrun ⊢
      obtain ⟨next, hread, hrest⟩ := bind_eq_ok_iff.1 hrun
      obtain ⟨hnext, hput'⟩ := ih hrest
      obtain ⟨hscan, hput⟩ := carries_read value word scan next hread hnext
      exact ⟨hscan, bind_eq_ok_iff.2 ⟨_, hput, hput'⟩⟩

/-- The first word sets its value. -/
lemma assign_start {setting : Setting} {text : String} :
    assign {} setting text =
      match Value.read setting text with
      | .ok value => .ok (put {} value)
      | .error error => .error (.usage error) := by
  have hset : (settle {}).bind (·.set setting text) =
      (Value.read setting text).map fun value => value.put {} := by
    rw [← assign_eq_map_read]
    cases setting <;> rfl
  unfold assign
  rw [hset]
  rcases Value.read setting text with error | value <;> rfl

end Scan

/-! ### The words of a command line -/

section Parse

variable {env : Environment} {words : List String} {setting : Setting} {text : String}

/-- A value that cannot be read in front is what is wrong with the words. -/
lemma parse_cons_of_error {error : UsageError} (h : Value.read setting text = .error error) :
    parse env (("--" ++ setting.name ++ "=" ++ text) :: words) = .error (.usage error) := by
  unfold parse
  rw [Scan.run_setting_value, Scan.assign_start, h]
  rfl

/-- A value in front of words that leave its setting alone is put into their draft. -/
lemma parse_cons_iff {value : Value} (hread : Value.read setting text = .ok value)
    {last : Scan} {extra : List String} {draft : Draft}
    (hrun : Scan.run {} words = .ok (last, extra)) (hsettle : last.settle = .ok draft)
    (hfree : draft.item? (.setting setting) = none) {request : Request} :
    parse env (("--" ++ setting.name ++ "=" ++ text) :: words) = .ok request ↔
      (value.put draft).complete env extra = .ok request := by
  rw [← setting_of_read hread] at hfree
  obtain ⟨hlast, hsettle'⟩ := Scan.settle_put hsettle hfree
  obtain ⟨-, hrun'⟩ := Scan.run_put hrun hlast
  have hwords : Scan.run {} (("--" ++ setting.name ++ "=" ++ text) :: words) =
      .ok (last.put value, extra) := by
    rw [Scan.run_setting_value, Scan.assign_start, hread]
    exact hrun'
  rw [parse_eq_ok_iff]
  constructor
  · rintro ⟨scan, extra', draft', hscan, hdraft, hcomplete⟩
    obtain ⟨rfl, rfl⟩ := Prod.mk.inj (Except.ok.inj (hwords.symm.trans hscan))
    obtain rfl := Except.ok.inj (hsettle'.symm.trans hdraft)
    exact hcomplete
  · intro hcomplete
    exact ⟨_, _, _, hwords, hsettle', hcomplete⟩

end Parse

end Screencast.CommandLine
