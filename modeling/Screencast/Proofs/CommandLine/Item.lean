import Screencast.CommandLine.Parse
import Screencast.Proofs.Text.Numeral

/-!
What a request asks for, item by item: a value of a setting, or a switch that is on. A draft is made
of such items as well, and an item that is put into a draft changes no other one.
-/

namespace Screencast.CommandLine

/-! ### Items -/

/-- A value of a setting. -/
inductive Value where
  | serial (text : String)
  | videoCodec (text : String)
  | maxSize (limit : UInt32)
  | maxFps (limit : UInt32)
  | keyboard (mode : Keyboard)
  | bridge (path : ToolPath)
  | castTool (path : ToolPath)
deriving DecidableEq, Repr

namespace Value

/-- The setting that the value belongs to. -/
def setting : Value → Setting
  | serial _ => .serial
  | videoCodec _ => .videoCodec
  | maxSize _ => .maxSize
  | maxFps _ => .maxFps
  | keyboard _ => .keyboard
  | bridge _ => .bridge
  | castTool _ => .castTool

/-- The value as a text. Numbers are in decimal. -/
def text : Value → String
  | serial text => text
  | videoCodec text => text
  | maxSize limit => Text.decimal limit.toNat
  | maxFps limit => Text.decimal limit.toNat
  | keyboard mode => mode.name
  | bridge path => path.text
  | castTool path => path.text

/-- The draft with the value, whatever it had before. -/
def put (draft : Draft) : Value → Draft
  | serial text => { draft with serial := some text }
  | videoCodec text => { draft with videoCodec := some text }
  | maxSize limit => { draft with maxSize := some limit }
  | maxFps limit => { draft with maxFps := some limit }
  | keyboard mode => { draft with keyboard := some mode }
  | bridge path => { draft with bridge := some path }
  | castTool path => { draft with castTool := some path }

/-- Of all values, only the paths of tools must not be empty. -/
def Fits : Value → Prop
  | bridge path => path.text ≠ ""
  | castTool path => path.text ≠ ""
  | _ => True

end Value

/-- One thing that a request asks for. -/
inductive Item where
  | set (value : Value)
  | on (switch : Switch)
deriving DecidableEq, Repr

namespace Item

/-- The flag that stands for the item. -/
def flag : Item → Flag
  | set value => .setting value.setting
  | on switch => .switch switch

/-- The draft with the item. -/
def put (draft : Draft) : Item → Draft
  | set value => value.put draft
  | on switch => draft.turnOn switch

/-- The item is one that can be read. -/
def Fits : Item → Prop
  | set value => value.Fits
  | on _ => True

end Item

/-- A switch that is on is an item. -/
def switchItem? (isOn : Bool) (switch : Switch) : Option Item :=
  if isOn then some (.on switch) else none

/-- What a draft says under a flag. -/
def Draft.item? (draft : Draft) : Flag → Option Item
  | .setting .serial => draft.serial.map fun text => .set (.serial text)
  | .setting .videoCodec => draft.videoCodec.map fun text => .set (.videoCodec text)
  | .setting .maxSize => draft.maxSize.map fun limit => .set (.maxSize limit)
  | .setting .maxFps => draft.maxFps.map fun limit => .set (.maxFps limit)
  | .setting .keyboard => draft.keyboard.map fun mode => .set (.keyboard mode)
  | .setting .bridge => draft.bridge.map fun path => .set (.bridge path)
  | .setting .castTool => draft.castTool.map fun path => .set (.castTool path)
  | .switch .noAudio => switchItem? draft.noAudio .noAudio
  | .switch .listDevices => switchItem? draft.listDevices .listDevices
  | .switch .json => switchItem? draft.json .json
  | .switch .verbose => switchItem? draft.verbose .verbose
  | .help => none
  | .version => none

/-! ### Putting items into a draft -/

section Put

variable {draft : Draft} {flag : Flag}

lemma switchItem?_eq_some {isOn : Bool} {switch : Switch} {item : Item} :
    switchItem? isOn switch = some item ↔ isOn = true ∧ item = .on switch := by
  unfold switchItem?
  cases isOn <;> simp [eq_comm]

lemma isSome_switchItem? (isOn : Bool) (switch : Switch) :
    (switchItem? isOn switch).isSome = isOn := by
  cases isOn <;> rfl

/-- A draft has a setting if it says something under it. -/
lemma hasSetting_eq (draft : Draft) (setting : Setting) :
    draft.hasSetting setting = (draft.item? (.setting setting)).isSome := by
  cases setting <;> exact Option.isSome_map.symm

lemma hasSwitch_eq (draft : Draft) (switch : Switch) :
    draft.hasSwitch switch = (draft.item? (.switch switch)).isSome := by
  cases switch <;> exact (isSome_switchItem? ..).symm

/-- The item that is put into a draft is what the draft says under its flag. -/
lemma item?_put_self (item : Item) : (item.put draft).item? item.flag = some item := by
  rcases item with (_ | _) | (_ | _) <;> rfl

/-- Under all other flags it says what it said before. -/
lemma item?_put_of_ne {item : Item} (h : flag ≠ item.flag) :
    (item.put draft).item? flag = draft.item? flag := by
  rcases item with (_ | _) | (_ | _) <;> rcases flag with (_ | _) | (_ | _) | _ | _ <;>
    first
    | rfl
    | exact absurd rfl h

/-- Items whose flags are others leave a draft what it says under a flag. -/
lemma item?_foldl_put_of_notMem {items : List Item} (h : flag ∉ items.map Item.flag) :
    (items.foldl Item.put draft).item? flag = draft.item? flag := by
  induction items generalizing draft with
  | nil => rfl
  | cons item items ih =>
    simp only [List.map_cons, List.mem_cons, not_or] at h
    rw [List.foldl_cons, ih h.2, item?_put_of_ne h.1]

/-- **Items of different flags** are all in the draft in the end, in whatever order they come. -/
theorem item?_foldl_put {items : List Item} (hnodup : (items.map Item.flag).Nodup) {item : Item}
    (h : item ∈ items) : (items.foldl Item.put draft).item? item.flag = some item := by
  induction items generalizing draft with
  | nil => exact absurd h List.not_mem_nil
  | cons first items ih =>
    rw [List.map_cons, List.nodup_cons] at hnodup
    rw [List.foldl_cons]
    rcases List.mem_cons.1 h with rfl | h
    · rw [item?_foldl_put_of_notMem hnodup.1, item?_put_self]
    · exact ih hnodup.2 h

lemma item?_empty (flag : Flag) : ({} : Draft).item? flag = none := by
  rcases flag with (_ | _) | (_ | _) | _ | _ <;> rfl

/-- A draft made of items of different flags says what they say, and nothing else. -/
lemma item?_foldl_put_iff {items : List Item} (hnodup : (items.map Item.flag).Nodup)
    {item : Item} :
    (items.foldl Item.put {}).item? flag = some item ↔ item ∈ items ∧ item.flag = flag := by
  constructor
  · intro h
    by_cases hmem : flag ∈ items.map Item.flag
    · obtain ⟨found, hfound, rfl⟩ := List.mem_map.1 hmem
      rw [item?_foldl_put hnodup hfound] at h
      obtain rfl := Option.some.inj h
      exact ⟨hfound, rfl⟩
    · rw [item?_foldl_put_of_notMem hmem, item?_empty] at h
      cases h
  · rintro ⟨hmem, rfl⟩
    exact item?_foldl_put hnodup hmem

end Put

/-! ### Reading the text of a value -/

/-- A limit is read from what spells its number. -/
lemma readLimit_eq_ok_iff {text : String} {limit : UInt32} :
    readLimit text = .ok limit ↔ Text.SpellsInteger text.toList limit.toNat := by
  have hsize : limit.toNat < UInt32.size := limit.toNat_lt_size
  have hlargest : UInt32.size ≤ largestNumber := by decide
  unfold readLimit
  constructor
  · intro h
    split at h
    · cases h
    next value hread =>
    split at h
    · next hrange =>
      obtain ⟨hspells, -, -⟩ := Text.readInteger_eq_ok_iff.1 hread
      have hlimit : limit.toNat = value.toNat := by
        rw [← Except.ok.inj h]
        exact UInt32.toNat_ofNat_of_lt hrange.2
      have hvalue : (limit.toNat : Int) = value := by
        rw [hlimit]
        exact Int.toNat_of_nonneg hrange.1
      rwa [hvalue]
    · cases h
  · intro hspells
    have hread : Text.readInteger largestNumber text.toList = .ok (limit.toNat : Int) :=
      Text.readInteger_eq_ok_iff.2 ⟨hspells, by omega, by omega⟩
    rw [hread]
    dsimp only
    rw [if_pos ⟨Int.natCast_nonneg _, hsize⟩]
    exact congrArg Except.ok UInt32.ofNat_toNat

/-- The decimal form of a number of 32 bits is read as the number. -/
lemma readLimit_decimal (limit : UInt32) : readLimit (Text.decimal limit.toNat) = .ok limit := by
  rw [readLimit_eq_ok_iff, Text.decimal, String.toList_ofList]
  exact .natural (Text.spellsNatural_toDigits _)

lemma readKeyboard_name (mode : Keyboard) : readKeyboard mode.name = .ok mode := by
  cases mode <;> decide

lemma readPath_text (setting : Setting) {path : ToolPath} (h : path.text ≠ "") :
    readPath setting path.text = .ok path := if_neg h

/-- The value of a setting that a text stands for. -/
def Value.read (setting : Setting) (text : String) : Except UsageError Value :=
  match setting with
  | .serial => .ok (.serial text)
  | .videoCodec => .ok (.videoCodec text)
  | .maxSize =>
    match readLimit text with
    | .ok limit => .ok (.maxSize limit)
    | .error error => .error (.invalidNumber .maxSize text error)
  | .maxFps =>
    match readLimit text with
    | .ok limit => .ok (.maxFps limit)
    | .error error => .error (.invalidNumber .maxFps text error)
  | .keyboard => (readKeyboard text).map .keyboard
  | .bridge => (readPath .bridge text).map .bridge
  | .castTool => (readPath .castTool text).map .castTool

/-- Assigning is reading and then putting. -/
lemma assign_eq_map_read (draft : Draft) (setting : Setting) (text : String) :
    draft.assign setting text = (Value.read setting text).map fun value => value.put draft := by
  unfold Draft.assign Value.read
  cases setting with
  | serial | videoCodec => rfl
  | maxSize | maxFps => rcases readLimit text with error | limit <;> rfl
  | keyboard => rcases readKeyboard text with error | mode <;> rfl
  | bridge => rcases readPath .bridge text with error | path <;> rfl
  | castTool => rcases readPath .castTool text with error | path <;> rfl

lemma setting_of_read {setting : Setting} {text : String} {value : Value}
    (h : Value.read setting text = .ok value) : value.setting = setting := by
  have hmap {α : Type} {x : Except UsageError α} {f : α → Value} (hx : x.map f = .ok value)
      (hf : ∀ a, (f a).setting = setting) : value.setting = setting := by
    obtain ⟨a, -, rfl⟩ := Text.map_eq_ok_iff.1 hx
    exact hf a
  unfold Value.read at h
  cases setting with
  | serial | videoCodec =>
    obtain rfl := Except.ok.inj h
    rfl
  | maxSize | maxFps =>
    dsimp only at h
    split at h
    · obtain rfl := Except.ok.inj h
      rfl
    · cases h
  | keyboard | bridge | castTool => exact hmap h fun _ => rfl

/-- The text of a value stands for the value. -/
lemma read_text {value : Value} (h : value.Fits) :
    Value.read value.setting value.text = .ok value := by
  cases value with
  | serial text | videoCodec text => rfl
  | maxSize limit | maxFps limit =>
    unfold Value.read Value.setting Value.text
    rw [readLimit_decimal]
  | keyboard mode =>
    show (readKeyboard mode.name).map _ = _
    rw [readKeyboard_name]
    rfl
  | bridge path | castTool path =>
    show (readPath _ path.text).map _ = _
    rw [readPath_text _ h]
    rfl

lemma assign_text (draft : Draft) {value : Value} (h : value.Fits) :
    draft.assign value.setting value.text = .ok (value.put draft) := by
  rw [assign_eq_map_read, read_text h]
  rfl

/-- A value is set where its setting has none yet. -/
lemma set_text {draft : Draft} {value : Value} (hfits : value.Fits)
    (hfree : draft.item? (.setting value.setting) = none) :
    draft.set value.setting value.text = .ok (value.put draft) := by
  have hset : draft.hasSetting value.setting = false := by
    rw [hasSetting_eq, hfree]
    rfl
  unfold Draft.set
  rw [hset, if_neg Bool.false_ne_true, assign_text draft hfits]

/-- A switch is turned on where it is off. -/
lemma switch_of_free {draft : Draft} {switch : Switch}
    (hfree : draft.item? (.switch switch) = none) :
    draft.switch switch = .ok (draft.turnOn switch) := by
  have hswitch : draft.hasSwitch switch = false := by
    rw [hasSwitch_eq, hfree]
    rfl
  unfold Draft.switch
  rw [hswitch, if_neg Bool.false_ne_true]

end Screencast.CommandLine

/-! ### The items of a request -/

namespace Screencast.Request

open CommandLine

/-- What a request asks for under a flag. A setting without a value and a switch that is off are no
item. -/
def item? (request : Request) : Flag → Option Item
  | .setting .serial => request.serial.map fun text => .set (.serial text)
  | .setting .videoCodec => request.videoCodec.map fun text => .set (.videoCodec text)
  | .setting .maxSize => request.maxSize.map fun limit => .set (.maxSize limit)
  | .setting .maxFps => request.maxFps.map fun limit => .set (.maxFps limit)
  | .setting .keyboard => some (.set (.keyboard request.keyboard))
  | .setting .bridge => some (.set (.bridge request.bridge))
  | .setting .castTool => some (.set (.castTool request.castTool))
  | .switch .noAudio => switchItem? request.noAudio .noAudio
  | .switch .listDevices => switchItem? request.listDevices .listDevices
  | .switch .json => switchItem? request.json .json
  | .switch .verbose => switchItem? request.verbose .verbose
  | .help => none
  | .version => none

/-- All that a request asks for, but for the extra arguments. -/
def items (request : Request) : List Item := Flag.all.filterMap request.item?

variable {request : Request} {flag : Flag} {item : Item}

/-- An item under a flag stands for that flag. -/
lemma flag_item? (h : request.item? flag = some item) : item.flag = flag := by
  rcases flag with (_ | _) | (_ | _) | _ | _ <;>
    simp only [item?, Option.map_eq_some_iff, switchItem?_eq_some, Option.some.injEq,
      reduceCtorEq] at h
  case setting.serial | setting.videoCodec | setting.maxSize | setting.maxFps =>
    obtain ⟨_, -, rfl⟩ := h
    rfl
  case setting.keyboard | setting.bridge | setting.castTool =>
    subst h
    rfl
  case switch.noAudio | switch.listDevices | switch.json | switch.verbose =>
    obtain ⟨-, rfl⟩ := h
    rfl

lemma item?_eq_some_iff :
    request.item? flag = some item ↔ item ∈ request.items ∧ item.flag = flag := by
  unfold items
  rw [List.mem_filterMap]
  constructor
  · intro h
    exact ⟨⟨flag, Flag.mem_all _, h⟩, flag_item? h⟩
  · rintro ⟨⟨flag', -, h⟩, rfl⟩
    rw [flag_item? h]
    exact h

/-- No two items of a request stand for one flag. -/
lemma nodup_items : (request.items.map Item.flag).Nodup := by
  have hsublist : (request.items.map Item.flag).Sublist Flag.all := by
    unfold items
    generalize Flag.all = flags
    induction flags with
    | nil => exact List.Sublist.slnil
    | cons flag flags ih =>
      rcases hitem : request.item? flag with _ | item
      · rw [List.filterMap_cons_none hitem]
        exact ih.cons _
      · rw [List.filterMap_cons_some hitem, List.map_cons, flag_item? hitem]
        exact ih.cons_cons _
  exact hsublist.nodup (by decide)

/-- All items of a request can be read if the paths of its tools are not empty. -/
lemma fits_of_mem_items (hbridge : request.bridge.text ≠ "")
    (hcastTool : request.castTool.text ≠ "") (hmem : item ∈ request.items) : item.Fits := by
  have h : request.item? item.flag = some item := item?_eq_some_iff.2 ⟨hmem, rfl⟩
  rcases item with (text | text | limit | limit | mode | path | path) | switch
  case set.bridge =>
    obtain rfl : request.bridge = path := by simpa [item?, Item.flag, Value.setting] using h
    exact hbridge
  case set.castTool =>
    obtain rfl : request.castTool = path := by simpa [item?, Item.flag, Value.setting] using h
    exact hcastTool
  all_goals trivial

end Screencast.Request
