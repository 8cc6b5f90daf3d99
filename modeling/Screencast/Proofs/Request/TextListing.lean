import Screencast.Proofs.Listing.Reread
import Screencast.Proofs.Request.Advisory

/-!
The listing as text. Each device has a line, which is its line of the bridge's listing with a note
on audio behind it. The notes can be taken off again, and what is left is a listing with the same
entries, so a reader of the text knows all that the bridge said of the devices.
-/

namespace Screencast

open Session Text

/-! ### Notes on audio -/

namespace Device

/-- What is said of the audio of a device behind its line. -/
def audioNote : Bool → List Char
  | true => " (Audio: Possible)".toList
  | false => " (Audio: Not Possible)".toList

/-- A line without the note at its end, and what the note says. -/
def splitNote (line : List Char) : List Char × Bool :=
  match line.dropSuffix? (audioNote true) with
  | some line => (line, true)
  | none => ((line.dropSuffix? (audioNote false)).getD line, false)

lemma dropSuffix?_append (line note : List Char) :
    (line ++ note).dropSuffix? note = some line :=
  List.dropSuffix?_eq_some_iff.2 ⟨note, rfl, beq_self_eq_true _⟩

/-- Neither note ends in the other one. -/
lemma dropSuffix?_otherNote (line : List Char) :
    (line ++ audioNote false).dropSuffix? (audioNote true) = none := by
  rw [Option.eq_none_iff_forall_ne_some]
  intro before hbefore
  obtain ⟨note, hline, hnote⟩ := List.dropSuffix?_eq_some_iff.1 hbefore
  obtain rfl : note = audioNote true := eq_of_beq hnote
  have hpossible : audioNote true <:+ line ++ audioNote false := ⟨before, hline.symm⟩
  have hnot : audioNote false <:+ line ++ audioNote false := ⟨line, rfl⟩
  have hsuffix : audioNote true <:+ audioNote false :=
    List.suffix_of_suffix_length_le hpossible hnot (by decide)
  exact absurd hsuffix (by decide)

/-- Whichever note a line has, it is told apart from the line. -/
lemma splitNote_append (line : List Char) (hasAudio : Bool) :
    splitNote (line ++ audioNote hasAudio) = (line, hasAudio) := by
  unfold splitNote
  cases hasAudio with
  | true => rw [dropSuffix?_append]
  | false => rw [dropSuffix?_otherNote, dropSuffix?_append, Option.getD_some]

variable (device : Device)

lemma toList_summary :
    device.summary.toList = device.line.toList ++ audioNote device.hasAudio := by
  unfold summary
  rw [String.toList_append]
  cases device.hasAudio <;> rfl

lemma splitNote_summary :
    splitNote device.summary.toList = (device.line.toList, device.hasAudio) := by
  rw [toList_summary, splitNote_append]

/-- A summary is not the line that says that there are no devices: it ends with a bracket. -/
lemma summary_ne_noDevicesMessage : device.summary ≠ noDevicesMessage := by
  intro h
  have hlast : device.summary.toList.getLast? = some ')' := by
    rw [toList_summary]
    cases device.hasAudio
    · rw [List.getLast?_append_of_ne_nil _ (by decide)]
      rfl
    · rw [List.getLast?_append_of_ne_nil _ (by decide)]
      rfl
  rw [h] at hlast
  exact absurd hlast (by decide)

/-- The line of a device in the text, by its level: audio is possible from a level of 30 on. -/
inductive Tells (device : Device) : String → Prop
  | possible {level : ApiLevel} (level_eq : device.level = some level) (late : 30 ≤ level) :
    Tells device (device.line ++ " (Audio: Possible)")
  | notPossible (early : ∀ level, device.level = some level → ¬ 30 ≤ level) :
    Tells device (device.line ++ " (Audio: Not Possible)")

end Device

/-! ### The text of some devices -/

/-- Lines that are written are lines of the output. -/
lemma Session.stdout_writeLines (lines : List String) :
    (writeLines lines).stdout = utf8 (String.ofList (unlines '\n' (lines.map String.toList))) := by
  unfold stdout writeLines utf8 unlines
  rw [String.toList_ofList, List.flatMap_map, List.flatMap_map, List.flatMap_assoc]
  refine List.flatMap_congr fun line _ => ?_
  show (line ++ "\n").toList.flatMap String.utf8EncodeChar = _
  rw [String.toList_append]
  rfl

/-- The listing that is left of a text when the notes are taken off its lines, under a header. -/
def relisted (header : List Char) (text : String) : String :=
  String.ofList <| unlines '\n' <|
    header :: (cut '\n' text.toList).dropLast.map fun line => (Device.splitNote line).1

namespace Request

variable {host : Host} {request : Request} {found : List Device}

lemma stdout_report_nil : (report false []).stdout = utf8 "No devices found.\n" := rfl

/-- Some devices are reported line by line. -/
lemma stdout_report_text (h : found ≠ []) :
    (report false found).stdout =
      utf8 (String.ofList (unlines '\n' (found.map fun device => device.summary.toList))) := by
  have hempty : found.isEmpty = false := by simpa using h
  have hreport : report false found = Session.writeLines (found.map Device.summary) := by
    unfold report
    rw [if_neg Bool.false_ne_true, hempty, if_neg Bool.false_ne_true]
  rw [hreport, stdout_writeLines, List.map_map]
  rfl

section Summaries

variable (h : ∀ device ∈ found, device.entry.Faithful)

include h

/-- Each line of the text is a line: no break stands in the line of a device or in a note. -/
lemma newline_notMem_summary {device : Device} (hdevice : device ∈ found) :
    '\n' ∉ device.summary.toList := by
  intro hmem
  rw [Device.toList_summary] at hmem
  rcases List.mem_append.1 hmem with hmem | hmem
  · exact (h device hdevice).unbroken hmem
  · cases hnote : device.hasAudio <;> rw [hnote] at hmem <;> revert hmem <;> decide

lemma cut_summaries :
    cut '\n' (unlines '\n' (found.map fun device => device.summary.toList)) =
      (found.map fun device => device.summary.toList) ++ [[]] := by
  apply cut_unlines
  intro line hline
  obtain ⟨device, hdevice, rfl⟩ := List.mem_map.1 hline
  exact newline_notMem_summary h hdevice

/-- Without its notes, and under any header, the text is a listing with the same entries. -/
lemma entries_relisted {header : List Char} (hheader : '\n' ∉ header) :
    Listing.entries (relisted header
        (String.ofList (unlines '\n' (found.map fun device => device.summary.toList)))) =
      found.map Device.entry := by
  have hfaithful : ∀ entry ∈ found.map Device.entry, entry.Faithful := by
    intro entry hentry
    obtain ⟨device, hdevice, rfl⟩ := List.mem_map.1 hentry
    exact h device hdevice
  have hlines : (found.map fun device => device.summary.toList).map
      (fun line => (Device.splitNote line).1) =
        (found.map Device.entry).map fun entry => entry.line.toList := by
    simp only [List.map_map]
    refine List.map_congr_left fun device _ => ?_
    exact congrArg Prod.fst device.splitNote_summary
  unfold relisted
  rw [String.toList_ofList, cut_summaries h, List.dropLast_concat, hlines]
  exact Listing.entries_unlines hheader hfaithful

/-- Some devices are never reported by the line that says that there are none. -/
lemma unlines_summaries_ne :
    unlines '\n' (found.map fun device => device.summary.toList) ≠
      "No devices found.\n".toList := by
  intro hmessage
  have hcut := cut_summaries h
  have hmessageCut : cut '\n' "No devices found.\n".toList = [noDevicesMessage.toList] ++ [[]] := by
    decide
  rw [hmessage, hmessageCut, List.append_cancel_right_eq] at hcut
  obtain ⟨device, -, hsummary⟩ := List.map_eq_singleton_iff.1 hcut.symm
  exact device.summary_ne_noDevicesMessage (String.toList_inj.1 hsummary)

end Summaries

/-! ### A run that lists the devices as text -/

lemma faithful_of_mem_found {tool : ToolPath}
    (hvalue : (Bridge.findDevices host tool).value = .ok found) :
    ∀ device ∈ found, device.entry.Faithful := by
  intro device hdevice
  obtain ⟨bridge, -, -, hentries⟩ := Bridge.lists_iff.2 ⟨found, hvalue, rfl⟩
  have hmem : device.entry ∈ found.map Device.entry := List.mem_map_of_mem hdevice
  rw [← hentries] at hmem
  exact Listing.faithful_of_mem_entries hmem

/-- The line of a device that is found tells its level. -/
lemma tells_of_mem_found {tool : ToolPath}
    (hvalue : (Bridge.findDevices host tool).value = .ok found) {device : Device}
    (hdevice : device ∈ found) : device.Tells device.summary := by
  obtain ⟨bridge, hdescribes⟩ := Bridge.describes_of_mem_found hvalue hdevice
  unfold Device.summary
  split
  · next haudio =>
    obtain ⟨level, hlevel, hlate⟩ := hdescribes.audio.1 haudio
    exact .possible hlevel hlate
  · next haudio =>
    refine .notPossible fun level hlevel hlate => ?_
    exact haudio (hdescribes.audio.2 ⟨level, hlevel, hlate⟩)

/-- A run that ends with a list has written the report of the devices that it found. -/
lemma stdout_run_of_listed (hjson : request.json = false)
    (hlisted : (request.run host).value = .ok .listed)
    (hvalue : (Bridge.findDevices host request.bridge).value = .ok found) :
    (request.run host).stdout = (report false found).stdout := by
  cases value_run_eq_ok.1 hlisted with
  | listed check lists ready =>
    rw [stdout_run_of_list check lists hvalue, hjson]

lemma exists_found_of_listed (hlisted : (request.run host).value = .ok .listed) :
    ∃ found, (Bridge.findDevices host request.bridge).value = .ok found := by
  cases value_run_eq_ok.1 hlisted with
  | listed check lists ready =>
    obtain ⟨found, hvalue, -⟩ := Bridge.lists_iff.1 ready
    exact ⟨found, hvalue⟩

/-- The report says that there are no devices exactly where there are none. -/
lemma stdout_report_eq_iff (h : ∀ device ∈ found, device.entry.Faithful) :
    (report false found).stdout = utf8 "No devices found.\n" ↔ found = [] := by
  constructor
  · intro hstdout
    by_contra hne
    have hdecode := congrArg decodeUtf8 hstdout
    rw [stdout_report_text hne, decodeUtf8_utf8, decodeUtf8_utf8] at hdecode
    refine unlines_summaries_ne h ?_
    rw [← hdecode, String.toList_ofList]
  · rintro rfl
    exact stdout_report_nil

/-- Reports that are the same are about the same entries and levels of audio. -/
lemma eq_of_stdout_report_eq {found' : List Device}
    (h : ∀ device ∈ found, device.entry.Faithful)
    (h' : ∀ device ∈ found', device.entry.Faithful)
    (hstdout : (report false found').stdout = (report false found).stdout) :
    found'.map Device.entry = found.map Device.entry ∧
      found'.map Device.hasAudio = found.map Device.hasAudio := by
  by_cases hnil : found = []
  · have hnil' : found' = [] := by
      rw [← stdout_report_eq_iff h', hstdout, stdout_report_eq_iff h]
      exact hnil
    rw [hnil, hnil']
    exact ⟨rfl, rfl⟩
  · have hne' : found' ≠ [] := by
      intro hnil'
      rw [← stdout_report_eq_iff h', hstdout, stdout_report_eq_iff h] at hnil'
      exact hnil hnil'
    have htext := congrArg decodeUtf8 hstdout
    rw [stdout_report_text hnil, stdout_report_text hne', decodeUtf8_utf8, decodeUtf8_utf8] at htext
    constructor
    · have hheader : '\n' ∉ ([] : List Char) := List.not_mem_nil
      have hentries := entries_relisted h' hheader
      rw [htext, entries_relisted h hheader] at hentries
      exact hentries.symm
    · have hsummaries : (found'.map fun device => device.summary.toList) =
          found.map fun device => device.summary.toList := by
        have hcut := cut_summaries h'
        rw [String.ofList_injective htext, cut_summaries h, List.append_cancel_right_eq] at hcut
        exact hcut.symm
      have hnotes := congrArg (List.map fun line => (Device.splitNote line).2) hsummaries
      simpa only [List.map_map, Function.comp_def, Device.splitNote_summary] using hnotes

/-- **The text listing is unambiguous.** A run that lists the devices as text writes one line for
each of them, the line of the bridge's listing and a note on audio that goes by the level, or the
one line that says that there are none. Without the notes, and under any header, the lines are a
listing of the same entries, so runs that write the same list the same entries and notes. -/
theorem text_listing_is_unambiguous (hjson : request.json = false)
    (hlisted : (request.run host).value = .ok .listed) :
    ∃ found, (Bridge.findDevices host request.bridge).value = .ok found ∧
      ((request.run host).stdout = utf8 "No devices found.\n" ↔ found = []) ∧
      (found ≠ [] →
        (∃ lines : List String,
          List.Forall₂ Device.Tells found lines ∧ (∀ line ∈ lines, '\n' ∉ line.toList) ∧
          (request.run host).stdout =
            utf8 (String.ofList (unlines '\n' (lines.map String.toList)))) ∧
        ∀ header, '\n' ∉ header →
          Listing.entries (relisted header (decodeUtf8 (request.run host).stdout)) =
            found.map Device.entry) ∧
      ∀ (other : Host) (request' : Request) (found' : List Device), request'.json = false →
        (request'.run other).value = .ok .listed →
        (Bridge.findDevices other request'.bridge).value = .ok found' →
        (request'.run other).stdout = (request.run host).stdout →
          found'.map Device.entry = found.map Device.entry ∧
            found'.map Device.hasAudio = found.map Device.hasAudio := by
  obtain ⟨found, hvalue⟩ := exists_found_of_listed hlisted
  have hfaithful := faithful_of_mem_found hvalue
  have hstdout := stdout_run_of_listed hjson hlisted hvalue
  refine ⟨found, hvalue, ?_, ?_, ?_⟩
  · rw [hstdout]
    exact stdout_report_eq_iff hfaithful
  · intro hne
    rw [hstdout, stdout_report_text hne, decodeUtf8_utf8]
    refine ⟨⟨found.map Device.summary, ?_, ?_, ?_⟩, fun header => entries_relisted hfaithful⟩
    · rw [List.forall₂_map_right_iff, List.forall₂_same]
      exact fun device => tells_of_mem_found hvalue
    · intro line hline
      obtain ⟨device, hdevice, rfl⟩ := List.mem_map.1 hline
      exact newline_notMem_summary hfaithful hdevice
    · rw [List.map_map]
      rfl
  · intro other request' found' hjson' hlisted' hvalue' hsame
    rw [hstdout, stdout_run_of_listed hjson' hlisted' hvalue'] at hsame
    exact eq_of_stdout_report_eq hfaithful (faithful_of_mem_found hvalue') hsame

/-- The device that is too old for audio has its line in the text, and is read from it again. -/
theorem text_listing_is_unambiguous_old :
    listRequest.json = false ∧ (listRequest.run oldHost).value = .ok .listed ∧
      (listRequest.run oldHost).stdout ≠ utf8 "No devices found.\n" ∧
      Listing.entries (relisted [] (decodeUtf8 (listRequest.run oldHost).stdout)) =
        [⟨"a", none, "a device"⟩] := by
  have ha : Listing.IsSerial (String.ofList ['a']) :=
    Listing.isSerial_singleton (by decide)
  have hentries := Listing.entries_readyLineOf ha (by decide)
  rw [← decodeUtf8_utf8 (String.ofList _)] at hentries
  have hlists : Bridge.Lists oldHost listRequest.bridge _ :=
    ⟨_, runs_bridge_castHost _ _, rfl, hentries⟩
  have hlisted : (listRequest.run oldHost).value = .ok .listed :=
    value_run_eq_ok.2 (.listed asks_listRequest.1 rfl hlists)
  obtain ⟨found, hvalue, hnil, hne, -⟩ := text_listing_is_unambiguous rfl hlisted
  obtain ⟨found', hvalue', hfound⟩ := Bridge.lists_iff.1 hlists
  obtain rfl := Except.ok.inj (hvalue.symm.trans hvalue')
  have hfound_ne : found ≠ [] := by
    rintro rfl
    cases hfound
  refine ⟨rfl, hlisted, fun hstdout => hfound_ne (hnil.1 hstdout), ?_⟩
  rw [(hne hfound_ne).2 [] List.not_mem_nil, hfound]
  rfl

end Request

end Screencast
