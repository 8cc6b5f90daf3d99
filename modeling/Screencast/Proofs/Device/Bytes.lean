import Screencast.Proofs.Device.Devices
import Screencast.Proofs.Listing.Entries
import Screencast.Proofs.Text.Lines

/-!
The devices of a bridge that writes arbitrary bytes. Each line of the listing is an entry or nothing
by its own bytes: what is damaged in one line stays in that line, and no bytes make the listing as a
whole fail.
-/

namespace Screencast

open Text

namespace Listing

/-- The entry of a line that is read on its own, from its bytes. -/
def Entry.ofBytes? (line : List UInt8) : Option Entry :=
  if mayReport (trimString (decodeUtf8 line)) then Entry.ofLine? (decodeUtf8 line) else none

lemma ofBytes?_eq {line : List UInt8} (h : '\n' ∉ Utf8State.boundary.read line) :
    Entry.ofBytes? line = Entry.ofWords? (Utf8State.boundary.read line) := by
  have htrim : trimString (decodeUtf8 line) = String.ofList (trim (Utf8State.boundary.read line)) := by
    unfold trimString decodeUtf8
    rw [String.toList_ofList]
  have hline := ofLine?_trim h
  unfold Entry.ofBytes?
  rw [← hline, ← ofLine?_trimString, htrim]

/-- **The entries of a listing in bytes**: each line behind the first line break counts by its own
bytes, in the order of the lines. -/
lemma entries_decodeUtf8 (bytes : List UInt8) :
    entries (decodeUtf8 bytes) = ((cut 10 bytes).drop 1).filterMap Entry.ofBytes? := by
  obtain ⟨header, lines, e⟩ := List.exists_cons_of_ne_nil (cutAt_ne_nil (· == 10) bytes)
  have hcut : cut 10 bytes = header :: lines := e
  have hread : cut '\n' (Utf8State.boundary.read bytes) =
      Utf8State.boundary.read header :: lines.map Utf8State.boundary.read := by
    rw [cut_newline_read, hcut, List.map_cons]
  have hclean : ∀ line ∈ Utf8State.boundary.read header :: lines.map Utf8State.boundary.read,
      '\n' ∉ line := by
    intro line hline hbreak
    rw [← hread] at hline
    exact absurd (not_of_mem_cutAt hline '\n' hbreak) (by decide)
  have hbytes : decodeUtf8 bytes =
      String.ofList (join ['\n']
        (Utf8State.boundary.read header :: lines.map Utf8State.boundary.read)) := by
    rw [← hread, join_cut]
    rfl
  rw [hbytes, entries_join hclean, hcut, List.drop_one, List.tail_cons, List.filterMap_map]
  refine List.filterMap_congr fun line hline => (ofBytes?_eq ?_).symm
  exact hclean _ (List.mem_cons_of_mem _ (List.mem_map_of_mem hline))

end Listing

namespace Bridge

/-- **Damage stays in its line.** Whatever bytes the bridge answers, the devices are those of its
lines behind the first one, each read from its own bytes and at most one from each line, in the
order of the lines. The only failure is that of the bridge itself. -/
theorem devices_line_by_line (host : Host) (bridge : Bridge) :
    (devices host bridge).value.map (List.map Device.entry) =
      (host.respond bridge.path listArgs).map fun response =>
        ((cut 10 response.stdout).drop 1).filterMap Listing.Entry.ofBytes? := by
  rw [value_devices, Host.value_capture]
  rcases host.respond bridge.path listArgs with failure | response
  · rfl
  · simp only [Except.map]
    rw [entries_identify, Listing.entries_decodeUtf8]

/-- A sequence that breaks off at the end of a line takes nothing from the next line. -/
example : ((cut 10 (utf8 "List" ++ 10 :: utf8 "a device b" ++ 0xE2 :: 10 :: utf8 "c device")).drop
    1).filterMap Listing.Entry.ofBytes? =
      [⟨"a", none, "a device b\ufffd"⟩, ⟨"c", none, "c device"⟩] := by
  cbv

end Bridge

end Screencast
