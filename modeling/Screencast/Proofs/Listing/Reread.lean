import Screencast.Proofs.Listing.Entries

/-!
Entries read once more. The line that an entry keeps holds all that was read from it, so lines of
entries under a new header are a listing with the same entries.
-/

namespace Screencast.Listing

open Text

/-- An entry is what its own line reports, and that is one line. -/
structure Entry.Faithful (entry : Entry) : Prop where
  unbroken : '\n' ∉ entry.line.toList
  ofWords?_line : Entry.ofWords? entry.line.toList = some entry

variable {entry : Entry}

/-- An entry keeps the line that it is read from, without the blanks around it. -/
lemma line_of_ofWords? {piece : List Char} (h : Entry.ofWords? piece = some entry) :
    entry.line.toList = trim piece := by
  unfold Entry.ofWords? at h
  split at h
  · split at h
    · obtain rfl := Option.some.inj h
      exact String.toList_ofList
    · cases h
  · cases h

lemma faithful_of_ofWords? {piece : List Char} (hbreak : '\n' ∉ piece)
    (h : Entry.ofWords? piece = some entry) : entry.Faithful where
  unbroken hmem := by
    rw [line_of_ofWords? h] at hmem
    exact hbreak (mem_of_mem_trim hmem)
  ofWords?_line := by
    rw [line_of_ofWords? h, ofWords?_trim]
    exact h

/-- The entries of a listing are all of this kind. -/
theorem faithful_of_mem_entries {listing : String} (h : entry ∈ entries listing) :
    entry.Faithful := by
  rw [entries_eq_filterMap_pieces] at h
  obtain ⟨piece, hpiece, hentry⟩ := List.mem_filterMap.1 h
  refine faithful_of_ofWords? ?_ hentry
  intro hbreak
  have hcut : piece ∈ cut '\n' listing.toList := List.mem_of_mem_drop hpiece
  exact absurd (not_of_mem_cutAt hcut '\n' hbreak) (by decide)

/-- **Lines of entries under any header** are a listing with just these entries. -/
theorem entries_unlines {header : List Char} {es : List Entry} (hheader : '\n' ∉ header)
    (h : ∀ entry ∈ es, entry.Faithful) :
    entries (String.ofList (unlines '\n' (header :: es.map fun entry => entry.line.toList))) =
      es := by
  have hlines : ∀ line ∈ header :: es.map fun entry => entry.line.toList, '\n' ∉ line := by
    intro line hline
    rcases List.mem_cons.1 hline with rfl | hline
    · exact hheader
    · obtain ⟨entry, hentry, rfl⟩ := List.mem_map.1 hline
      exact (h entry hentry).unbroken
  have hread : ∀ entry ∈ es, Entry.ofWords? entry.line.toList = some entry :=
    fun entry hentry => (h entry hentry).ofWords?_line
  rw [entries_eq_filterMap_pieces, String.toList_ofList, cut_unlines hlines, List.cons_append,
    List.drop_one, List.tail_cons, List.filterMap_append, List.filterMap_map]
  have hes : es.filterMap (Entry.ofWords? ∘ fun entry => entry.line.toList) = es := by
    conv_rhs => rw [← List.filterMap_some (l := es)]
    exact List.filterMap_congr hread
  rw [hes]
  exact List.append_nil _

end Screencast.Listing
