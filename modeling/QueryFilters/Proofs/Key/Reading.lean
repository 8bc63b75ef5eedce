import QueryFilters.Proofs.Key

/-!
# Which keys read back

The segments that a cut at double underscores gives are not arbitrary: none holds a double
underscore, and only the last may end in an underscore. Conversely `Path.ofTarget_toTarget` gives
such segments back, so they are exactly the paths that survive being joined and cut again
(`Path.ofTarget_toTarget_eq_iff`).

A key reads as a path and a lookup exactly if it has the segments of both (`Key.split_eq_iff`).
Hence a key reads back as what it was made from unless the last segment is spelled like a lookup, or
a segment that another one or the lookup follows ends in an underscore
(`Key.split_ofTarget_eq_iff`): its underscore is then taken for the first of the two that separate
it from what follows.
-/

namespace QueryFilters

namespace Text

/-- The first piece of a cut begins the text. -/
theorem firstPiece_isPrefix_text {sep : Char} {text piece : List Char} {pieces : List (List Char)}
    (h : splitOnPair sep text = piece :: pieces) : piece <+: text := by
  have hjoin := intercalate_splitOnPair sep text
  rw [h] at hjoin
  cases pieces with
  | nil => exact ⟨[], by simpa [List.intercalate] using hjoin⟩
  | cons next more =>
    refine ⟨[sep, sep] ++ [sep, sep].intercalate (next :: more), ?_⟩
    simpa [List.intercalate] using hjoin

/-- No piece of a cut holds a double separator. -/
theorem not_pair_infix_of_mem_splitOnPair {sep : Char} {text piece : List Char}
    (h : piece ∈ splitOnPair sep text) : ¬[sep, sep] <:+: piece := by
  fun_induction splitOnPair sep text generalizing piece with
  | case1 => simp_all
  | case2 c =>
    obtain rfl := List.mem_singleton.1 h
    intro hpair
    have := hpair.length_le
    simp at this
  | case3 c d rest hsep ih =>
    rcases List.mem_cons.1 h with rfl | h
    · simp
    · exact ih h
  | case4 c d rest hsep ih =>
    obtain ⟨first, pieces, hcut⟩ := List.exists_cons_of_ne_nil (splitOnPair_ne_nil sep (d :: rest))
    rw [hcut] at h ih
    rcases List.mem_cons.1 h with rfl | h
    · -- The piece begins with `c`, and what follows in it is the text from `d` on.
      intro hpair
      rcases List.infix_cons_iff.1 hpair with hstart | hrest
      · obtain ⟨rfl, hnext⟩ := List.cons_prefix_cons.1 hstart
        have hd : [sep] <+: d :: rest := hnext.trans (firstPiece_isPrefix_text hcut)
        exact hsep ⟨rfl, (List.cons_prefix_cons.1 hd).1.symm⟩
      · exact ih List.mem_cons_self hrest
    · exact ih (List.mem_cons_of_mem first h)

/-- Only the last piece of a cut may end in a separator. -/
theorem not_sep_suffix_of_mem_dropLast_splitOnPair {sep : Char} {text piece : List Char}
    (h : piece ∈ (splitOnPair sep text).dropLast) : ¬[sep] <:+ piece := by
  fun_induction splitOnPair sep text generalizing piece with
  | case1 => cases h
  | case2 c => cases h
  | case3 c d rest hsep ih =>
    rw [List.dropLast_cons_of_ne_nil (splitOnPair_ne_nil sep rest)] at h
    rcases List.mem_cons.1 h with rfl | h
    · simp
    · exact ih h
  | case4 c d rest hsep ih =>
    obtain ⟨first, pieces, hcut⟩ := List.exists_cons_of_ne_nil (splitOnPair_ne_nil sep (d :: rest))
    rw [hcut] at h ih
    cases pieces with
    | nil => cases h
    | cons next more =>
      rw [consHead, List.dropLast_cons_cons] at h
      rw [List.dropLast_cons_cons] at ih
      rcases List.mem_cons.1 h with rfl | h
      · cases first with
        | nil =>
          -- An empty piece in front of another one stands before a separator.
          have hjoin := intercalate_splitOnPair sep (d :: rest)
          rw [hcut, intercalate_nil_cons _ (List.cons_ne_nil next more)] at hjoin
          have hd : d = sep := (List.cons.inj hjoin).1.symm
          intro hend
          have hc : sep = c := by simpa using hend.mem List.mem_cons_self
          exact hsep ⟨hc.symm, hd⟩
        | cons e first =>
          intro hend
          rcases List.suffix_cons_iff.1 hend with heq | hend
          · cases heq
          · exact ih List.mem_cons_self hend
      · exact ih (List.mem_cons_of_mem first h)

end Text

namespace Path

/-- A text has segments. -/
theorem ofTarget_ne_nil (text : String) : ofTarget text ≠ [] := by
  simpa [ofTarget] using Text.splitOnPair_ne_nil '_' text.toList

/-- No segment of a text holds a double underscore. -/
theorem not_pair_infix_of_mem_ofTarget {text name : String} (h : name ∈ ofTarget text) :
    ¬['_', '_'] <:+: name.toList := by
  obtain ⟨piece, hpiece, rfl⟩ := List.mem_map.1 h
  rw [String.toList_ofList]
  exact Text.not_pair_infix_of_mem_splitOnPair hpiece

/-- Only the last segment of a text may end in an underscore. -/
theorem not_underscore_suffix_of_mem_dropLast_ofTarget {text name : String}
    (h : name ∈ (ofTarget text).dropLast) : ¬['_'] <:+ name.toList := by
  rw [ofTarget, ← List.map_dropLast] at h
  obtain ⟨piece, hpiece, rfl⟩ := List.mem_map.1 h
  rw [String.toList_ofList]
  exact Text.not_sep_suffix_of_mem_dropLast_splitOnPair hpiece

/-- Joining segments by double underscores and cutting again gives them back exactly if they are the
segments of some text: no segment holds a double underscore and none but the last ends in an
underscore. -/
theorem ofTarget_toTarget_eq_iff {path : Path} :
    ofTarget path.toTarget = path ↔
      path ≠ [] ∧ (∀ name ∈ path, ¬['_', '_'] <:+: name.toList) ∧
        ∀ name ∈ path.dropLast, ¬['_'] <:+ name.toList := by
  constructor
  · intro h
    refine ⟨?_, ?_, ?_⟩
    · intro hnil
      exact ofTarget_ne_nil path.toTarget (h.trans hnil)
    · intro name hname
      rw [← h] at hname
      exact not_pair_infix_of_mem_ofTarget hname
    · intro name hname
      rw [← h] at hname
      exact not_underscore_suffix_of_mem_dropLast_ofTarget hname
  · rintro ⟨hne, hpair, hend⟩
    exact ofTarget_toTarget hne hpair hend

end Path

namespace Key

/-- The key of a path and a lookup reads back as both exactly if the path has segments, none of them
holds a double underscore, none that another segment or the lookup follows ends in an underscore,
and the path alone does not read like one with a lookup. -/
theorem split_ofTarget_eq_iff (path : Path) (lookup : Option Lookup) :
    split (ofTarget path.toTarget lookup) = (path, lookup) ↔
      path ≠ [] ∧ (∀ name ∈ path, ¬['_', '_'] <:+: name.toList) ∧
        (∀ name ∈ path.followed lookup, ¬['_'] <:+ name.toList) ∧ path.Unambiguous lookup := by
  rw [split_eq_iff]
  refine and_congr_right fun hne => ?_
  rw [ofTarget_eq_toTarget hne, Path.ofTarget_toTarget_eq_iff, Path.forall_mem_withSuffix_iff,
    Path.dropLast_withSuffix, and_assoc, and_assoc]
  exact and_iff_right (Path.withSuffix_ne_nil hne lookup)

/-- A segment that ends in an underscore and is followed is not read back, though it is neither
empty nor holds a double underscore. -/
theorem not_split_ofTarget_of_underscore :
    ¬∀ (path : Path) (lookup : Option Lookup), path ≠ [] →
      (∀ name ∈ path, name ≠ "" ∧ ¬['_', '_'] <:+: name.toList) → path.Unambiguous lookup →
        split (ofTarget path.toTarget lookup) = (path, lookup) := by
  intro h
  have hnames : ∀ name ∈ ["from_"], name ≠ "" ∧ ¬['_', '_'] <:+: name.toList := by decide
  have hread := h ["from_"] (some .gte) (List.cons_ne_nil _ _) hnames fun hnone => by cases hnone
  have hsplit : split (ofTarget (Path.toTarget ["from_"]) (some .gte)) =
      (["from", "_gte"], none) := by decide +kernel
  rw [hsplit] at hread
  have hlookup : (none : Option Lookup) = some .gte := congrArg Prod.snd hread
  cases hlookup

/-- No other way to read keys would give such segments back: two paths may have the same key. -/
example : ofTarget (Path.toTarget ["from_"]) (some .gte) =
    ofTarget (Path.toTarget ["from", "_gte"]) none := by
  decide +kernel

end Key

end QueryFilters
