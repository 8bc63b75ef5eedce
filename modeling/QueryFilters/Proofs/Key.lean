import Mathlib.Data.List.Infix
import QueryFilters.Key

/-!
# Reading keys back

A key joins the segments of a path and the suffix of a lookup by double underscores, and it is cut
again at the leftmost ones. Joining loses nothing for *tidy* paths, whose segments neither hold a
double underscore nor end in an underscore (`splitOnPair_intercalate`). A key reads as a path and a
lookup if its segments are those of both (`Key.split_eq_iff`), so a key of a tidy path gives the
path and the lookup back (`Key.split_ofTarget`), up to the one ambiguity of a last segment that is
spelled like a lookup.

Dotted paths are cut at every dot, and there the pieces of a text followed by a dot and another text
are the pieces of both (`splitOn_append`).
-/

namespace QueryFilters

namespace Text

/-! ### Cutting at double separators -/

/-- A text without a double separator is its only piece. -/
theorem splitOnPair_eq_singleton {sep : Char} {text : List Char} (h : ¬[sep, sep] <:+: text) :
    splitOnPair sep text = [text] := by
  fun_induction splitOnPair sep text with
  | case1 => rfl
  | case2 c => rfl
  | case3 c d rest hsep ih =>
    obtain ⟨rfl, rfl⟩ := hsep
    exact absurd ⟨[], rest, rfl⟩ h
  | case4 c d rest hsep ih =>
    have hrest : ¬[sep, sep] <:+: d :: rest := fun hinfix => h (List.infix_cons hinfix)
    rw [ih hrest]
    rfl

/-- A piece that holds no double separator and ends in none is cut off at the double separator that
follows it. -/
theorem splitOnPair_append {sep : Char} {piece : List Char} (hpair : ¬[sep, sep] <:+: piece)
    (hend : ¬[sep] <:+ piece) (rest : List Char) :
    splitOnPair sep (piece ++ sep :: sep :: rest) = piece :: splitOnPair sep rest := by
  induction piece with
  | nil => simp [splitOnPair]
  | cons c piece ih =>
    cases piece with
    | nil =>
      have hc : c ≠ sep := by
        rintro rfl
        exact hend (List.suffix_refl [c])
      simp [splitOnPair, consHead, hc]
    | cons d piece =>
      have hsep : ¬(c = sep ∧ d = sep) := by
        rintro ⟨rfl, rfl⟩
        exact hpair ⟨[], piece, rfl⟩
      have hpair' : ¬[sep, sep] <:+: d :: piece := fun h => hpair (List.infix_cons h)
      have hend' : ¬[sep] <:+ d :: piece := fun h => hend (h.trans (List.suffix_cons c _))
      have hcut := ih hpair' hend'
      rw [List.cons_append] at hcut
      rw [List.cons_append, List.cons_append, splitOnPair, if_neg hsep, hcut]
      rfl

/-- Cutting at double separators undoes joining by them, unless a piece holds one or, being followed
by one, ends in a separator. -/
theorem splitOnPair_intercalate {sep : Char} {pieces : List (List Char)} (hne : pieces ≠ [])
    (hpair : ∀ piece ∈ pieces, ¬[sep, sep] <:+: piece)
    (hend : ∀ piece ∈ pieces.dropLast, ¬[sep] <:+ piece) :
    splitOnPair sep ([sep, sep].intercalate pieces) = pieces := by
  induction pieces with
  | nil => exact absurd rfl hne
  | cons piece pieces ih =>
    cases pieces with
    | nil =>
      have hjoin : [sep, sep].intercalate [piece] = piece := by simp [List.intercalate]
      rw [hjoin, splitOnPair_eq_singleton (hpair piece List.mem_cons_self)]
    | cons next more =>
      have hjoin : [sep, sep].intercalate (piece :: next :: more) =
          piece ++ sep :: sep :: [sep, sep].intercalate (next :: more) := by
        simp [List.intercalate]
      rw [hjoin, splitOnPair_append (hpair piece List.mem_cons_self)
        (hend piece (by simp [List.dropLast]))]
      congr 1
      refine ih (List.cons_ne_nil next more) ?_ ?_
      · intro p hp
        exact hpair p (List.mem_cons_of_mem piece hp)
      · intro p hp
        exact hend p (by rw [List.dropLast_cons_cons]; exact List.mem_cons_of_mem piece hp)

/-! ### Cutting at single separators -/

/-- A text without a separator is its only piece. -/
theorem splitOn_eq_singleton {sep : Char} {text : List Char} (h : sep ∉ text) :
    splitOn sep text = [text] := by
  induction text with
  | nil => rfl
  | cons c text ih =>
    rw [List.mem_cons, not_or] at h
    have hc : c ≠ sep := fun heq => h.1 heq.symm
    rw [splitOn, if_neg hc, ih h.2]
    rfl

/-- The pieces of two texts with a separator between them are the pieces of both. -/
theorem splitOn_append (sep : Char) (first second : List Char) :
    splitOn sep (first ++ sep :: second) = splitOn sep first ++ splitOn sep second := by
  induction first with
  | nil => simp [splitOn]
  | cons c first ih =>
    by_cases hc : c = sep
    · simp [splitOn, hc, ih]
    · rw [List.cons_append, splitOn, if_neg hc, ih, splitOn, if_neg hc]
      obtain ⟨piece, pieces, hpieces⟩ := List.exists_cons_of_ne_nil (splitOn_ne_nil sep first)
      rw [hpieces]
      rfl

/-- Cutting at separators undoes joining by them, unless a piece holds one. -/
theorem splitOn_intercalate {sep : Char} {pieces : List (List Char)} (hne : pieces ≠ [])
    (h : ∀ piece ∈ pieces, sep ∉ piece) : splitOn sep ([sep].intercalate pieces) = pieces := by
  induction pieces with
  | nil => exact absurd rfl hne
  | cons piece pieces ih =>
    have hpiece := splitOn_eq_singleton (h piece List.mem_cons_self)
    cases pieces with
    | nil => simpa [List.intercalate] using hpiece
    | cons next more =>
      have hjoin : [sep].intercalate (piece :: next :: more) =
          piece ++ sep :: [sep].intercalate (next :: more) := by
        simp [List.intercalate]
      rw [hjoin, splitOn_append, hpiece,
        ih (List.cons_ne_nil _ _) fun piece hmem => h piece (List.mem_cons_of_mem _ hmem)]
      rfl

end Text

namespace Path

/-- Dots between the segments of a dotted text give the text again. -/
theorem toDotted_ofDotted (text : String) : (ofDotted text).toDotted = text := by
  apply String.toList_injective
  rw [toDotted, ofDotted, String.toList_intercalate]
  simpa [Function.comp_def] using Text.intercalate_splitOn '.' text.toList

/-- A text without dots is its only segment. -/
theorem ofDotted_eq_singleton {text : String} (h : '.' ∉ text.toList) : ofDotted text = [text] := by
  rw [ofDotted, Text.splitOn_eq_singleton h, List.map_cons, List.map_nil, String.ofList_toList]

/-- A dot and another text add the segments of that text. -/
theorem ofDotted_append (first second : String) :
    ofDotted (first ++ "." ++ second) = ofDotted first ++ ofDotted second := by
  have htext : (first ++ "." ++ second).toList = first.toList ++ '.' :: second.toList := by simp
  rw [ofDotted, htext, Text.splitOn_append, List.map_append]
  rfl

/-- The segments of a path are tidy when joining them by double underscores loses nothing: none is
empty, holds a double underscore, or ends in an underscore. -/
def Tidy (path : Path) : Prop :=
  ∀ name ∈ path, name ≠ "" ∧ ¬['_', '_'] <:+: name.toList ∧ ¬['_'] <:+ name.toList

/-- The last of several segments is spelled like no lookup, unless a lookup follows it. -/
def Unambiguous (path : Path) (lookup : Option Lookup) : Prop :=
  lookup = none → 1 < path.length → ∀ l : Lookup, path.getLast? ≠ some l.suffix

/-- Cutting at double underscores undoes joining by them if no segment holds one and none but the
last ends in an underscore. -/
theorem ofTarget_toTarget {path : Path} (hne : path ≠ [])
    (hpair : ∀ name ∈ path, ¬['_', '_'] <:+: name.toList)
    (hend : ∀ name ∈ path.dropLast, ¬['_'] <:+ name.toList) : ofTarget path.toTarget = path := by
  have hpieces : path.map String.toList ≠ [] := by simpa using hne
  have hcut : Text.splitOnPair '_' (['_', '_'].intercalate (path.map String.toList)) =
      path.map String.toList := by
    refine Text.splitOnPair_intercalate hpieces ?_ ?_
    · intro piece hpiece
      obtain ⟨name, hname, rfl⟩ := List.mem_map.1 hpiece
      exact hpair name hname
    · intro piece hpiece
      rw [← List.map_dropLast] at hpiece
      obtain ⟨name, hname, rfl⟩ := List.mem_map.1 hpiece
      exact hend name hname
  have htext : path.toTarget.toList = ['_', '_'].intercalate (path.map String.toList) := by
    rw [toTarget, String.toList_intercalate]
    rfl
  rw [ofTarget, htext, hcut, List.map_map]
  simp [Function.comp_def]

end Path

namespace Lookup

/-- No suffix holds a double underscore. -/
theorem not_pair_infix_suffix (l : Lookup) : ¬['_', '_'] <:+: l.suffix.toList := by
  cases l <;> decide

/-- A text names no lookup when no lookup has it as its suffix. -/
theorem ofSuffix?_eq_none {text : String} (h : ∀ l : Lookup, text ≠ l.suffix) :
    ofSuffix? text = none := by
  cases hl : ofSuffix? text with
  | none => rfl
  | some l => exact absurd (suffix_of_ofSuffix? hl).symm (h l)

end Lookup

namespace Path

/-- The segments of a key: those of its path and the suffix of its lookup. -/
def withSuffix (path : Path) : Option Lookup → Path
  | some l => path ++ [l.suffix]
  | none => path

/-- The segments of a path that another segment or the lookup follows. -/
def followed (path : Path) : Option Lookup → Path
  | some _ => path
  | none => path.dropLast

theorem withSuffix_ne_nil {path : Path} (hne : path ≠ []) (lookup : Option Lookup) :
    path.withSuffix lookup ≠ [] := by
  cases lookup with
  | none => exact hne
  | some l => exact List.append_ne_nil_of_left_ne_nil hne [l.suffix]

/-- All segments of a key are followed but the last. -/
theorem dropLast_withSuffix (path : Path) (lookup : Option Lookup) :
    (path.withSuffix lookup).dropLast = path.followed lookup := by
  cases lookup with
  | none => rfl
  | some l => exact List.dropLast_concat

/-- A suffix adds no double underscore to the segments. -/
theorem forall_mem_withSuffix_iff (path : Path) (lookup : Option Lookup) :
    (∀ name ∈ path.withSuffix lookup, ¬['_', '_'] <:+: name.toList) ↔
      ∀ name ∈ path, ¬['_', '_'] <:+: name.toList := by
  cases lookup with
  | none => exact Iff.rfl
  | some l => simp [withSuffix, or_imp, forall_and, l.not_pair_infix_suffix]

theorem mem_of_mem_followed {path : Path} {lookup : Option Lookup} {name : String}
    (h : name ∈ path.followed lookup) : name ∈ path := by
  cases lookup with
  | none => exact List.mem_of_mem_dropLast h
  | some _ => exact h

end Path

namespace Key

/-- A key is written like the path of its segments. -/
theorem ofTarget_eq_toTarget {path : Path} (hne : path ≠ []) (lookup : Option Lookup) :
    ofTarget path.toTarget lookup = (path.withSuffix lookup).toTarget := by
  cases lookup with
  | none => rfl
  | some l =>
    have hsuffix : [l.suffix] ≠ [] := List.cons_ne_nil _ _
    rw [ofTarget, Path.toTarget, Path.withSuffix, Path.toTarget,
      String.intercalate_append_of_ne_nil hne hsuffix, String.intercalate_singleton]

/-- A key reads as a path and a lookup exactly if its segments are those of the path, with the
suffix of the lookup after them, and the path alone does not read like one with a lookup. -/
theorem split_eq_iff {key : String} {path : Path} {lookup : Option Lookup} :
    split key = (path, lookup) ↔
      path ≠ [] ∧ Path.ofTarget key = path.withSuffix lookup ∧ path.Unambiguous lookup := by
  constructor
  · intro h
    unfold split at h
    dsimp only at h
    split at h
    · next first more l hinit hlast =>
      obtain ⟨rfl, rfl⟩ := Prod.mk.inj h
      obtain ⟨name, hname, hl⟩ := Option.bind_eq_some_iff.1 hlast
      have hsegments : Path.ofTarget key = first :: more ++ [l.suffix] := by
        rw [← hinit, Lookup.suffix_of_ofSuffix? hl, List.dropLast_append_getLast? name hname]
      exact ⟨List.cons_ne_nil first more, hsegments, fun hnone => by cases hnone⟩
    · next hnot =>
      obtain ⟨rfl, rfl⟩ := Prod.mk.inj h
      refine ⟨?_, rfl, ?_⟩
      · simpa [Path.ofTarget] using Text.splitOnPair_ne_nil '_' key.toList
      · intro _ hlength l hlast
        have hinit : (Path.ofTarget key).dropLast ≠ [] := by
          rw [← List.length_pos_iff, List.length_dropLast]
          omega
        obtain ⟨first, more, hcons⟩ := List.exists_cons_of_ne_nil hinit
        refine hnot first more l hcons ?_
        rw [hlast, Option.bind_some, Lookup.ofSuffix?_suffix]
  · rintro ⟨hne, hkey, hlast⟩
    cases lookup with
    | some l =>
      obtain ⟨first, more, rfl⟩ := List.exists_cons_of_ne_nil hne
      rw [split, hkey, Path.withSuffix, List.dropLast_concat, List.getLast?_concat]
      simp only [Option.bind_some, Lookup.ofSuffix?_suffix]
    | none =>
      rw [Path.withSuffix] at hkey
      cases path with
      | nil => exact absurd rfl hne
      | cons first more =>
        cases more with
        | nil => simp [split, hkey]
        | cons second more =>
          have hnone : (first :: second :: more).getLast?.bind Lookup.ofSuffix? = none := by
            rw [List.getLast?_eq_some_getLast hne]
            refine Lookup.ofSuffix?_eq_none fun l hl => ?_
            refine hlast rfl (by simp) l ?_
            rw [List.getLast?_eq_some_getLast hne, hl]
          simp only [split, hkey, hnone, List.dropLast_cons_cons]

/-- A key made of a tidy path and a lookup reads back as both, unless the path alone reads like one
with a lookup. -/
theorem split_ofTarget {path : Path} {lookup : Option Lookup} (hne : path ≠ [])
    (htidy : path.Tidy) (hlast : path.Unambiguous lookup) :
    split (ofTarget path.toTarget lookup) = (path, lookup) := by
  have hpair : ∀ name ∈ path, ¬['_', '_'] <:+: name.toList :=
    fun name hname => (htidy name hname).2.1
  have hend : ∀ name ∈ (path.withSuffix lookup).dropLast, ¬['_'] <:+ name.toList := by
    intro name hname
    rw [Path.dropLast_withSuffix] at hname
    exact (htidy name (Path.mem_of_mem_followed hname)).2.2
  have hsegments : Path.ofTarget (path.withSuffix lookup).toTarget = path.withSuffix lookup :=
    Path.ofTarget_toTarget (Path.withSuffix_ne_nil hne lookup)
      ((Path.forall_mem_withSuffix_iff path lookup).2 hpair) hend
  rw [ofTarget_eq_toTarget hne]
  exact split_eq_iff.2 ⟨hne, hsegments, hlast⟩

/-- No tidy path makes the key of a raw query, whose first segment is empty. -/
theorem ofTarget_ne_raw {path : Path} {lookup : Option Lookup} (hne : path ≠ [])
    (htidy : path.Tidy) (hlast : path.Unambiguous lookup) :
    ofTarget path.toTarget lookup ≠ raw := by
  intro hkey
  have hsplit := split_ofTarget hne htidy hlast
  have hraw : split raw = (["", "raw", ""], none) := by decide
  rw [hkey, hraw] at hsplit
  have hpath : path = ["", "raw", ""] := (congrArg Prod.fst hsplit).symm
  subst hpath
  exact (htidy "" List.mem_cons_self).1 rfl

end Key

end QueryFilters
