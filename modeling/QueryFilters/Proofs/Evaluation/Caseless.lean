import QueryFilters.Evaluation
import QueryFilters.Proofs.Text.Lowercase

/-!
# Lookups of text that ignore case

A lookup that ignores case compares the lower case of a text with that of a pattern, each of them
lowercased by itself. For equality this loses no match. A pattern that may stand among other letters
loses matches exactly if its lower case depends on them, at a side where the lookup lets them stand
(`Evaluation.addsMatches_iff`); a pattern without a capital sigma never does.
-/

namespace QueryFilters

namespace Text

/-- The characters of a text in lower case. -/
theorem toList_lowercase (text : String) : (lowercase text).toList = lowercaseFrom [] text.toList :=
  String.toList_ofList

/-- A part of a text stands somewhere in it. -/
theorem hasPart_iff {part text : List Char} : hasPart part text = true ↔ part <:+: text := by
  induction text with
  | nil => rw [hasPart, List.isEmpty_iff, List.infix_nil]
  | cons c text ih =>
    rw [hasPart, Bool.or_eq_true, ih, List.isPrefixOf_iff_prefix, List.infix_cons_iff]

end Text

namespace Evaluation

/-- Every stored value that matches a pattern as one lookup asks matches it as the other does. -/
def AddsMatches (l l' : Lookup) (pattern : String) : Prop :=
  ∀ stored, matchesText stored (.string pattern) l = true →
    matchesText stored (.string pattern) l' = true

variable {l l' : Lookup} {pattern : String}

/-- An attribute that passes a test passes every weaker one. -/
theorem anyElement_mono {test test' : Value → Bool}
    (h : ∀ value, test value = true → test' value = true)
    {actual : Option Value} (hpass : anyElement test actual = true) :
    anyElement test' actual = true := by
  rcases actual with _ | value
  · cases hpass
  cases value with
  | list items =>
    rw [anyElement, List.any_eq_true] at hpass ⊢
    obtain ⟨item, hitem, htest⟩ := hpass
    exact ⟨item, hitem, h item htest⟩
  | _ => exact h _ hpass

/-- A lookup adds matches when it does among texts. -/
theorem addsMatches_iff_of_texts : AddsMatches l l' pattern ↔
    ∀ text, textMatches l text pattern = true → textMatches l' text pattern = true := by
  constructor
  · intro h text
    exact h (some (.string text))
  · intro h stored
    refine anyElement_mono fun value hvalue => ?_
    rw [Option.any_eq_true] at hvalue ⊢
    obtain ⟨text, htext, hmatch⟩ := hvalue
    exact ⟨text, htext, h text hmatch⟩

/-- A text that begins with a pattern does so ignoring case, unless a letter that follows makes a
difference to the pattern. -/
theorem addsMatches_startsWith_iff :
    AddsMatches .startsWith .istartsWith pattern ↔ ¬Text.DependsOnAfter pattern.toList := by
  simp only [addsMatches_iff_of_texts, textMatches, Text.toList_lowercase,
    List.isPrefixOf_iff_prefix]
  constructor
  · intro h hafter
    refine Text.not_isInfix_of_dependsOnAfter hafter ?_
    have hown := h (String.ofList (pattern.toList ++ ['a']))
    rw [String.toList_ofList] at hown
    exact (hown (List.prefix_append _ _)).isInfix
  · intro hafter text h
    exact Text.lowercaseFrom_isPrefix hafter h

/-- A text that ends with a pattern does so ignoring case, unless a letter that precedes it makes a
difference to the pattern. -/
theorem addsMatches_endsWith_iff :
    AddsMatches .endsWith .iendsWith pattern ↔ ¬Text.DependsOnBefore pattern.toList := by
  simp only [addsMatches_iff_of_texts, textMatches, Text.toList_lowercase,
    List.isSuffixOf_iff_suffix]
  constructor
  · intro h hbefore
    refine Text.not_isInfix_of_dependsOnBefore hbefore ?_
    have hown := h (String.ofList ('a' :: pattern.toList))
    rw [String.toList_ofList] at hown
    exact (hown (List.suffix_cons _ _)).isInfix
  · intro hbefore text h
    exact Text.lowercaseFrom_isSuffix hbefore h

/-- A text in which a pattern occurs holds it ignoring case, unless a letter on either side makes a
difference to the pattern. -/
theorem addsMatches_contains_iff :
    AddsMatches .contains .icontains pattern ↔
      ¬Text.DependsOnBefore pattern.toList ∧ ¬Text.DependsOnAfter pattern.toList := by
  simp only [addsMatches_iff_of_texts, textMatches, Text.toList_lowercase, Text.hasPart_iff]
  constructor
  · intro h
    refine ⟨fun hbefore => ?_, fun hafter => ?_⟩
    · have hown := h (String.ofList ('a' :: pattern.toList))
      rw [String.toList_ofList] at hown
      exact Text.not_isInfix_of_dependsOnBefore hbefore
        (hown (List.suffix_cons _ _).isInfix)
    · have hown := h (String.ofList (pattern.toList ++ ['a']))
      rw [String.toList_ofList] at hown
      exact Text.not_isInfix_of_dependsOnAfter hafter
        (hown (List.prefix_append _ _).isInfix)
  · rintro ⟨hbefore, hafter⟩ text h
    exact Text.lowercaseFrom_isInfix hbefore hafter h

/-- A text that equals a pattern equals it ignoring case. -/
theorem addsMatches_exact : AddsMatches .exact .iexact pattern := by
  rw [addsMatches_iff_of_texts]
  intro text h
  obtain rfl : text = pattern := by simpa [textMatches] using h
  simp [textMatches]

/-- Ignoring case only adds matches of a pattern, whatever is stored, as long as no letter that the
lookup lets stand next to the pattern makes a difference to its lower case. Where one does, some
text matches only if case counts. Equality lets none stand there. -/
theorem addsMatches_iff (pattern : String) :
    AddsMatches .exact .iexact pattern ∧
    (AddsMatches .contains .icontains pattern ↔
      ¬Text.DependsOnBefore pattern.toList ∧ ¬Text.DependsOnAfter pattern.toList) ∧
    (AddsMatches .startsWith .istartsWith pattern ↔ ¬Text.DependsOnAfter pattern.toList) ∧
    (AddsMatches .endsWith .iendsWith pattern ↔ ¬Text.DependsOnBefore pattern.toList) :=
  ⟨addsMatches_exact, addsMatches_contains_iff, addsMatches_startsWith_iff,
    addsMatches_endsWith_iff⟩

/-- Ignoring case loses a match: a sigma is final at the end of the pattern, but not in the text. -/
theorem not_addsMatches_startsWith :
    ¬∀ (stored : Option Value) (pattern : String),
      matchesText stored (.string pattern) .startsWith = true →
        matchesText stored (.string pattern) .istartsWith = true := by
  intro h
  have hmatch := h (some (.string "ΑΣΑ")) "ΑΣ"
  revert hmatch
  decide +kernel

/-- A pattern without a capital sigma does not depend on the letters around it. -/
theorem addsMatches_of_not_mem {pattern : String} (h : 'Σ' ∉ pattern.toList) :
    AddsMatches .contains .icontains pattern ∧ AddsMatches .startsWith .istartsWith pattern ∧
      AddsMatches .endsWith .iendsWith pattern := by
  have hbefore : ¬Text.DependsOnBefore pattern.toList := by
    rintro ⟨a, b, hpattern, -, -⟩
    exact h (hpattern ▸ List.mem_append_right a List.mem_cons_self)
  have hafter : ¬Text.DependsOnAfter pattern.toList := by
    rintro ⟨a, b, hpattern, -, -⟩
    exact h (hpattern ▸ List.mem_append_right a List.mem_cons_self)
  exact ⟨addsMatches_contains_iff.2 ⟨hbefore, hafter⟩, addsMatches_startsWith_iff.2 hafter,
    addsMatches_endsWith_iff.2 hbefore⟩

end Evaluation

end QueryFilters
