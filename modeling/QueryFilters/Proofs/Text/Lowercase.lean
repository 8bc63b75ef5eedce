import Mathlib.Data.List.Forall2
import QueryFilters.Text.Lowercase

/-!
# The lower case of the pieces of a text

Of all characters only the capital sigma takes a lower case that depends on its neighbours: it has a
final form after a letter with case and before none. So a piece of a text may have another lower
case than it has by itself (`Text.lowercaseWithin`), but only if one of its sigmas has none but case
ignorable characters between itself and an end of the piece (`Text.DependsOnBefore`,
`Text.DependsOnAfter`). Every such piece does have another one in some text: with a letter at that
end, there is one final sigma less, or one more (`Text.count_lt_of_dependsOnAfter`,
`Text.count_lt_of_dependsOnBefore`).
-/

namespace QueryFilters.Text

/-! ### Neighbours -/

/-- A case ignorable character does not count. -/
theorem meetsCased_cons_of_isCaseIgnorable {c : Char} (hc : isCaseIgnorable c = true)
    (text : List Char) : meetsCased (c :: text) = meetsCased text := by
  rw [meetsCased, List.dropWhile_cons_of_pos hc, meetsCased]

/-- The first character that is not case ignorable decides. -/
theorem meetsCased_cons_of_not_isCaseIgnorable {c : Char} (hc : isCaseIgnorable c = false)
    (text : List Char) : meetsCased (c :: text) = isCased c := by
  rw [meetsCased, List.dropWhile_cons_of_neg (Bool.eq_false_iff.1 hc), List.head?_cons,
    Option.any_some]

/-- Behind case ignorable characters, what counts is what follows them. -/
theorem meetsCased_append (text more : List Char) :
    meetsCased (text ++ more) =
      if text.all isCaseIgnorable then meetsCased more else meetsCased text := by
  induction text with
  | nil => rfl
  | cons c text ih =>
    rw [List.cons_append, List.all_cons]
    rcases hc : isCaseIgnorable c with _ | _
    · rw [meetsCased_cons_of_not_isCaseIgnorable hc, meetsCased_cons_of_not_isCaseIgnorable hc]
      rfl
    · rw [meetsCased_cons_of_isCaseIgnorable hc, meetsCased_cons_of_isCaseIgnorable hc, ih,
        Bool.true_and]

/-- Case ignorable characters have no case to count. -/
theorem meetsCased_of_all {text : List Char} (h : text.all isCaseIgnorable = true) :
    meetsCased text = false := by
  have happend := meetsCased_append text []
  rwa [List.append_nil, if_pos h] at happend

/-- A letter with case still counts with more behind it. -/
theorem meetsCased_append_of_meetsCased {text : List Char} (h : meetsCased text = true)
    (more : List Char) : meetsCased (text ++ more) = true := by
  rw [meetsCased_append, if_neg, h]
  intro hall
  rw [meetsCased_of_all hall] at h
  cases h

/-- A sigma is final after a letter with case and before none. -/
theorem lowercaseSigma_eq_final_iff {before after : List Char} :
    lowercaseSigma before after = 'ς' ↔ meetsCased before = true ∧ meetsCased after = false := by
  rw [lowercaseSigma]
  rcases meetsCased before with _ | _ <;> rcases meetsCased after with _ | _ <;> decide

/-- A sigma is not final after no letter with case or before one. -/
theorem lowercaseSigma_eq_other_iff {before after : List Char} :
    lowercaseSigma before after = 'σ' ↔ meetsCased before = false ∨ meetsCased after = true := by
  rw [lowercaseSigma]
  rcases meetsCased before with _ | _ <;> rcases meetsCased after with _ | _ <;> decide

/-- A sigma that is final before more is final by itself. -/
theorem lowercaseSigma_of_append_after {before after more : List Char}
    (h : lowercaseSigma before (after ++ more) = 'ς') : lowercaseSigma before after = 'ς' := by
  rw [lowercaseSigma_eq_final_iff] at h ⊢
  refine ⟨h.1, Bool.eq_false_iff.2 fun hafter => ?_⟩
  rw [meetsCased_append_of_meetsCased hafter] at h
  cases h.2

/-- A sigma that is not final behind more is not final by itself. -/
theorem lowercaseSigma_of_append_before {before after more : List Char}
    (h : lowercaseSigma (before ++ more) after = 'σ') : lowercaseSigma before after = 'σ' := by
  rw [lowercaseSigma_eq_other_iff] at h ⊢
  refine h.imp_left fun hmore => Bool.eq_false_iff.2 fun hbefore => ?_
  rw [meetsCased_append_of_meetsCased hbefore] at hmore
  cases hmore

/-! ### Pieces of a text -/

/-- The lower case of a piece of a text, where `before` holds the characters in front of it, nearest
first, and `after` those behind it. -/
def lowercaseWithin (before after : List Char) : List Char → List Char
  | [] => []
  | c :: rest =>
    if c = 'Σ' then
      lowercaseSigma before (rest ++ after) :: lowercaseWithin (c :: before) after rest
    else if c = 'İ' then 'i' :: '\u0307' :: lowercaseWithin (c :: before) after rest
    else simpleLowercase c :: lowercaseWithin (c :: before) after rest

/-- A text is lowercased piece by piece, each among its neighbours. -/
theorem lowercaseFrom_append (before piece after : List Char) :
    lowercaseFrom before (piece ++ after) =
      lowercaseWithin before after piece ++ lowercaseFrom (piece.reverse ++ before) after := by
  induction piece generalizing before with
  | nil => rfl
  | cons c piece ih =>
    rw [List.cons_append, lowercaseFrom, lowercaseWithin, ih, List.reverse_cons, List.append_assoc,
      List.singleton_append]
    split
    · rfl
    · split <;> rfl

/-- A piece is lowercased piece by piece as well. -/
theorem lowercaseWithin_append (before after first second : List Char) :
    lowercaseWithin before after (first ++ second) =
      lowercaseWithin before (second ++ after) first ++
        lowercaseWithin (first.reverse ++ before) after second := by
  induction first generalizing before with
  | nil => rfl
  | cons c first ih =>
    rw [List.cons_append, lowercaseWithin, lowercaseWithin, ih, List.reverse_cons,
      List.append_assoc, List.append_assoc, List.singleton_append]
    split
    · rfl
    · split <;> rfl

/-- Without neighbours, a piece is a text. -/
theorem lowercaseFrom_eq_lowercaseWithin (before text : List Char) :
    lowercaseFrom before text = lowercaseWithin before [] text := by
  have happend := lowercaseFrom_append before text []
  rwa [lowercaseFrom, List.append_nil, List.append_nil] at happend

/-- Where a piece stands among other neighbours, characters other than the capital sigma keep their
lower case. -/
theorem forall₂_lowercaseWithin {R : Char → Char → Prop} (hrefl : ∀ c, R c c)
    {before before' after after' piece : List Char}
    (hsigma : ∀ a b, piece = a ++ 'Σ' :: b →
      R (lowercaseSigma (a.reverse ++ before) (b ++ after))
        (lowercaseSigma (a.reverse ++ before') (b ++ after'))) :
    List.Forall₂ R (lowercaseWithin before after piece) (lowercaseWithin before' after' piece) := by
  induction piece generalizing before before' with
  | nil => exact .nil
  | cons c piece ih =>
    have hrest : List.Forall₂ R (lowercaseWithin (c :: before) after piece)
        (lowercaseWithin (c :: before') after' piece) := by
      refine ih fun a b hpiece => ?_
      have hown := hsigma (c :: a) b (by rw [hpiece, List.cons_append])
      rwa [List.reverse_cons, List.append_assoc, List.append_assoc] at hown
    rw [lowercaseWithin, lowercaseWithin]
    split
    · next hc =>
      subst hc
      exact .cons (hsigma [] piece rfl) hrest
    · split
      · exact .cons (hrefl _) (.cons (hrefl _) hrest)
      · exact .cons (hrefl _) hrest

/-! ### Pieces whose lower case depends on their neighbours -/

/-- Between a capital sigma and the end of the piece there are none but case ignorable characters,
and a letter with case comes before the sigma: what follows the piece decides whether it is final.
-/
def DependsOnAfter (piece : List Char) : Prop :=
  ∃ a b, piece = a ++ 'Σ' :: b ∧ meetsCased a.reverse = true ∧ b.all isCaseIgnorable = true

/-- Between the start of the piece and a capital sigma there are none but case ignorable characters,
and no letter with case comes behind the sigma: what precedes the piece decides whether it is
final. -/
def DependsOnBefore (piece : List Char) : Prop :=
  ∃ a b, piece = a ++ 'Σ' :: b ∧ a.all isCaseIgnorable = true ∧ meetsCased b = false

/-- A piece has its own lower case among all neighbours on which it does not depend. -/
theorem lowercaseWithin_eq {before after piece : List Char}
    (hbefore : before = [] ∨ ¬DependsOnBefore piece) (hafter : after = [] ∨ ¬DependsOnAfter piece) :
    lowercaseWithin before after piece = lowercaseFrom [] piece := by
  rw [lowercaseFrom_eq_lowercaseWithin, ← List.forall₂_eq_eq_eq]
  refine forall₂_lowercaseWithin (fun _ => rfl) fun a b hpiece => ?_
  have hnone : a.all isCaseIgnorable = true → meetsCased b = false → meetsCased before = false := by
    rcases hbefore with rfl | hbefore
    · exact fun _ _ => rfl
    · exact fun ha hb => absurd ⟨a, b, hpiece, ha, hb⟩ hbefore
  have hnone' : b.all isCaseIgnorable = true → meetsCased a.reverse = true →
      meetsCased after = false := by
    rcases hafter with rfl | hafter
    · exact fun _ _ => rfl
    · exact fun hb ha => absurd ⟨a, b, hpiece, ha, hb⟩ hafter
  have hfinal : meetsCased (a.reverse ++ before) = true ∧ meetsCased (b ++ after) = false ↔
      meetsCased a.reverse = true ∧ meetsCased b = false := by
    rw [meetsCased_append, meetsCased_append, List.all_reverse]
    -- The neighbours of the piece are looked at on a side only where all that the piece has there
    -- is case ignorable.
    by_cases ha : a.all isCaseIgnorable = true
    · have hown : meetsCased a.reverse = false := meetsCased_of_all (by rwa [List.all_reverse])
      rw [if_pos ha, hown]
      refine iff_of_false (fun h => ?_) (fun h => Bool.false_ne_true h.1)
      have hb : meetsCased b = false := by
        by_cases hb : b.all isCaseIgnorable = true
        · exact meetsCased_of_all hb
        · rw [if_neg hb] at h
          exact h.2
      rw [hnone ha hb] at h
      exact Bool.false_ne_true h.1
    · rw [if_neg ha]
      by_cases hb : b.all isCaseIgnorable = true
      · rw [if_pos hb]
        exact and_congr_right fun hown => iff_of_true (hnone' hb hown) (meetsCased_of_all hb)
      · rw [if_neg hb]
  rw [List.append_nil, List.append_nil, lowercaseSigma, lowercaseSigma]
  simp only [Bool.and_eq_true, Bool.not_eq_true', hfinal]

variable {piece : List Char}

/-- More text behind a piece makes no sigma final. -/
theorem forall₂_lowercaseWithin_after (before after more piece : List Char) :
    List.Forall₂ (fun c d => d = 'ς' → c = 'ς') (lowercaseWithin before after piece)
      (lowercaseWithin before (after ++ more) piece) := by
  refine forall₂_lowercaseWithin (fun _ => id) fun a b _ hfinal => ?_
  rw [← List.append_assoc] at hfinal
  exact lowercaseSigma_of_append_after hfinal

/-- More text in front of a piece makes final sigmas only. -/
theorem forall₂_lowercaseWithin_before (before more after piece : List Char) :
    List.Forall₂ (fun c d => d = 'σ' → c = 'σ') (lowercaseWithin before after piece)
      (lowercaseWithin (before ++ more) after piece) := by
  refine forall₂_lowercaseWithin (fun _ => id) fun a b _ hother => ?_
  rw [← List.append_assoc] at hother
  exact lowercaseSigma_of_append_before hother

/-- A character does not occur more often where it stands only in places where it stood before. -/
theorem count_le_of_forall₂ {x : Char} {xs ys : List Char}
    (h : List.Forall₂ (fun c d => d = x → c = x) xs ys) : ys.count x ≤ xs.count x := by
  induction h with
  | nil => exact Nat.le_refl 0
  | @cons c d xs ys hcd _ ih =>
    rw [List.count_cons, List.count_cons]
    by_cases hd : d = x
    · rw [hd, hcd hd]
      exact Nat.add_le_add_right ih _
    · rw [beq_eq_false_iff_ne.2 hd, if_neg Bool.false_ne_true]
      exact Nat.le_add_right_of_le ih

/-- The characters of a piece are those before a sigma, the sigma, and those behind it. -/
theorem count_lowercaseWithin (x : Char) (before after a b : List Char) :
    (lowercaseWithin before after (a ++ 'Σ' :: b)).count x =
      (lowercaseWithin before ('Σ' :: b ++ after) a).count x +
        ((lowercaseWithin ('Σ' :: (a.reverse ++ before)) after b).count x +
          if lowercaseSigma (a.reverse ++ before) (b ++ after) = x then 1 else 0) := by
  rw [lowercaseWithin_append, lowercaseWithin, if_pos rfl, List.count_append, List.count_cons]
  simp only [beq_iff_eq]

/-- With a letter behind it, a piece that depends on it has one final sigma less. -/
theorem count_lt_of_dependsOnAfter (h : DependsOnAfter piece) {after : List Char}
    (hafter : meetsCased after = true) :
    (lowercaseWithin [] after piece).count 'ς' < (lowercaseFrom [] piece).count 'ς' := by
  obtain ⟨a, b, rfl, ha, hb⟩ := h
  have hfirst := count_le_of_forall₂ (forall₂_lowercaseWithin_after [] ('Σ' :: b) after a)
  have hrest := count_le_of_forall₂ (forall₂_lowercaseWithin_after ('Σ' :: a.reverse) [] after b)
  have hfinal : lowercaseSigma a.reverse b = 'ς' :=
    lowercaseSigma_eq_final_iff.2 ⟨ha, meetsCased_of_all hb⟩
  have hother : lowercaseSigma a.reverse (b ++ after) = 'σ' := by
    rw [lowercaseSigma_eq_other_iff, meetsCased_append, if_pos hb]
    exact .inr hafter
  rw [lowercaseFrom_eq_lowercaseWithin, count_lowercaseWithin, count_lowercaseWithin]
  simp only [List.append_nil]
  -- The sigma of the piece makes the difference; on either side of it, none becomes final.
  rw [hfinal, hother, if_pos rfl, if_neg (by decide)]
  exact Nat.add_lt_add_of_le_of_lt hfirst (Nat.lt_succ_of_le hrest)

/-- With a letter in front of it, a piece that depends on it has one other sigma less. -/
theorem count_lt_of_dependsOnBefore (h : DependsOnBefore piece) {before : List Char}
    (hbefore : meetsCased before = true) :
    (lowercaseWithin before [] piece).count 'σ' < (lowercaseFrom [] piece).count 'σ' := by
  obtain ⟨a, b, rfl, ha, hb⟩ := h
  have ha' : a.reverse.all isCaseIgnorable = true := by rwa [List.all_reverse]
  have hfirst := count_le_of_forall₂ (forall₂_lowercaseWithin_before [] before ('Σ' :: b) a)
  have hrest := count_le_of_forall₂ (forall₂_lowercaseWithin_before ('Σ' :: a.reverse) before [] b)
  have hother : lowercaseSigma a.reverse b = 'σ' :=
    lowercaseSigma_eq_other_iff.2 (.inl (meetsCased_of_all ha'))
  have hfinal : lowercaseSigma (a.reverse ++ before) b = 'ς' := by
    rw [lowercaseSigma_eq_final_iff, meetsCased_append, if_pos ha']
    exact ⟨hbefore, hb⟩
  rw [lowercaseFrom_eq_lowercaseWithin, count_lowercaseWithin, count_lowercaseWithin]
  simp only [List.append_nil]
  rw [hfinal, hother, if_pos rfl, if_neg (by decide)]
  exact Nat.add_lt_add_of_le_of_lt hfirst (Nat.lt_succ_of_le hrest)

/-! ### Pieces among the letters of a text -/

variable {text : List Char}

/-- What a text begins with, its lower case begins with in lower case, unless that depends on what
follows. -/
theorem lowercaseFrom_isPrefix (hafter : ¬DependsOnAfter piece) (h : piece <+: text) :
    lowercaseFrom [] piece <+: lowercaseFrom [] text := by
  obtain ⟨after, rfl⟩ := h
  rw [lowercaseFrom_append, lowercaseWithin_eq (.inl rfl) (.inr hafter)]
  exact List.prefix_append _ _

/-- What a text ends with, its lower case ends with in lower case, unless that depends on what
precedes it. -/
theorem lowercaseFrom_isSuffix (hbefore : ¬DependsOnBefore piece) (h : piece <:+ text) :
    lowercaseFrom [] piece <:+ lowercaseFrom [] text := by
  obtain ⟨before, rfl⟩ := h
  rw [lowercaseFrom_append, lowercaseFrom_eq_lowercaseWithin (before.reverse ++ []),
    lowercaseWithin_eq (.inr hbefore) (.inl rfl)]
  exact List.suffix_append _ _

/-- What occurs in a text occurs in its lower case in lower case, unless that depends on what stands
around it. -/
theorem lowercaseFrom_isInfix (hbefore : ¬DependsOnBefore piece) (hafter : ¬DependsOnAfter piece)
    (h : piece <:+: text) : lowercaseFrom [] piece <:+: lowercaseFrom [] text := by
  obtain ⟨before, after, rfl⟩ := h
  rw [List.append_assoc, lowercaseFrom_append, lowercaseFrom_append,
    lowercaseWithin_eq (.inr hbefore) (.inr hafter), ← List.append_assoc]
  exact List.infix_append _ _ _

/-- The letter `a` is its own lower case. -/
theorem lowercaseFrom_a (before rest : List Char) :
    lowercaseFrom before ('a' :: rest) = 'a' :: lowercaseFrom ('a' :: before) rest := by
  have ha : simpleLowercase 'a' = 'a' := by decide +kernel
  rw [lowercaseFrom, if_neg (by decide), if_neg (by decide), ha]

/-- The letter `a` has case. -/
theorem meetsCased_a : meetsCased ['a'] = true := by
  decide +kernel

/-- A piece that depends on what follows it does not occur in lower case once a letter follows. -/
theorem not_isInfix_of_dependsOnAfter (h : DependsOnAfter piece) :
    ¬lowercaseFrom [] piece <:+: lowercaseFrom [] (piece ++ ['a']) := by
  intro hinfix
  have hle := hinfix.sublist.count_le 'ς'
  have hlt := count_lt_of_dependsOnAfter h meetsCased_a
  rw [lowercaseFrom_append, lowercaseFrom_a, lowercaseFrom, List.count_append] at hle
  exact absurd hle (Nat.not_le_of_lt hlt)

/-- A piece that depends on what precedes it does not occur in lower case once a letter precedes
it. -/
theorem not_isInfix_of_dependsOnBefore (h : DependsOnBefore piece) :
    ¬lowercaseFrom [] piece <:+: lowercaseFrom [] ('a' :: piece) := by
  intro hinfix
  have hle := hinfix.sublist.count_le 'σ'
  have hlt := count_lt_of_dependsOnBefore h meetsCased_a
  rw [lowercaseFrom_a, List.count_cons_of_ne (by decide),
    lowercaseFrom_eq_lowercaseWithin ['a']] at hle
  exact absurd hle (Nat.not_le_of_lt hlt)

end QueryFilters.Text
