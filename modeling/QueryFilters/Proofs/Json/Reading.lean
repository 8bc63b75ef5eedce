import QueryFilters.Proofs.Json.Numbers
import QueryFilters.Proofs.Json.Strings
import QueryFilters.Proofs.Query.Source

/-!
# Documents that read back

The text of a document is read in front of anything that does not continue a number, so documents
read back one inside the other (`Json.Printable.reads`), and whole documents read back from whole
texts (`Json.ofTextWithOctets?_toText`).
-/

namespace QueryFilters.Json

/-- A document has a text of its own: it holds no part without a value, the integers without a sign
that it holds do not fit with one, and its doubles are met again by the reader. -/
inductive Printable : Json → Prop
  | null : Printable null
  | bool (b : Bool) : Printable (bool b)
  | integer (n : Int64) : Printable (number (.integer n))
  | natural {n : UInt64} (h : 2 ^ 63 ≤ n.toNat) : Printable (number (.natural n))
  | double {x : Float} (h : (JsonNumber.double x).ReadsBack) : Printable (number (.double x))
  | string (s : String) : Printable (string s)
  | array {items : List Json} (h : ∀ item ∈ items, Printable item) : Printable (array items)
  | object {members : List (String × Json)} (h : ∀ member ∈ members, Printable member.2) :
      Printable (object members)

/-- A text starts with something that is no space and closes nothing. -/
def Opens (text : List Char) : Prop :=
  ∃ c tail, text = c :: tail ∧ isSpace c = false ∧ c ≠ ']' ∧ c ≠ '\x7d'

theorem Opens.append {text : List Char} (h : Opens text) (rest : List Char) :
    Opens (text ++ rest) := by
  obtain ⟨c, tail, rfl, hc⟩ := h
  exact ⟨c, tail ++ rest, rfl, hc⟩

theorem Opens.skip_eq {text : List Char} (h : Opens text) : skip text = text := by
  obtain ⟨c, tail, rfl, hspace, -⟩ := h
  exact List.dropWhile_cons_of_neg (by simp [hspace])

/-- The document is read from its text in front of what does not continue a number. -/
structure Reads (bare : Bool) (json : Json) : Prop where
  opens : Opens json.toText.toList
  read : ∀ rest, JsonNumberText.Ends rest →
    ∃ h, value? bare (json.toText.toList ++ rest) = some (json, ⟨rest, h⟩)

/-! ### Scalars -/

theorem word?_append {word : List Char} (hword : word ≠ []) (json : Json) (rest : List Char) :
    ∃ h, word? word hword json (word ++ rest) = some (json, ⟨rest, h⟩) := by
  have hafter : Text.after? word (word ++ rest) = some rest := Text.after?_eq_some_iff.2 rfl
  refine ⟨Text.length_lt_of_after? hword hafter, ?_⟩
  unfold word?
  split
  · next heq =>
    rw [hafter] at heq
    cases heq
    rfl
  · next heq =>
    rw [hafter] at heq
    cases heq

theorem number?_append {n : JsonNumber} (h : n.ReadsBack) {rest : List Char}
    (hrest : JsonNumberText.Ends rest) :
    ∃ hlt, number? (n.toText.toList ++ rest) = some (number n, ⟨rest, hlt⟩) := by
  obtain ⟨written, hread, hnumber⟩ := h
  have happend := JsonNumberText.read?_append hread hrest
  refine ⟨JsonNumberText.length_lt_of_read? happend, ?_⟩
  unfold number?
  split
  · next heq =>
    rw [happend] at heq
    cases heq
    rw [hnumber]
    rfl
  · next heq =>
    rw [happend] at heq
    cases heq

/-- Where neither an array nor an object starts, a scalar does. -/
theorem value?_eq_scalar? (bare : Bool) {c : Char} (hbracket : c ≠ '[') (hbrace : c ≠ '\x7b')
    (text : List Char) : value? bare (c :: text) = scalar? bare (c :: text) := by
  rw [value?]
  · exact List.cons_ne_nil c text
  · exact fun _ heq => hbracket (List.cons.inj heq).1
  · exact fun _ heq => hbrace (List.cons.inj heq).1

theorem reads_null (bare : Bool) : Reads bare null where
  opens := ⟨_, _, rfl, by decide⟩
  read rest _ := by
    obtain ⟨h, hword⟩ := word?_append (show "null".toList ≠ [] by decide) null rest
    exact ⟨h, (value?_eq_scalar? bare (by decide) (by decide) _).trans hword⟩

theorem reads_true (bare : Bool) : Reads bare (bool true) where
  opens := ⟨_, _, rfl, by decide⟩
  read rest _ := by
    obtain ⟨h, hword⟩ := word?_append (show "true".toList ≠ [] by decide) (bool true) rest
    exact ⟨h, (value?_eq_scalar? bare (by decide) (by decide) _).trans hword⟩

theorem reads_false (bare : Bool) : Reads bare (bool false) where
  opens := ⟨_, _, rfl, by decide⟩
  read rest _ := by
    obtain ⟨h, hword⟩ := word?_append (show "false".toList ≠ [] by decide) (bool false) rest
    exact ⟨h, (value?_eq_scalar? bare (by decide) (by decide) _).trans hword⟩

theorem opens_quoted (s : String) : Opens (quoted s).toList := by
  rw [toList_quoted]
  exact ⟨_, _, rfl, by decide⟩

theorem reads_string (bare : Bool) (s : String) : Reads bare (string s) where
  opens := opens_quoted s
  read rest _ := by
    obtain ⟨h, hstring⟩ := string?_quoted bare s rest
    rw [toText, toList_quoted, List.cons_append, List.append_assoc, List.singleton_append,
      value?_eq_scalar? bare (by decide) (by decide), scalar?, hstring]
    exact ⟨Nat.lt_succ_of_lt h, rfl⟩

/-- What may start a number is none of the other characters. -/
theorem ne_of_lead {c d : Char} (h : c = '-' ∨ Digits.isDigit c = true)
    (hd : ¬(d = '-' ∨ Digits.isDigit d = true)) : c ≠ d := by
  rintro rfl
  exact hd h

/-- What starts like a number is read as one. -/
theorem value?_eq_number? (bare : Bool) {c : Char} (h : c = '-' ∨ Digits.isDigit c = true)
    (text : List Char) : value? bare (c :: text) = number? (c :: text) := by
  rw [value?_eq_scalar? bare (ne_of_lead h (by decide)) (ne_of_lead h (by decide)), scalar?]
  · exact fun _ heq => ne_of_lead h (by decide) (List.cons.inj heq).1
  · exact fun _ heq => ne_of_lead h (by decide) (List.cons.inj heq).1
  · exact fun _ heq => ne_of_lead h (by decide) (List.cons.inj heq).1
  · exact fun _ heq => ne_of_lead h (by decide) (List.cons.inj heq).1

theorem reads_number (bare : Bool) {n : JsonNumber} (h : n.ReadsBack) : Reads bare (number n) := by
  obtain ⟨written, hread, -⟩ := id h
  obtain ⟨c, tail, htext, hlead⟩ := JsonNumberText.exists_lead_of_read? hread
  have hne := fun d => ne_of_lead (d := d) hlead
  have hspace : isSpace c = false := by
    simp [isSpace, hne ' ' (by decide), hne '\t' (by decide), hne '\n' (by decide),
      hne '\r' (by decide)]
  refine ⟨⟨c, tail, htext, hspace, hne _ (by decide), hne _ (by decide)⟩, fun rest hrest => ?_⟩
  obtain ⟨hlt, hnumber⟩ := number?_append h hrest
  have hvalue : value? bare (n.toText.toList ++ rest) = number? (n.toText.toList ++ rest) := by
    rw [htext, List.cons_append, value?_eq_number? bare hlead]
  exact ⟨hlt, hvalue.trans hnumber⟩

/-! ### Arrays -/

/-- The last item of an array is read up to the bracket. -/
theorem items?_last {bare : Bool} {item : Json} (h : Reads bare item) (rest : List Char) :
    ∃ hlt, items? bare (item.toText.toList ++ ']' :: rest) = some ([item], ⟨rest, hlt⟩) := by
  obtain ⟨hlt, hitem⟩ := h.read (']' :: rest) (by rintro c ⟨⟩; decide)
  refine ⟨by simp; omega, ?_⟩
  rw [items?, hitem]
  simp only [Option.bind_eq_bind, Option.bind_some]
  split
  · next heq =>
    cases heq
    rfl
  · next heq => cases heq
  · next hclose _ => exact absurd rfl (hclose rest)

/-- An item is read up to the comma, and the other items after it. -/
theorem items?_more {bare : Bool} {item : Json} {items : List Json} (h : Reads bare item)
    {text rest : List Char} (hopens : Opens text)
    (hitems : ∃ hlt, items? bare text = some (items, ⟨rest, hlt⟩)) :
    ∃ hlt, items? bare (item.toText.toList ++ ',' :: text) = some (item :: items, ⟨rest, hlt⟩) := by
  obtain ⟨hltItems, hitems⟩ := hopens.skip_eq.symm ▸ hitems
  obtain ⟨hlt, hitem⟩ := h.read (',' :: text) (by rintro c ⟨⟩; decide)
  have hle := length_skip_le text
  refine ⟨by simp; omega, ?_⟩
  rw [items?, hitem]
  simp only [Option.bind_eq_bind, Option.bind_some]
  split
  · next heq => cases heq
  · next heq =>
    cases heq
    rw [hitems]
    rfl
  · next hcomma => exact absurd rfl (hcomma _)

theorem opens_itemsText {bare : Bool} {items : List Json} (hne : items ≠ [])
    (h : ∀ item ∈ items, Reads bare item) : Opens (itemsText items).toList := by
  obtain ⟨item, items, rfl⟩ := List.exists_cons_of_ne_nil hne
  rw [itemsText, String.toList_append]
  exact (h item (.head _)).opens.append _

/-- Items that are read one by one are read up to the bracket that closes their array. -/
theorem items?_itemsText {bare : Bool} {items : List Json} (hne : items ≠ [])
    (h : ∀ item ∈ items, Reads bare item) (rest : List Char) :
    ∃ hlt, items? bare ((itemsText items).toList ++ ']' :: rest) = some (items, ⟨rest, hlt⟩) := by
  induction items with
  | nil => exact absurd rfl hne
  | cons item items ih =>
    obtain ⟨hitem, hitems⟩ := List.forall_mem_cons.1 h
    cases items with
    | nil =>
      have htext : (itemsText [item]).toList ++ ']' :: rest =
          item.toText.toList ++ ']' :: rest := by simp [itemsText]
      rw [htext]
      exact items?_last hitem rest
    | cons next more =>
      have htext : (itemsText (item :: next :: more)).toList ++ ']' :: rest =
          item.toText.toList ++ ',' :: ((itemsText (next :: more)).toList ++ ']' :: rest) := by
        simp [itemsText]
      have hnext : next :: more ≠ [] := List.cons_ne_nil _ _
      rw [htext]
      exact items?_more hitem ((opens_itemsText hnext hitems).append _) (ih hnext hitems)

theorem toList_toText_array (items : List Json) :
    (array items).toText.toList = '[' :: ((itemsText items).toList ++ [']']) := by
  simp [toText]

theorem reads_array {bare : Bool} {items : List Json} (h : ∀ item ∈ items, Reads bare item) :
    Reads bare (array items) := by
  refine ⟨⟨_, _, toList_toText_array items, by decide⟩, fun rest _ => ?_⟩
  rw [toList_toText_array, List.cons_append, List.append_assoc, List.singleton_append]
  refine ⟨by simp; omega, ?_⟩
  rw [value?]
  by_cases hne : items = []
  · subst hne
    split
    · next heq =>
      cases heq
      rfl
    · next hclose => exact absurd rfl (hclose rest)
  · have hopens := opens_itemsText hne h
    have hskip := (hopens.append (']' :: rest)).skip_eq
    obtain ⟨hlt, hread⟩ := hskip.symm ▸ items?_itemsText hne h rest
    split
    · next heq =>
      obtain ⟨c, tail, htail, -, hc, -⟩ := hopens
      rw [hskip, htail] at heq
      exact absurd (List.cons.inj heq).1 hc
    · rw [hread]
      rfl

/-! ### Objects -/

/-- The last member of an object is read up to the brace. -/
theorem members?_last {bare : Bool} (name : String) {value : Json} (h : Reads bare value)
    (rest : List Char) :
    ∃ hlt, members? bare ((quoted name).toList ++ ':' :: (value.toText.toList ++ '\x7d' :: rest)) =
      some ([(some name, value)], ⟨rest, hlt⟩) := by
  have hskip := (h.opens.append ('\x7d' :: rest)).skip_eq
  obtain ⟨hltValue, hvalue⟩ := hskip.symm ▸ h.read ('\x7d' :: rest) (by rintro c ⟨⟩; decide)
  obtain ⟨hltName, hname⟩ := name?_quoted name (value.toText.toList ++ '\x7d' :: rest)
  refine ⟨by simp; omega, ?_⟩
  rw [members?, hname]
  simp only [Option.bind_eq_bind, Option.bind_some]
  rw [hvalue]
  simp only [Option.bind_some]
  split
  · next heq =>
    cases heq
    rfl
  · next heq => cases heq
  · next hclose _ => exact absurd rfl (hclose rest)

/-- A member is read up to the comma, and the other members after it. -/
theorem members?_more {bare : Bool} (name : String) {value : Json}
    {members : List (Option String × Json)} (h : Reads bare value) {text rest : List Char}
    (hopens : Opens text) (hmembers : ∃ hlt, members? bare text = some (members, ⟨rest, hlt⟩)) :
    ∃ hlt, members? bare ((quoted name).toList ++ ':' :: (value.toText.toList ++ ',' :: text)) =
      some ((some name, value) :: members, ⟨rest, hlt⟩) := by
  obtain ⟨hltMembers, hmembers⟩ := hopens.skip_eq.symm ▸ hmembers
  have hskip := (h.opens.append (',' :: text)).skip_eq
  obtain ⟨hltValue, hvalue⟩ := hskip.symm ▸ h.read (',' :: text) (by rintro c ⟨⟩; decide)
  obtain ⟨hltName, hname⟩ := name?_quoted name (value.toText.toList ++ ',' :: text)
  have hle := length_skip_le text
  refine ⟨by simp; omega, ?_⟩
  rw [members?, hname]
  simp only [Option.bind_eq_bind, Option.bind_some]
  rw [hvalue]
  simp only [Option.bind_some]
  split
  · next heq => cases heq
  · next heq =>
    cases heq
    rw [hmembers]
    rfl
  · next hcomma => exact absurd rfl (hcomma _)

theorem opens_membersText {members : List (String × Json)} (hne : members ≠ []) :
    Opens (membersText members).toList := by
  obtain ⟨⟨name, value⟩, members, rfl⟩ := List.exists_cons_of_ne_nil hne
  rw [membersText, String.toList_append, String.toList_append, String.toList_append]
  exact (((opens_quoted name).append _).append _).append _

/-- Members whose values are read one by one are read up to the brace that closes their object. -/
theorem members?_membersText {bare : Bool} {members : List (String × Json)} (hne : members ≠ [])
    (h : ∀ member ∈ members, Reads bare member.2) (rest : List Char) :
    ∃ hlt, members? bare ((membersText members).toList ++ '\x7d' :: rest) =
      some (members.map fun member => (some member.1, member.2), ⟨rest, hlt⟩) := by
  induction members with
  | nil => exact absurd rfl hne
  | cons member members ih =>
    obtain ⟨name, value⟩ := member
    obtain ⟨hvalue, hmembers⟩ := List.forall_mem_cons.1 h
    cases members with
    | nil =>
      have htext : (membersText [(name, value)]).toList ++ '\x7d' :: rest =
          (quoted name).toList ++ ':' :: (value.toText.toList ++ '\x7d' :: rest) := by
        simp [membersText]
      rw [htext]
      exact members?_last name hvalue rest
    | cons next more =>
      have htext : (membersText ((name, value) :: next :: more)).toList ++ '\x7d' :: rest =
          (quoted name).toList ++ ':' :: (value.toText.toList ++
            ',' :: ((membersText (next :: more)).toList ++ '\x7d' :: rest)) := by
        simp [membersText]
      have hnext : next :: more ≠ [] := List.cons_ne_nil _ _
      rw [htext]
      exact members?_more name hvalue ((opens_membersText hnext).append _)
        (ih hnext hmembers)

/-- Members that all have names make an object. -/
theorem ofMembers_map (members : List (String × Json)) :
    ofMembers (members.map fun member => (some member.1, member.2)) = object members := by
  have hnamed : ∀ {name? : Option String × Json → Option (String × Json)},
      (∀ name value, name? (some name, value) = some (name, value)) →
        (members.map fun member => (some member.1, member.2)).mapM name? = some members := by
    intro name? hname
    induction members with
    | nil => rfl
    | cons member members ih => simp [List.mapM_cons, hname, ih]
  rw [ofMembers, hnamed fun _ _ => rfl]

theorem toList_toText_object (members : List (String × Json)) :
    (object members).toText.toList = '\x7b' :: ((membersText members).toList ++ ['\x7d']) := by
  simp [toText]

theorem reads_object {bare : Bool} {members : List (String × Json)}
    (h : ∀ member ∈ members, Reads bare member.2) : Reads bare (object members) := by
  refine ⟨⟨_, _, toList_toText_object members, by decide⟩, fun rest _ => ?_⟩
  rw [toList_toText_object, List.cons_append, List.append_assoc, List.singleton_append]
  refine ⟨by simp; omega, ?_⟩
  rw [value?]
  by_cases hne : members = []
  · subst hne
    split
    · next heq =>
      cases heq
      rfl
    · next hclose => exact absurd rfl (hclose rest)
  · have hopens := opens_membersText hne
    have hskip := (hopens.append ('\x7d' :: rest)).skip_eq
    obtain ⟨hlt, hread⟩ := hskip.symm ▸ members?_membersText hne h rest
    split
    · next heq =>
      obtain ⟨c, tail, htail, -, -, hc⟩ := hopens
      rw [hskip, htail] at heq
      exact absurd (List.cons.inj heq).1 hc
    · rw [hread]
      simp only [Option.bind_eq_bind, Option.bind_some, ofMembers_map]
      rfl

/-! ### Whole documents -/

/-- A document with a text of its own is read from it in front of what does not continue a number.
-/
theorem Printable.reads {json : Json} (h : json.Printable) (bare : Bool) : Reads bare json := by
  induction h with
  | null => exact reads_null bare
  | bool b =>
    cases b with
    | true => exact reads_true bare
    | false => exact reads_false bare
  | integer n => exact reads_number bare (JsonNumber.readsBack_integer n)
  | natural h => exact reads_number bare (JsonNumber.readsBack_natural h)
  | double h => exact reads_number bare h
  | string s => exact reads_string bare s
  | array _ ih => exact reads_array ih
  | object _ ih => exact reads_object ih

/-- A document with a text of its own reads back from it. -/
theorem ofWhole?_toText {json : Json} (h : json.Printable) (bare : Bool) :
    ofWhole? bare json.toText = some json := by
  have hreads := h.reads bare
  have htext : json.toText.toList ++ [] = skip json.toText.toList := by
    rw [List.append_nil, hreads.opens.skip_eq]
  obtain ⟨hlt, hread⟩ := htext ▸ hreads.read [] .nil
  rw [ofWhole?, hread]
  rfl

/-- A document with a text of its own reads back from it, whatever strings the reader admits, if it
is not nested too deep. -/
theorem ofTextWithOctets?_toText {json : Json} (h : json.Printable)
    (hdepth : json.depth ≤ depthLimit) : ofTextWithOctets? json.toText = some json := by
  rw [ofTextWithOctets?, ofWhole?_toText h, Option.filter_some]
  exact if_pos (decide_eq_true hdepth)

end QueryFilters.Json
