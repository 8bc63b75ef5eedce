import QueryFilters.Json.NumberText
import QueryFilters.Json.StringText

/-!
# Reading JSON

The grammar of JSON. Each reader takes a text and answers what it read together with the rest of the
text, which is shorter, so that reading ends.
-/

namespace QueryFilters.Json

/-- Whether JSON allows a character between its tokens. -/
def isSpace (c : Char) : Bool :=
  c = ' ' || c = '\t' || c = '\n' || c = '\r'

/-- The text after the spaces at its start. -/
def skip (text : List Char) : List Char :=
  text.dropWhile isSpace

/-- The rest of a text after something has been read from it. -/
abbrev Rest (text : List Char) := { rest : List Char // rest.length < text.length }

/-- A rest of a shorter text is a rest of a longer one. -/
def Rest.weaken {text shorter : List Char} (h : shorter.length ≤ text.length)
    (rest : Rest shorter) : Rest text :=
  ⟨rest.1, by have := rest.2; omega⟩

theorem length_skip_le (text : List Char) : (skip text).length ≤ text.length :=
  (List.dropWhile_suffix isSpace).length_le

/-- Reads a word at the start of a text. -/
def word? (word : List Char) (hword : word ≠ []) (json : Json) (text : List Char) :
    Option (Json × Rest text) :=
  match h : Text.after? word text with
  | some rest => some (json, ⟨rest, Text.length_lt_of_after? hword h⟩)
  | none => none

/-- Reads the code units of the rest of a string after its opening quote. -/
def units? (bare : Bool) (text : List Char) : Option (List Nat × Rest text) :=
  match h : JsonStringText.units? bare text with
  | some (units, rest) => some (units, ⟨rest, JsonStringText.length_lt_of_units? h⟩)
  | none => none

/-- The text that code units stand for. -/
def unitsText? (units : List Nat) : Option String :=
  (JsonStringText.chars? units).map String.ofList

/-- Reads the rest of a string after its opening quote. When `bare` is set, a string may hold bare
controls, but it is no text then. -/
def string? (bare : Bool) (text : List Char) : Option (Json × Rest text) :=
  match units? false text with
  | some (units, rest) =>
    some ((unitsText? units).elim (octets (JsonStringText.size units)) string, rest)
  | none =>
    if bare then
      (units? true text).map fun (units, rest) => (octets (JsonStringText.size units), rest)
    else none

/-- Reads a number. -/
def number? (text : List Char) : Option (Json × Rest text) :=
  match h : JsonNumberText.read? text with
  | some (written, rest) =>
    some (written.number?.elim unreadable number, ⟨rest, JsonNumberText.length_lt_of_read? h⟩)
  | none => none

/-- Reads one of the three words, a number or a string at the start of a text. -/
def scalar? (bare : Bool) : (text : List Char) → Option (Json × Rest text)
  | '\x22' :: tail => do
    let (s, rest) ← string? bare tail
    some (s, rest.weaken (by simp))
  | 'n' :: tail => word? "null".toList (by decide) null ('n' :: tail)
  | 't' :: tail => word? "true".toList (by decide) (bool true) ('t' :: tail)
  | 'f' :: tail => word? "false".toList (by decide) (bool false) ('f' :: tail)
  | text => number? text

/-- An object with the given members; a name without a value makes the object unreadable. -/
def ofMembers (members : List (Option String × Json)) : Json :=
  match members.mapM fun (name, value) => name.map (·, value) with
  | some members => object members
  | none => unreadable

/-- Reads a name and the colon after it. A name that is no text gives none. -/
def name? : (text : List Char) → Option (Option String × Rest text)
  | '\x22' :: tail => do
    let (units, rest) ← units? false tail
    match h : skip rest.1 with
    | ':' :: after =>
      some (unitsText? units, ⟨after, by
        have := length_skip_le rest.1
        have := rest.2
        simp only [h, List.length_cons] at *
        omega⟩)
    | _ => none
  | _ => none

mutual

/-- Reads a value that starts with the text. When `bare` is set, strings may hold bare controls. -/
def value? (bare : Bool) (text : List Char) : Option (Json × Rest text) :=
  match text with
  | [] => none
  | '[' :: tail =>
    match h : skip tail with
    | ']' :: rest =>
      some (array [], ⟨rest, by
        have := length_skip_le tail; simp only [h, List.length_cons] at *; omega⟩)
    | inner => do
      let (items, rest) ← items? bare inner
      some (array items, rest.weaken (by
        have := length_skip_le tail; simp only [h] at this; simp only [List.length_cons]; omega))
  | '\x7b' :: tail =>
    match h : skip tail with
    | '\x7d' :: rest =>
      some (object [], ⟨rest, by
        have := length_skip_le tail; simp only [h, List.length_cons] at *; omega⟩)
    | inner => do
      let (members, rest) ← members? bare inner
      some (ofMembers members, rest.weaken (by
        have := length_skip_le tail; simp only [h] at this; simp only [List.length_cons]; omega))
  | text => scalar? bare text
termination_by (text.length, 0)
decreasing_by
  all_goals
    have := length_skip_le tail
    simp_all only [List.length_cons, Prod.lex_def]
    omega

/-- Reads the items of an array up to its closing bracket. -/
def items? (bare : Bool) (text : List Char) : Option (List Json × Rest text) := do
  let (item, rest) ← value? bare text
  match h : skip rest.1 with
  | ']' :: after =>
    some ([item], ⟨after, by
      have := length_skip_le rest.1
      have := rest.2
      simp only [h, List.length_cons] at *
      omega⟩)
  | ',' :: after =>
    let (items, final) ← items? bare (skip after)
    some (item :: items, final.weaken (by
      have h₁ := length_skip_le rest.1
      have h₂ := length_skip_le after
      have := rest.2
      simp only [h, List.length_cons] at h₁
      omega))
  | _ => none
termination_by (text.length, 1)
decreasing_by
  · exact Prod.Lex.right _ (by decide)
  · have h₁ := length_skip_le rest.1
    have h₂ := length_skip_le after
    have := rest.2
    simp only [h, List.length_cons] at h₁
    simp only [Prod.lex_def]
    omega

/-- Reads the members of an object up to its closing brace. -/
def members? (bare : Bool) (text : List Char) :
    Option (List (Option String × Json) × Rest text) := do
  let (name, colon) ← name? text
  let (value, rest) ← value? bare (skip colon.1)
  match h : skip rest.1 with
  | '\x7d' :: after =>
    some ([(name, value)], ⟨after, by
      have := length_skip_le colon.1
      have := length_skip_le rest.1
      have := And.intro rest.2 colon.2
      simp only [h, List.length_cons] at *
      omega⟩)
  | ',' :: after =>
    let (members, final) ← members? bare (skip after)
    some ((name, value) :: members, final.weaken (by
      have h₀ := length_skip_le colon.1
      have h₁ := length_skip_le rest.1
      have h₂ := length_skip_le after
      have := And.intro rest.2 colon.2
      simp only [h, List.length_cons] at h₁
      omega))
  | _ => none
termination_by (text.length, 1)
decreasing_by
  · have h₀ := length_skip_le colon.1
    have := colon.2
    simp only [Prod.lex_def]
    omega
  · have h₀ := length_skip_le colon.1
    have h₁ := length_skip_le rest.1
    have h₂ := length_skip_le after
    have := And.intro rest.2 colon.2
    simp only [h, List.length_cons] at h₁
    simp only [Prod.lex_def]
    omega

end

/-- Reads a text that holds one document and nothing else. -/
def ofWhole? (bare : Bool) (text : String) : Option Json := do
  let (json, rest) ← value? bare (skip text.toList)
  if (skip rest.1).isEmpty then some json else none

/-- Reads a text that holds one document and nothing else, whatever its parts stand for. -/
def ofText? (text : String) : Option Json :=
  ofWhole? false text

/-- Reads a text that holds one document and nothing else, every part of which has a value. -/
def ofSoundText? (text : String) : Option Json :=
  (ofWhole? false text).filter isSound

/-- Reads a text that holds one document and nothing else, where strings may hold any bytes and no
part lies too deep. Who takes a value from the document settles which strings must be text. -/
def ofTextWithOctets? (text : String) : Option Json :=
  (ofWhole? true text).filter (·.depth ≤ depthLimit)

end QueryFilters.Json
